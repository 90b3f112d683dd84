import Mathlib.Data.List.Basic
import Mathlib.Order.Basic
import WeatherRadar.Search
/-!
# The place that a search ends at

If the members of an array that pass a test come before those that fail it, the binary search
returns the place between them (`partitionPoint_spec`), and therefore the number of members that
pass (`partitionPoint_eq_countP`).
-/

namespace WeatherRadar

variable {α : Type} {passes : α → Bool} {xs : Array α}

/-- Where a member passes a test, so do all members before it. -/
def IsPartitioned (passes : α → Bool) (xs : List α) : Prop :=
  xs.Pairwise fun x y => passes y = true → passes x = true

theorem IsPartitioned.getElem {xs : List α} (h : IsPartitioned passes xs) {i j : Nat}
    (hij : i ≤ j) (hj : j < xs.length) (hpasses : passes xs[j] = true) : passes xs[i] = true := by
  obtain rfl | hlt := Nat.eq_or_lt_of_le hij
  · exact hpasses
  · exact List.pairwise_iff_getElem.1 h i j _ hj hlt hpasses

/-- The members that pass come first. -/
theorem IsPartitioned.filter_eq_take {xs : List α} (h : IsPartitioned passes xs) :
    xs.filter passes = xs.take (xs.countP passes) := by
  induction xs with
  | nil => rfl
  | cons x rest ih =>
      obtain ⟨hx, hrest⟩ := List.pairwise_cons.1 h
      by_cases hpasses : passes x = true
      · rw [List.filter_cons_of_pos hpasses, List.countP_cons_of_pos hpasses,
          List.take_succ_cons, ih hrest]
      · have hfails : ∀ y ∈ x :: rest, ¬passes y = true :=
          List.forall_mem_cons.2 ⟨hpasses, fun y hy => mt (hx y hy) hpasses⟩
        rw [List.filter_eq_nil_iff.2 hfails, List.countP_eq_zero.2 hfails, List.take_zero]

/-- What passes stays before the place of the search, and what fails behind it. -/
theorem partitionPointWithin_spec (h : IsPartitioned passes xs.toList) {low high : Nat}
    (hhigh : high ≤ xs.size) (hle : low ≤ high)
    (hbelow : ∀ i (hi : i < xs.size), i < low → passes xs[i] = true)
    (habove : ∀ i (hi : i < xs.size), high ≤ i → passes xs[i] = false) :
    partitionPointWithin passes xs low high hhigh ≤ xs.size ∧
      ∀ i (hi : i < xs.size),
        passes xs[i] = true ↔ i < partitionPointWithin passes xs low high hhigh := by
  fun_induction partitionPointWithin passes xs low high hhigh with
  | case1 low high hhigh hlt middle hmiddle hpasses ih =>
      refine ih (by omega) (fun i hi hlow => ?_) habove
      exact h.getElem (Nat.le_of_lt_succ hlow) hmiddle hpasses
  | case2 low high hhigh hlt middle hmiddle hfails ih =>
      refine ih (by omega) hbelow (fun i hi hmid => ?_)
      rw [Bool.eq_false_iff]
      exact fun hpasses => hfails (h.getElem hmid hi hpasses)
  | case3 low high hhigh hlt =>
      refine ⟨Nat.le_trans hle hhigh, fun i hi => ⟨fun hpasses => ?_, hbelow i hi⟩⟩
      by_contra hnot
      rw [habove i hi (by omega)] at hpasses
      cases hpasses

theorem partitionPoint_spec (h : IsPartitioned passes xs.toList) :
    partitionPoint passes xs ≤ xs.size ∧
      ∀ i (hi : i < xs.size), passes xs[i] = true ↔ i < partitionPoint passes xs :=
  partitionPointWithin_spec h (Nat.le_refl _) (Nat.zero_le _)
    (fun _ _ hlow => absurd hlow (Nat.not_lt_zero _))
    fun _ hi hhigh => absurd hi (Nat.not_lt.2 hhigh)

theorem partitionPoint_eq_countP (h : IsPartitioned passes xs.toList) :
    partitionPoint passes xs = xs.toList.countP passes := by
  obtain ⟨hle, hplace⟩ := partitionPoint_spec h
  have hfront : (xs.toList.take (partitionPoint passes xs)).countP passes =
      partitionPoint passes xs := by
    rw [List.countP_eq_length.2, List.length_take, Array.length_toList, Nat.min_eq_left hle]
    intro x hx
    obtain ⟨i, hi, rfl⟩ := List.mem_iff_getElem.1 hx
    rw [List.length_take, Array.length_toList] at hi
    rw [List.getElem_take]
    exact (hplace i (by omega)).2 (by omega)
  have hback : (xs.toList.drop (partitionPoint passes xs)).countP passes = 0 := by
    rw [List.countP_eq_zero]
    intro x hx
    obtain ⟨i, hi, rfl⟩ := List.mem_iff_getElem.1 hx
    rw [List.length_drop, Array.length_toList] at hi
    rw [List.getElem_drop]
    exact fun hpasses => absurd ((hplace _ (by omega)).1 hpasses) (by omega)
  calc partitionPoint passes xs
      = (xs.toList.take (partitionPoint passes xs)).countP passes +
          (xs.toList.drop (partitionPoint passes xs)).countP passes := by
        rw [hfront, hback, Nat.add_zero]
    _ = xs.toList.countP passes := by rw [← List.countP_append, List.take_append_drop]

end WeatherRadar
