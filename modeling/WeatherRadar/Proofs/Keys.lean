import Mathlib.Data.List.Nodup
import Mathlib.Data.List.Pairwise
/-!
# Lists of different keys

Where no two members of a list have the same key, a search by key finds the one that has it, in
whatever order the members stand, and there is one strictly ascending order of the keys.
-/

namespace WeatherRadar

variable {α κ : Type} {key : α → κ} {xs ys : List α}

/-! ## Searches -/

section Searches

variable [BEq κ] [LawfulBEq κ] {k : κ} {x : α}

theorem find?_key_eq_some_iff (hkeys : (xs.map key).Nodup) :
    xs.find? (key · == k) = some x ↔ x ∈ xs ∧ key x = k := by
  have hfind : ∀ y, xs.find? (key · == k) = some y → y ∈ xs ∧ key y = k := by
    intro y hfound
    have hkey := List.find?_some hfound
    exact ⟨List.mem_of_find?_eq_some hfound, beq_iff_eq.1 hkey⟩
  constructor
  · exact hfind x
  · rintro ⟨hmem, rfl⟩
    have hsome : (xs.find? (key · == key x)).isSome = true :=
      List.find?_isSome.2 ⟨x, hmem, BEq.rfl⟩
    obtain ⟨y, hfound⟩ := Option.isSome_iff_exists.1 hsome
    obtain ⟨hy, hkey⟩ := hfind y hfound
    rw [hfound, List.inj_on_of_nodup_map hkeys hy hmem hkey]

theorem find?_key_perm (hkeys : (xs.map key).Nodup) (hperm : ys.Perm xs) :
    ys.find? (key · == k) = xs.find? (key · == k) := by
  apply Option.ext
  intro x
  rw [find?_key_eq_some_iff hkeys, find?_key_eq_some_iff ((hperm.map key).nodup_iff.2 hkeys),
    hperm.mem_iff]

end Searches

/-! ## The ascending order -/

section Order

variable [LE κ] [LT κ] [DecidableLE κ] [Std.IsLinearOrder κ] [Std.LawfulOrderLT κ]

theorem pairwise_mergeSort_key (hkeys : (xs.map key).Nodup) :
    (xs.mergeSort fun a b => key a ≤ key b).Pairwise (key · < key ·) := by
  have hle : (xs.mergeSort fun a b => key a ≤ key b).Pairwise
      fun a b => decide (key a ≤ key b) = true :=
    List.pairwise_mergeSort (by simpa using fun _ _ _ => Std.le_trans)
      (by simpa using fun _ _ => Std.le_total) _
  have hne : ((xs.mergeSort fun a b => key a ≤ key b).map key).Nodup :=
    ((List.mergeSort_perm _ _).map _).nodup_iff.2 hkeys
  refine hle.imp₂ (fun a b hab hne => ?_) (List.pairwise_map.1 hne)
  exact Std.lt_of_le_of_ne (of_decide_eq_true hab) hne

theorem eq_mergeSort_key (hkeys : (xs.map key).Nodup) (hperm : ys.Perm xs)
    (horder : ys.Pairwise (key · < key ·)) : ys = xs.mergeSort fun a b => key a ≤ key b :=
  List.Perm.eq_of_pairwise (fun _ _ _ _ hab hba => absurd hba (Std.not_gt_of_lt hab)) horder
    (pairwise_mergeSort_key hkeys) (hperm.trans (List.mergeSort_perm _ _).symm)

end Order

end WeatherRadar
