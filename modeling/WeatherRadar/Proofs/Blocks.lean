/-!
# Blocks of equal length

Lists of one length are written one behind the other: the vertices of quads, the bytes of pixels,
the rows of an image.  The `k`-th block starts at `k` times their length (`drop_flatMap`).
-/

namespace WeatherRadar

variable {β γ : Type} {f : β → List γ} {items : List β} {n : Nat}

theorem length_flatMap_of_length (hlength : ∀ item ∈ items, (f item).length = n) :
    (items.flatMap f).length = n * items.length := by
  induction items with
  | nil => rfl
  | cons item items ih =>
      rw [List.flatMap_cons, List.length_append, hlength item (by simp),
        ih fun other hother => hlength other (by simp [hother]), List.length_cons, Nat.mul_succ,
        Nat.add_comm]

/-- Behind some blocks there are the blocks that remain. -/
theorem drop_flatMap (hlength : ∀ item ∈ items, (f item).length = n) (k : Nat) :
    (items.flatMap f).drop (n * k) = (items.drop k).flatMap f := by
  induction items generalizing k with
  | nil => rw [List.flatMap_nil, List.drop_nil, List.drop_nil, List.flatMap_nil]
  | cons item items ih =>
      cases k with
      | zero => rw [Nat.mul_zero, List.drop_zero, List.drop_zero]
      | succ k =>
          have hfirst : (f item).length = n := hlength item (by simp)
          rw [List.flatMap_cons, Nat.mul_succ, Nat.add_comm, ← List.drop_drop, ← hfirst,
            List.drop_left, hfirst, ih fun other hother => hlength other (by simp [hother]),
            List.drop_succ_cons]

/-- The `k`-th block. -/
theorem take_drop_flatMap (hlength : ∀ item ∈ items, (f item).length = n) {k : Nat} {item : β}
    (hk : items[k]? = some item) : ((items.flatMap f).drop (n * k)).take n = f item := by
  obtain ⟨hlt, rfl⟩ := List.getElem?_eq_some_iff.1 hk
  rw [drop_flatMap hlength, List.drop_eq_getElem_cons hlt, List.flatMap_cons,
    ← hlength _ (List.getElem_mem hlt), List.take_left]

/-- The items of the `k`-th block. -/
theorem getElem?_flatMap_of_length (hlength : ∀ item ∈ items, (f item).length = n) (k : Nat)
    {i : Nat} (hi : i < n) :
    (items.flatMap f)[n * k + i]? = items[k]?.bind fun item => (f item)[i]? := by
  cases hk : items[k]? with
  | none =>
      have hbehind : items.length ≤ k := List.getElem?_eq_none_iff.1 hk
      have hend : (items.flatMap f).length ≤ n * k + i := by
        rw [length_flatMap_of_length hlength]
        exact Nat.le_trans (Nat.mul_le_mul_left n hbehind) (Nat.le_add_right _ _)
      rw [List.getElem?_eq_none hend]
      rfl
  | some item =>
      rw [Option.bind_some, ← take_drop_flatMap hlength hk, List.getElem?_take_of_lt hi,
        List.getElem?_drop]

theorem getElem?_flatMap_replicate (f : β → γ) (items : List β) (k : Nat) {n i : Nat} (hi : i < n) :
    (items.flatMap fun item => List.replicate n (f item))[n * k + i]? = items[k]?.map f := by
  rw [getElem?_flatMap_of_length (fun _ _ => List.length_replicate) k hi, Option.map_eq_bind]
  congr 1
  funext item
  exact List.getElem?_replicate_of_lt hi

/-- The blocks of a list, one behind the other, are its beginning. -/
theorem flatMap_blocks (items : List γ) (n count : Nat) :
    ((List.range count).flatMap fun i => (items.drop (i * n)).take n) = items.take (count * n) := by
  induction count with
  | zero => rw [Nat.zero_mul, List.take_zero, List.range_zero, List.flatMap_nil]
  | succ count ih =>
      rw [List.range_succ, List.flatMap_append, ih, List.flatMap_singleton, Nat.succ_mul,
        List.take_add]

theorem extract_block (items : List γ) (n i : Nat) :
    (items.toArray.extract (i * n) ((i + 1) * n)).toList = (items.drop (i * n)).take n := by
  rw [Array.toList_extract, List.extract_eq_take_drop, Nat.succ_mul, Nat.add_sub_cancel_left]

end WeatherRadar
