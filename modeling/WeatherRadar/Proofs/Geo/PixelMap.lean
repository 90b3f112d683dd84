import Mathlib.Data.Finset.Card
import Mathlib.Data.List.Dedup
import Mathlib.Data.List.Range
import WeatherRadar.Proofs.Geo.PolarTable
/-!
# Tables as finite maps

A table that is filled by putting one gate after another holds for each of its pixels the last one
put there (`filledBy_setAll`).  The bits of its words are those of its pixels and no others, so they
are as many as the pixels that hold a gate (`FilledBy.validCount_eq`).
-/

namespace WeatherRadar.Geo.PolarTable

/-! ## Counting bits -/

/-- A bit of words in a row. -/
def bitAt (words : List UInt64) (n : Nat) : Bool := (words.getD (n / 64) 0).toNat.testBit (n % 64)

theorem bitAt_cons_of_lt (word : UInt64) (words : List UInt64) {n : Nat} (hn : n < 64) :
    bitAt (word :: words) n = word.toNat.testBit n := by
  rw [bitAt, Nat.div_eq_of_lt hn, Nat.mod_eq_of_lt hn, List.getD_cons_zero]

theorem bitAt_cons_add (word : UInt64) (words : List UInt64) (n : Nat) :
    bitAt (word :: words) (64 + n) = bitAt words n := by
  rw [bitAt, bitAt, Nat.add_div_left n (by decide), Nat.add_mod_left, List.getD_cons_succ]

/-- Bits that are counted word by word are counted one by one. -/
theorem sum_bitCount (words : List UInt64) :
    (words.map bitCount).sum = (List.range (64 * words.length)).countP (bitAt words) := by
  induction words with
  | nil => rfl
  | cons word words ih =>
      have hfirst : (List.range 64).countP (bitAt (word :: words)) = bitCount word :=
        List.countP_congr fun n hn => by rw [bitAt_cons_of_lt _ _ (List.mem_range.1 hn)]
      have hrest : (fun n => bitAt (word :: words) (64 + n)) = bitAt words :=
        funext (bitAt_cons_add word words)
      rw [List.map_cons, List.sum_cons, ih, List.length_cons, Nat.mul_succ, Nat.add_comm (64 * _),
        List.range_add, List.countP_append, List.countP_map, hfirst]
      exact congrArg (bitCount word + List.countP · _) hrest.symm

theorem isValid_eq_bitAt (table : PolarTable) (pixel : Nat) :
    table.isValid pixel = bitAt table.bitmap.toList pixel := by
  rw [isValid_eq, bitAt, Array.getD_eq_getD_getElem?, List.getD_eq_getElem?_getD,
    Array.getElem?_toList]

theorem validCount_eq_sum (table : PolarTable) :
    table.validCount = (table.bitmap.toList.map bitCount).sum := by
  rw [validCount, ← Array.foldl_toList, List.sum_eq_foldl_nat, List.foldl_map]

theorem validCount_eq_countP (table : PolarTable) :
    table.validCount = (List.range (64 * table.bitmap.size)).countP table.isValid := by
  have hvalid : table.isValid = bitAt table.bitmap.toList := funext (isValid_eq_bitAt table)
  rw [validCount_eq_sum, sum_bitCount, hvalid, Array.length_toList]

/-! ## What is put into a table -/

/-- Puts one gate after another: a pixel, a radial and a gate of it. -/
def setAll (table : PolarTable) (puts : List (Nat × Nat × Nat)) : PolarTable :=
  puts.foldl (fun table (pixel, radial, gate) => table.set pixel radial gate) table

/-- The radial and gate that are put under a pixel last. -/
def lastPut? (puts : List (Nat × Nat × Nat)) (pixel : Nat) : Option (Nat × Nat) :=
  (puts.filter (·.1 == pixel)).getLast?.map (·.2)

/-- The numbers of radials and gates are of 32 bits. -/
def AreSmall (puts : List (Nat × Nat × Nat)) : Prop :=
  ∀ put ∈ puts, put.2.1 < 2 ^ 32 ∧ put.2.2 < 2 ^ 32

instance (puts : List (Nat × Nat × Nat)) : Decidable (AreSmall puts) :=
  inferInstanceAs (Decidable (∀ put ∈ puts, put.2.1 < 2 ^ 32 ∧ put.2.2 < 2 ^ 32))

/-- The pixels before the `count`-th one that something is put under. -/
def pixelsPut (count : Nat) (puts : List (Nat × Nat × Nat)) : Finset Nat :=
  (puts.map (·.1)).toFinset.filter (· < count)

variable {puts : List (Nat × Nat × Nat)} {pixel radial gate : Nat}

theorem lastPut?_concat (puts : List (Nat × Nat × Nat)) (put : Nat × Nat × Nat) (pixel : Nat) :
    lastPut? (puts ++ [put]) pixel = if put.1 = pixel then some put.2 else lastPut? puts pixel := by
  rw [lastPut?, List.filter_append]
  by_cases hpixel : put.1 = pixel
  · simp [hpixel]
  · simp [hpixel, lastPut?]

theorem lastPut?_isSome_iff : (lastPut? puts pixel).isSome = true ↔ pixel ∈ puts.map (·.1) := by
  rw [lastPut?, Option.isSome_map, List.getLast?_isSome, List.mem_map]
  constructor
  · intro hne
    obtain ⟨put, hput⟩ := List.exists_mem_of_ne_nil _ hne
    obtain ⟨hmem, hpixel⟩ := List.mem_filter.1 hput
    exact ⟨put, hmem, beq_iff_eq.1 hpixel⟩
  · rintro ⟨put, hmem, hpixel⟩
    exact List.ne_nil_of_mem (List.mem_filter.2 ⟨hmem, beq_iff_eq.2 hpixel⟩)

theorem set_of_size_le {table : PolarTable} (h : table.cells.size ≤ pixel) (radial gate : Nat) :
    table.set pixel radial gate = table := by
  rw [set, if_neg (Nat.not_lt.2 h)]

/-- A table with a number of pixels holds for each of them the last gate that is put there. -/
structure FilledBy (table : PolarTable) (count : Nat) (puts : List (Nat × Nat × Nat)) : Prop where
  hasBits : table.HasBits
  size_cells : table.cells.size = count
  get?_eq : ∀ pixel, table.get? pixel = if pixel < count then lastPut? puts pixel else none

theorem filledBy_empty (width height : Nat) :
    (empty width height).FilledBy (width * height) [] where
  hasBits := hasBits_empty width height
  size_cells := Array.size_replicate
  get?_eq pixel := by
    rw [get?_empty]
    exact (ite_self none).symm

theorem kept_of_small (hradial : radial < 2 ^ 32) (hgate : gate < 2 ^ 32) :
    kept (radial, gate) = (radial, gate) := by
  rw [kept, Nat.mod_eq_of_lt hradial, Nat.mod_eq_of_lt hgate]

/-- One more gate is put. -/
theorem FilledBy.set {table : PolarTable} {count : Nat} (h : table.FilledBy count puts)
    (hradial : radial < 2 ^ 32) (hgate : gate < 2 ^ 32) :
    (table.set pixel radial gate).FilledBy count (puts ++ [(pixel, radial, gate)]) where
  hasBits := h.hasBits.set pixel radial gate
  size_cells := (size_cells_set table pixel radial gate).trans h.size_cells
  get?_eq other := by
    rw [lastPut?_concat]
    by_cases hpixel : pixel < count
    · rw [get?_set h.hasBits (h.size_cells ▸ hpixel), kept_of_small hradial hgate, h.get?_eq]
      by_cases hsame : pixel = other
      · rw [if_pos hsame, if_pos hsame, if_pos (hsame ▸ hpixel)]
      · rw [if_neg hsame, if_neg hsame]
    · -- The pixel lies outside, and whatever is inside is another one.
      rw [set_of_size_le (by rw [h.size_cells]; exact Nat.not_lt.1 hpixel), h.get?_eq]
      by_cases hother : other < count
      · have hne : pixel ≠ other := fun hsame => hpixel (hsame ▸ hother)
        rw [if_neg hne]
      · rw [if_neg hother, if_neg hother]

theorem filledBy_setAll (hsmall : AreSmall puts) (width height : Nat) :
    ((empty width height).setAll puts).FilledBy (width * height) puts := by
  induction puts using List.reverseRecOn with
  | nil => exact filledBy_empty width height
  | append_singleton puts put ih =>
      obtain ⟨hputs, hput⟩ := List.forall_mem_append.1 hsmall
      obtain ⟨hradial, hgate⟩ := hput put (List.mem_singleton_self put)
      rw [setAll, List.foldl_concat]
      exact (ih hputs).set hradial hgate

/-! ## What a table answers -/

namespace FilledBy

variable {table : PolarTable} {count : Nat}

theorem isValid_iff (h : table.FilledBy count puts) :
    table.isValid pixel = true ↔ pixel ∈ pixelsPut count puts := by
  have hsome : table.isValid pixel = (table.get? pixel).isSome := by
    rw [get?]
    cases table.isValid pixel <;> rfl
  rw [hsome, h.get?_eq, pixelsPut, Finset.mem_filter, List.mem_toFinset, ← lastPut?_isSome_iff]
  by_cases hpixel : pixel < count
  · rw [if_pos hpixel, and_iff_left hpixel]
  · rw [if_neg hpixel]
    exact ⟨fun hnone => (Bool.false_ne_true hnone).elim, fun hmem => (hpixel hmem.2).elim⟩

/-- The bits are counted that belong to pixels. -/
theorem validCount_eq (h : table.FilledBy count puts) :
    table.validCount = (pixelsPut count puts).card := by
  have hroom : count ≤ 64 * table.bitmap.size := by
    rw [h.hasBits, h.size_cells]
    omega
  have hnodup : ((List.range (64 * table.bitmap.size)).filter table.isValid).Nodup :=
    List.nodup_range.filter _
  rw [validCount_eq_countP, List.countP_eq_length_filter, ← List.toFinset_card_of_nodup hnodup]
  congr 1
  ext pixel
  rw [List.mem_toFinset, List.mem_filter, List.mem_range, h.isValid_iff, and_iff_right_iff_imp]
  intro hmem
  exact (Finset.mem_filter.1 hmem).2.trans_le hroom

theorem mem_toList_iff (h : table.FilledBy count puts) : (pixel, radial, gate) ∈ table.toList ↔
    pixel < count ∧ lastPut? puts pixel = some (radial, gate) := by
  rw [toList, List.mem_filterMap, pixelCount, h.size_cells]
  constructor
  · rintro ⟨other, hother, hfound⟩
    obtain ⟨found, hget, heq⟩ := Option.map_eq_some_iff.1 hfound
    cases heq
    have hpixel := List.mem_range.1 hother
    rw [h.get?_eq, if_pos hpixel] at hget
    exact ⟨hpixel, hget⟩
  · rintro ⟨hpixel, hlast⟩
    refine ⟨pixel, List.mem_range.2 hpixel, ?_⟩
    rw [h.get?_eq, if_pos hpixel, hlast]
    rfl

end FilledBy

/-- The pixels that have a gate are listed in their order. -/
theorem pairwise_toList (table : PolarTable) : table.toList.Pairwise (·.1 < ·.1) := by
  rw [toList, List.pairwise_filterMap]
  refine List.pairwise_lt_range.imp fun {pixel other} hlt entry hentry next hnext => ?_
  obtain ⟨_, -, rfl⟩ := Option.map_eq_some_iff.1 hentry
  obtain ⟨_, -, rfl⟩ := Option.map_eq_some_iff.1 hnext
  exact hlt

/-- A table is a finite map from its pixels to radials and gates.  A pixel holds what is put there
last, and a number past the last pixel holds nothing; the pixels that hold anything are counted, and
they are listed once each, in their order, with what they hold.  What is put past the last pixel
changes nothing. -/
theorem setAll_is_map (width height : Nat) (hsmall : AreSmall puts) :
    let table := (empty width height).setAll puts
    (∀ pixel, table.get? pixel = if pixel < width * height then lastPut? puts pixel else none) ∧
      table.validCount = (pixelsPut (width * height) puts).card ∧
      (table.toList.Pairwise (·.1 < ·.1) ∧
        ∀ pixel radial gate, (pixel, radial, gate) ∈ table.toList ↔
          pixel < width * height ∧ lastPut? puts pixel = some (radial, gate)) ∧
      ∀ pixel radial gate, width * height ≤ pixel → table.set pixel radial gate = table := by
  intro table
  have hfilled : table.FilledBy (width * height) puts := filledBy_setAll hsmall width height
  refine ⟨hfilled.get?_eq, hfilled.validCount_eq,
    ⟨pairwise_toList table, fun pixel radial gate => hfilled.mem_toList_iff⟩, ?_⟩
  intro pixel radial gate hpixel
  exact set_of_size_le (hfilled.size_cells ▸ hpixel) radial gate

/-- In a table of a hundred pixels, the last of two words is not used up: a number in the rest of it
holds nothing, and a pixel that is put twice is counted once. -/
theorem setAll_is_map_last_word :
    let table := (empty 10 10).setAll [(99, 1, 2), (100, 1, 2), (5, 0, 0), (99, 3, 7)]
    table.get? 99 = some (3, 7) ∧ table.get? 100 = none ∧ table.validCount = 2 := by
  intro table
  have hsmall : AreSmall [(99, 1, 2), (100, 1, 2), (5, 0, 0), (99, 3, 7)] := by decide
  obtain ⟨hget, hcount, -⟩ := setAll_is_map 10 10 hsmall
  refine ⟨(hget 99).trans (by decide), (hget 100).trans (by decide), hcount.trans (by decide)⟩

end WeatherRadar.Geo.PolarTable
