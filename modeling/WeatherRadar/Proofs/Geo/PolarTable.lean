import Mathlib.Algebra.Ring.Nat
import WeatherRadar.Geo.PolarTable
/-!
# Gates looked up in a table

The cells and the packed bits of a table make a finite map from pixels to radials and gates
(`get?_set`), so the table of a grid holds for each pixel the gate under its center (`get?_build`).
Numbers are kept in 32 bits.
-/

namespace WeatherRadar.Geo.PolarTable

/-! ## Bits of a word -/

theorem bit_eq_testBit (word : UInt64) {bit : Nat} (hbit : bit < 64) :
    ((word >>> UInt64.ofNat bit) &&& 1 == 1) = word.toNat.testBit bit := by
  have hshift : (UInt64.ofNat bit).toNat % 64 = bit := by
    rw [UInt64.toNat_ofNat_of_lt' (show bit < 2 ^ 64 by omega), Nat.mod_eq_of_lt hbit]
  have hvalue : ((word >>> UInt64.ofNat bit) &&& 1).toNat = word.toNat >>> bit % 2 := by
    rw [UInt64.toNat_and, UInt64.toNat_shiftRight, hshift]
    exact Nat.and_one_is_mod _
  rw [Nat.testBit_eq_decide_div_mod_eq, ← Nat.shiftRight_eq_div_pow, ← hvalue, Bool.eq_iff_iff,
    beq_iff_eq, decide_eq_true_eq, ← UInt64.toNat_inj]
  rfl

theorem testBit_mark (word : UInt64) {bit other : Nat} (hbit : bit < 64) (hother : other < 64) :
    (word ||| (1 <<< UInt64.ofNat bit)).toNat.testBit other =
      (decide (bit = other) || word.toNat.testBit other) := by
  have hshift : (UInt64.ofNat bit).toNat % 64 = bit := by
    rw [UInt64.toNat_ofNat_of_lt' (show bit < 2 ^ 64 by omega), Nat.mod_eq_of_lt hbit]
  have hone : (1 <<< UInt64.ofNat bit : UInt64).toNat.testBit other = decide (bit = other) := by
    rw [UInt64.toNat_shiftLeft, hshift, Nat.testBit_mod_two_pow, decide_eq_true hother,
      Bool.true_and, show (1 : UInt64).toNat = 1 from rfl, Nat.one_shiftLeft, Nat.testBit_two_pow]
  rw [UInt64.toNat_or, Nat.testBit_or, hone, Bool.or_comm]

/-! ## The map of a table -/

/-- There is a bit for each cell. -/
def HasBits (table : PolarTable) : Prop := table.bitmap.size = (table.cells.size + 63) / 64

/-- A radial and a gate as far as a cell holds their numbers. -/
def kept : Nat × Nat → Nat × Nat := fun (radial, gate) => (radial % 2 ^ 32, gate % 2 ^ 32)

theorem hasBits_empty (width height : Nat) : (empty width height).HasBits := by
  rw [HasBits, empty, Array.size_replicate, Array.size_replicate]

theorem get?_empty (width height pixel : Nat) : (empty width height).get? pixel = none := by
  have hword : (empty width height).bitmap.getD (pixel / 64) 0 = 0 := by
    rw [empty, Array.getD_eq_getD_getElem?, Array.getElem?_replicate]
    split
    · rfl
    · rfl
  rw [get?, isValid, hword]
  simp

variable {table : PolarTable}

@[simp] theorem size_cells_set (table : PolarTable) (pixel radial gate : Nat) :
    (table.set pixel radial gate).cells.size = table.cells.size := by
  rw [set]
  split
  · exact Array.size_setIfInBounds
  · rfl

theorem HasBits.set (h : table.HasBits) (pixel radial gate : Nat) :
    (table.set pixel radial gate).HasBits := by
  rw [HasBits, size_cells_set, ← h, PolarTable.set]
  split
  · exact Array.size_modify
  · rfl

theorem isValid_eq (table : PolarTable) (pixel : Nat) :
    table.isValid pixel = (table.bitmap.getD (pixel / 64) 0).toNat.testBit (pixel % 64) :=
  bit_eq_testBit _ (Nat.mod_lt _ (by decide))

theorem isValid_set (h : table.HasBits) {pixel : Nat} (hpixel : pixel < table.cells.size)
    (radial gate other : Nat) : (table.set pixel radial gate).isValid other =
      (decide (pixel = other) || table.isValid other) := by
  have hword : pixel / 64 < table.bitmap.size := by
    rw [HasBits] at h
    omega
  rw [isValid_eq, isValid_eq, set, if_pos hpixel]
  dsimp only
  rw [Array.getD_eq_getD_getElem?, Array.getD_eq_getD_getElem?, Array.getElem?_modify]
  by_cases hsame : pixel / 64 = other / 64
  · rw [if_pos hsame, ← hsame, Array.getElem?_eq_getElem hword, Option.map_some, Option.getD_some,
      Option.getD_some, testBit_mark _ (Nat.mod_lt _ (by decide)) (Nat.mod_lt _ (by decide))]
    -- Pixels of one word differ in their bits.
    have hbit : pixel % 64 = other % 64 ↔ pixel = other := by omega
    rw [decide_eq_decide.2 hbit]
  · have hne : ¬pixel = other := fun heq => hsame (heq ▸ rfl)
    rw [if_neg hsame, decide_eq_false hne, Bool.false_or]

/-- A pixel that is set has its radial and gate from then on, and no other pixel changes. -/
theorem get?_set (h : table.HasBits) {pixel : Nat} (hpixel : pixel < table.cells.size)
    (radial gate other : Nat) : (table.set pixel radial gate).get? other =
      if pixel = other then some (kept (radial, gate)) else table.get? other := by
  have hcells : (table.set pixel radial gate).cells =
      table.cells.setIfInBounds pixel (UInt32.ofNat radial, UInt32.ofNat gate) := by
    rw [set, if_pos hpixel]
  rw [get?, get?, isValid_set h hpixel, hcells, Array.getD_eq_getD_getElem?,
    Array.getD_eq_getD_getElem?]
  by_cases hsame : pixel = other
  · subst hsame
    rw [decide_eq_true rfl, Bool.true_or, if_pos rfl, if_pos rfl,
      Array.getElem?_setIfInBounds_self_of_lt hpixel]
    rfl
  · rw [decide_eq_false hsame, Bool.false_or, if_neg hsame,
      Array.getElem?_setIfInBounds_ne hsame]

/-! ## Tables that are filled in turn -/

/-- Puts what is found under a pixel, if anything is. -/
def fill (under? : Nat → Option (Nat × Nat)) (table : PolarTable) (pixel : Nat) : PolarTable :=
  match under? pixel with
  | some (radial, gate) => table.set pixel radial gate
  | none => table

theorem size_cells_fill (under? : Nat → Option (Nat × Nat)) (table : PolarTable) (pixel : Nat) :
    (fill under? table pixel).cells.size = table.cells.size := by
  rw [fill]
  split
  · exact size_cells_set _ _ _ _
  · rfl

theorem HasBits.fill (h : table.HasBits) (under? : Nat → Option (Nat × Nat)) (pixel : Nat) :
    (fill under? table pixel).HasBits := by
  rw [PolarTable.fill]
  split
  · exact h.set _ _ _
  · exact h

theorem get?_fill (h : table.HasBits) (under? : Nat → Option (Nat × Nat)) {pixel : Nat}
    (hpixel : pixel < table.cells.size) (other : Nat) : (fill under? table pixel).get? other =
      if pixel = other then ((under? pixel).map kept).or (table.get? pixel)
      else table.get? other := by
  rw [fill]
  cases hunder : under? pixel with
  | some found =>
      obtain ⟨radial, gate⟩ := found
      exact get?_set h hpixel radial gate other
  | none =>
      dsimp only
      split
      · next hsame => rw [hsame]; rfl
      · rfl

/-- The pixels before the `n`-th one have been filled, each with what is under it. -/
theorem get?_foldl_fill (under? : Nat → Option (Nat × Nat)) (width height : Nat) {n : Nat}
    (hn : n ≤ width * height) :
    let table := (List.range n).foldl (fill under?) (empty width height)
    table.HasBits ∧ table.cells.size = width * height ∧
      ∀ pixel, table.get? pixel = if pixel < n then (under? pixel).map kept else none := by
  induction n with
  | zero =>
      refine ⟨hasBits_empty width height, Array.size_replicate, fun pixel => ?_⟩
      exact get?_empty width height pixel
  | succ n ih =>
      obtain ⟨hbits, hsize, hget⟩ := ih (by omega)
      rw [List.range_succ, List.foldl_append, List.foldl_cons, List.foldl_nil]
      refine ⟨hbits.fill under? n, (size_cells_fill _ _ _).trans hsize, fun pixel => ?_⟩
      rw [get?_fill hbits under? (by omega), hget, hget, if_neg (Nat.lt_irrefl n), Option.or_none]
      by_cases hsame : n = pixel
      · rw [if_pos hsame, ← hsame, if_pos (Nat.lt_succ_self n)]
      · have hbefore : pixel < n + 1 ↔ pixel < n := by omega
        simp only [if_neg hsame, hbefore]

/-! ## The table of a grid -/

section Build

variable (grid : RasterGrid Float) (georeference : Georeference) (sweep : Sweep Float)
  (geometry : GateGeometry) (gates : Nat)

/-- The radial and gate under the center of a pixel. -/
def underPixel? (pixel : Nat) : Option (Nat × Nat) :=
  let (lon, lat) := grid.pixelCenter (pixel % grid.width) (pixel / grid.width)
  gateUnder? georeference sweep geometry gates ⟨lat, lon⟩

theorem build_eq : build grid georeference sweep geometry gates =
    (List.range grid.pixelCount).foldl
      (fill (underPixel? grid georeference sweep geometry gates))
      (empty grid.width grid.height) := rfl

/-- The table of a grid has the gate under the center of each pixel. -/
theorem get?_build {pixel : Nat} (hpixel : pixel < grid.pixelCount) :
    (build grid georeference sweep geometry gates).get? pixel =
      (underPixel? grid georeference sweep geometry gates pixel).map kept := by
  obtain ⟨-, -, hget⟩ := get?_foldl_fill (underPixel? grid georeference sweep geometry gates)
    grid.width grid.height (Nat.le_refl grid.pixelCount)
  rw [build_eq, hget, if_pos hpixel]

variable {grid georeference sweep geometry gates}

theorem mem_of_locate? {azimuth : Float} {span : RadialSpan}
    (h : sweep.locate? azimuth = some span) : span ∈ sweep.spans := by
  rw [Sweep.locate?] at h
  dsimp only at h
  split at h
  · cases h
  · obtain ⟨k, -, hk⟩ := List.mem_filterMap.1 (List.mem_of_find?_eq_some h)
    exact Array.mem_of_getElem? hk

theorem mem_of_gateUnder? {point : GeoPoint} {radial gate : Nat}
    (h : gateUnder? georeference sweep geometry gates point = some (radial, gate)) :
    ∃ span ∈ sweep.spans, span.radial = radial := by
  rw [gateUnder?] at h
  obtain ⟨polar, -, h⟩ := Option.bind_eq_some_iff.1 h
  split at h
  · cases h
  · obtain ⟨found, -, h⟩ := Option.bind_eq_some_iff.1 h
    obtain ⟨span, hspan, h⟩ := Option.bind_eq_some_iff.1 h
    obtain ⟨rfl, rfl⟩ := Prod.mk.inj (Option.some.inj h)
    exact ⟨span, mem_of_locate? hspan, rfl⟩

/-- If all numbers of radials fit in a cell, an entry is for the radial of a wedge. -/
theorem mem_of_get?_build (hfits : ∀ span ∈ sweep.spans, span.radial < 2 ^ 32) {pixel : Nat}
    (hpixel : pixel < grid.pixelCount) {radial gate : Nat}
    (h : (build grid georeference sweep geometry gates).get? pixel = some (radial, gate)) :
    ∃ span ∈ sweep.spans, span.radial = radial := by
  rw [get?_build _ _ _ _ _ hpixel, Option.map_eq_some_iff] at h
  obtain ⟨⟨found, number⟩, hunder, hkept⟩ := h
  obtain ⟨span, hspan, rfl⟩ := mem_of_gateUnder? hunder
  obtain ⟨rfl, -⟩ := Prod.mk.inj hkept
  exact ⟨span, hspan, (Nat.mod_eq_of_lt (hfits span hspan)).symm⟩

end Build

end WeatherRadar.Geo.PolarTable
