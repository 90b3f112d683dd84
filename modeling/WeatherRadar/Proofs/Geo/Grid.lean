import Mathlib.LinearAlgebra.Matrix.NonsingularInverse
import WeatherRadar.Geo.Grid
import WeatherRadar.Proofs.Azimuth
/-!
# Pixels tile a box

In exact arithmetic the inverse of a matrix is found whenever there is one
(`Matrix3.inverse?_eq_some_iff`), so the way from places on the map to columns and rows undoes the
way from columns and rows to places.  A place therefore has the pixel in whose cell it lies
(`RasterGrid.pixelOf?_eq_some_iff`), a cell with its western and its northern edge.
-/

namespace WeatherRadar.Geo

/-! ## Inverse matrices -/

namespace Matrix3

variable {m n : Matrix3 Rat}

def toMatrix (m : Matrix3 Rat) : Matrix (Fin 3) (Fin 3) Rat :=
  !![m.m11, m.m12, m.m13; m.m21, m.m22, m.m23; m.m31, m.m32, m.m33]

theorem toMatrix_inj : m.toMatrix = n.toMatrix ↔ m = n := by
  refine ⟨fun h => ?_, fun h => by rw [h]⟩
  have hentry (i j : Fin 3) : m.toMatrix i j = n.toMatrix i j := by rw [h]
  obtain ⟨m11, m12, m13, m21, m22, m23, m31, m32, m33⟩ := m
  rw [Matrix3.mk.injEq]
  exact ⟨hentry 0 0, hentry 0 1, hentry 0 2, hentry 1 0, hentry 1 1, hentry 1 2, hentry 2 0,
    hentry 2 1, hentry 2 2⟩

/-- The determinant by cofactors of the first row. -/
theorem det_toMatrix (m : Matrix3 Rat) : m.toMatrix.det =
    m.m11 * (m.m22 * m.m33 - m.m32 * m.m23) - m.m12 * (m.m21 * m.m33 - m.m31 * m.m23) +
      m.m13 * (m.m21 * m.m32 - m.m31 * m.m22) := by
  rw [Matrix.det_fin_three]
  simp [toMatrix]
  ring

theorem inverse?_of_det_eq_zero (h : m.toMatrix.det = 0) : m.inverse? = none := by
  rw [det_toMatrix] at h
  simp only [inverse?, h, scalar_ofInt_rat, Int.cast_zero, scalar_eq_rat, if_true]

/-- The quotients of the cofactors and the determinant are the inverse. -/
theorem inverse?_of_det_ne_zero (h : m.toMatrix.det ≠ 0) :
    ∃ n, m.inverse? = some n ∧ n.toMatrix * m.toMatrix = 1 := by
  have hne := h
  rw [det_toMatrix] at hne
  simp only [inverse?, scalar_ofInt_rat, Int.cast_zero, scalar_eq_rat, if_neg hne]
  refine ⟨_, rfl, ?_⟩
  rw [← det_toMatrix]
  calc _ = (m.toMatrix.det⁻¹ • m.toMatrix.adjugate) * m.toMatrix := by
        congr 1
        rw [toMatrix, toMatrix, Matrix.adjugate_fin_three_of]
        ext i j
        fin_cases i <;> fin_cases j <;> simp <;> ring
    _ = 1 := by rw [Matrix.smul_mul, Matrix.adjugate_mul, smul_smul, inv_mul_cancel₀ h, one_smul]

/-- The inverse is found, and only it. -/
theorem inverse?_eq_some_iff : m.inverse? = some n ↔ n.toMatrix * m.toMatrix = 1 := by
  constructor
  · intro h
    have hne : m.toMatrix.det ≠ 0 := fun hzero => by
      rw [inverse?_of_det_eq_zero hzero] at h
      cases h
    obtain ⟨found, hfound, hmul⟩ := inverse?_of_det_ne_zero hne
    obtain rfl := Option.some.inj (hfound.symm.trans h)
    exact hmul
  · intro h
    have hunit : m.toMatrix.det ≠ 0 := (Matrix.isUnit_det_of_left_inverse h).ne_zero
    obtain ⟨found, hfound, hmul⟩ := inverse?_of_det_ne_zero hunit
    have hsame : found.toMatrix = n.toMatrix :=
      left_inv_eq_right_inv hmul (mul_eq_one_comm.1 h)
    rw [hfound, toMatrix_inj.1 hsame]

theorem mulVec_point (m : Matrix3 Rat) (x y : Rat) :
    m.toMatrix.mulVec ![x, y, 1] =
      ![(m.apply x y).1, (m.apply x y).2, m.m31 * x + m.m32 * y + m.m33] := by
  ext i
  fin_cases i <;> simp [toMatrix, Matrix.mulVec, apply] <;> ring

/-- The last row is the one of a transform of points. -/
structure IsAffine (m : Matrix3 Rat) : Prop where
  m31 : m.m31 = 0
  m32 : m.m32 = 0
  m33 : m.m33 = 1

/-- Inverse matrices undo each other on points. -/
theorem apply_apply (h : n.toMatrix * m.toMatrix = 1) (hm : m.IsAffine) (x y : Rat) :
    n.apply (m.apply x y).1 (m.apply x y).2 = (x, y) := by
  have hpoint : m.toMatrix.mulVec ![x, y, 1] = ![(m.apply x y).1, (m.apply x y).2, 1] := by
    rw [mulVec_point, hm.m31, hm.m32, hm.m33, zero_mul, zero_mul, zero_add, zero_add]
  have hback : n.toMatrix.mulVec ![(m.apply x y).1, (m.apply x y).2, 1] = ![x, y, 1] := by
    rw [← hpoint, Matrix.mulVec_mulVec, h, Matrix.one_mulVec]
  rw [mulVec_point] at hback
  exact Prod.ext (congrFun hback 0) (congrFun hback 1)

end Matrix3

/-! ## Grids over a box -/

namespace RasterGrid

open Matrix3

variable {box : BoundingBox Rat} {width height : Nat}

/-- A box has an inside, and there are columns and rows to divide it into. -/
structure IsDivisible (box : BoundingBox Rat) (width height : Nat) : Prop where
  width_pos : 0 < box.width
  height_pos : 0 < box.height
  columns_pos : 0 < width
  rows_pos : 0 < height

/-- Degrees from one column to the next, and from one row to the next. -/
def columnStep (box : BoundingBox Rat) (width : Nat) : Rat := box.width / width

def rowStep (box : BoundingBox Rat) (height : Nat) : Rat := box.height / height

theorem IsDivisible.columnStep_pos (h : IsDivisible box width height) : 0 < columnStep box width :=
  div_pos h.width_pos (Nat.cast_pos.2 h.columns_pos)

theorem IsDivisible.rowStep_pos (h : IsDivisible box width height) : 0 < rowStep box height :=
  div_pos h.height_pos (Nat.cast_pos.2 h.rows_pos)

theorem isAffine_transformOf (box : BoundingBox Rat) (width height : Nat) :
    (transformOf box width height).IsAffine := ⟨rfl, rfl, rfl⟩

theorem transformOf_apply (box : BoundingBox Rat) (width height : Nat) (x y : Rat) :
    (transformOf box width height).apply x y =
      (box.minX + x * columnStep box width, box.maxY - y * rowStep box height) := by
  simp only [apply, transformOf, columnStep, rowStep, Scalar.ofNat, scalar_ofInt_rat,
    Int.cast_natCast, Int.cast_zero]
  ext
  · ring
  · ring

theorem det_transformOf (box : BoundingBox Rat) (width height : Nat) :
    (transformOf box width height).toMatrix.det = -(columnStep box width * rowStep box height) := by
  rw [det_toMatrix]
  simp only [transformOf, columnStep, rowStep, Scalar.ofNat, scalar_ofInt_rat, Int.cast_natCast,
    Int.cast_zero, Int.cast_one]
  ring

/-- The grid over a box with an inverse of its transform. -/
def withInverse (box : BoundingBox Rat) (width height : Nat) (inverse : Matrix3 Rat) :
    RasterGrid Rat :=
  ⟨width, height, box, transformOf box width height, inverse⟩

/-- A box with an inside has a grid. -/
theorem IsDivisible.covering_eq (h : IsDivisible box width height) :
    ∃ inverse, covering box width height = .ok (withInverse box width height inverse) ∧
      inverse.toMatrix * (transformOf box width height).toMatrix = 1 := by
  have hdet : (transformOf box width height).toMatrix.det ≠ 0 := by
    rw [det_transformOf]
    exact neg_ne_zero.2 (mul_pos h.columnStep_pos h.rowStep_pos).ne'
  obtain ⟨inverse, hinverse, hmul⟩ := inverse?_of_det_ne_zero hdet
  have hpixels : (width == 0 || height == 0) = false := by
    simp [h.columns_pos.ne', h.rows_pos.ne']
  have hinside : (box.isEmpty || !(Scalar.lt (Scalar.ofInt 0) box.width &&
      Scalar.lt (Scalar.ofInt 0) box.height)) = false := by
    have hx : ¬Scalar.lt box.maxX box.minX = true := by
      rw [scalar_lt_rat]
      exact not_lt.2 (sub_pos.1 h.width_pos).le
    have hy : ¬Scalar.lt box.maxY box.minY = true := by
      rw [scalar_lt_rat]
      exact not_lt.2 (sub_pos.1 h.height_pos).le
    have hwidth : Scalar.lt (Scalar.ofInt 0) box.width = true := (scalar_lt_rat _ _).2 h.width_pos
    have hheight : Scalar.lt (Scalar.ofInt 0) box.height = true :=
      (scalar_lt_rat _ _).2 h.height_pos
    rw [BoundingBox.isEmpty, Bool.eq_false_iff.2 hx, Bool.eq_false_iff.2 hy, hwidth, hheight]
    rfl
  refine ⟨inverse, ?_, hmul⟩
  simp only [covering, withInverse, hpixels, hinside, hinverse, Bool.false_eq_true, if_false]

/-! ## Cells -/

section Steps

variable {step distance : Rat} {count n : Nat}

/-- The step that a distance ends in, counted from zero. -/
theorem floor_div_eq_iff (hstep : 0 < step) : 0 ≤ distance / step ∧ ⌊distance / step⌋₊ = n ↔
    n * step ≤ distance ∧ distance < (n + 1) * step := by
  rw [← le_div_iff₀ hstep, ← div_lt_iff₀ hstep]
  constructor
  · rintro ⟨hnonneg, hfloor⟩
    exact (Nat.floor_eq_iff hnonneg).1 hfloor
  · rintro ⟨hle, hlt⟩
    have hnonneg : 0 ≤ distance / step := n.cast_nonneg.trans hle
    exact ⟨hnonneg, (Nat.floor_eq_iff hnonneg).2 ⟨hle, hlt⟩⟩

/-- Steps in a row have no gap between them. -/
theorem exists_step_iff (hstep : 0 < step) :
    (∃ n < count, n * step ≤ distance ∧ distance < (n + 1) * step) ↔
      0 ≤ distance ∧ distance < count * step := by
  constructor
  · rintro ⟨n, hn, hle, hlt⟩
    have hlast : ((n : Rat) + 1) * step ≤ count * step :=
      mul_le_mul_of_nonneg_right (by exact_mod_cast hn) hstep.le
    exact ⟨(mul_nonneg n.cast_nonneg hstep.le).trans hle, hlt.trans_le hlast⟩
  · rintro ⟨hnonneg, hlt⟩
    have hquotient : 0 ≤ distance / step := div_nonneg hnonneg hstep.le
    refine ⟨⌊distance / step⌋₊, ?_, (floor_div_eq_iff hstep).1 ⟨hquotient, rfl⟩⟩
    exact (Nat.floor_lt hquotient).2 ((div_lt_iff₀ hstep).2 hlt)

end Steps

/-- A place lies in the cell of a pixel, inside or on the western or the northern edge.  Cells are
counted from the north-western corner of the box. -/
structure InCell (box : BoundingBox Rat) (width height : Nat) (pixel : Nat × Nat) (lon lat : Rat) :
    Prop where
  column_lt : pixel.1 < width
  row_lt : pixel.2 < height
  west : box.minX + pixel.1 * columnStep box width ≤ lon
  east : lon < box.minX + (pixel.1 + 1) * columnStep box width
  north : lat ≤ box.maxY - pixel.2 * rowStep box height
  south : box.maxY - (pixel.2 + 1) * rowStep box height < lat

/-- A place lies inside a box or on its western or its northern edge. -/
structure TakesIn (box : BoundingBox Rat) (lon lat : Rat) : Prop where
  west : box.minX ≤ lon
  east : lon < box.maxX
  south : box.minY < lat
  north : lat ≤ box.maxY

variable {pixel : Nat × Nat} {lon lat : Rat}

theorem inCell_iff : InCell box width height pixel lon lat ↔
    (pixel.1 < width ∧ pixel.1 * columnStep box width ≤ lon - box.minX ∧
      lon - box.minX < (pixel.1 + 1) * columnStep box width) ∧
    (pixel.2 < height ∧ pixel.2 * rowStep box height ≤ box.maxY - lat ∧
      box.maxY - lat < (pixel.2 + 1) * rowStep box height) := by
  constructor
  · rintro ⟨hcolumn, hrow, hwest, heast, hnorth, hsouth⟩
    exact ⟨⟨hcolumn, by linarith, by linarith⟩, hrow, by linarith, by linarith⟩
  · rintro ⟨⟨hcolumn, hwest, heast⟩, hrow, hnorth, hsouth⟩
    exact ⟨hcolumn, hrow, by linarith, by linarith, by linarith, by linarith⟩

/-- The cells fill the box but for its eastern and its southern edge. -/
theorem IsDivisible.exists_inCell_iff (h : IsDivisible box width height) :
    (∃ pixel, InCell box width height pixel lon lat) ↔ TakesIn box lon lat := by
  have hcolumns : width * columnStep box width = box.maxX - box.minX :=
    mul_div_cancel₀ _ (Nat.cast_pos.2 h.columns_pos).ne'
  have hrows : height * rowStep box height = box.maxY - box.minY :=
    mul_div_cancel₀ _ (Nat.cast_pos.2 h.rows_pos).ne'
  have hx : (∃ n < width, n * columnStep box width ≤ lon - box.minX ∧
      lon - box.minX < (n + 1) * columnStep box width) ↔
      0 ≤ lon - box.minX ∧ lon - box.minX < box.maxX - box.minX := by
    rw [exists_step_iff h.columnStep_pos, hcolumns]
  have hy : (∃ n < height, n * rowStep box height ≤ box.maxY - lat ∧
      box.maxY - lat < (n + 1) * rowStep box height) ↔
      0 ≤ box.maxY - lat ∧ box.maxY - lat < box.maxY - box.minY := by
    rw [exists_step_iff h.rowStep_pos, hrows]
  constructor
  · rintro ⟨pixel, hpixel⟩
    obtain ⟨hcolumn, hrow⟩ := inCell_iff.1 hpixel
    obtain ⟨hwest, heast⟩ := hx.1 ⟨pixel.1, hcolumn⟩
    obtain ⟨hnorth, hsouth⟩ := hy.1 ⟨pixel.2, hrow⟩
    exact ⟨by linarith, by linarith, by linarith, by linarith⟩
  · rintro ⟨hwest, heast, hsouth, hnorth⟩
    obtain ⟨column, hcolumn⟩ := hx.2 ⟨by linarith, by linarith⟩
    obtain ⟨row, hrow⟩ := hy.2 ⟨by linarith, by linarith⟩
    exact ⟨(column, row), inCell_iff.2 ⟨hcolumn, hrow⟩⟩

/-! ## Pixels of places -/

section Lookup

variable {inverse : Matrix3 Rat}

/-- The inverse counts steps from the north-western corner. -/
theorem IsDivisible.inverse_apply (h : IsDivisible box width height)
    (hinverse : inverse.toMatrix * (transformOf box width height).toMatrix = 1) (lon lat : Rat) :
    inverse.apply lon lat =
      ((lon - box.minX) / columnStep box width, (box.maxY - lat) / rowStep box height) := by
  have hback := apply_apply hinverse (isAffine_transformOf box width height)
    ((lon - box.minX) / columnStep box width) ((box.maxY - lat) / rowStep box height)
  rw [transformOf_apply, div_mul_cancel₀ _ h.columnStep_pos.ne',
    div_mul_cancel₀ _ h.rowStep_pos.ne', add_sub_cancel, sub_sub_cancel] at hback
  exact hback

/-- A place has the pixel in whose cell it lies. -/
theorem IsDivisible.pixelOf?_eq_some_iff (h : IsDivisible box width height)
    (hinverse : inverse.toMatrix * (transformOf box width height).toMatrix = 1) :
    (withInverse box width height inverse).pixelOf? lon lat = some pixel ↔
      InCell box width height pixel lon lat := by
  obtain ⟨column, row⟩ := pixel
  generalize hx : (lon - box.minX) / columnStep box width = x
  generalize hy : (box.maxY - lat) / rowStep box height = y
  rw [inCell_iff, ← floor_div_eq_iff h.columnStep_pos, ← floor_div_eq_iff h.rowStep_pos, hx, hy]
  simp only [pixelOf?, withInverse, h.inverse_apply hinverse, hx, hy, scalar_ofInt_rat,
    Int.cast_zero, Bool.and_eq_true, decide_eq_true_eq, scalar_le_rat, scalar_whole_rat,
    Option.ite_none_right_eq_some, Option.some.injEq, Prod.mk.injEq]
  constructor
  · rintro ⟨⟨hxpos, hypos⟩, ⟨hcolumn, hrow⟩, rfl, rfl⟩
    exact ⟨⟨hcolumn, hxpos, rfl⟩, hrow, hypos, rfl⟩
  · rintro ⟨⟨hcolumn, hxpos, rfl⟩, hrow, hypos, rfl⟩
    exact ⟨⟨hxpos, hypos⟩, ⟨hcolumn, hrow⟩, rfl, rfl⟩

theorem IsDivisible.inCell_center (h : IsDivisible box width height) {column row : Nat}
    (hcolumn : column < width) (hrow : row < height) :
    InCell box width height (column, row) (box.minX + (column + 1 / 2) * columnStep box width)
      (box.maxY - (row + 1 / 2) * rowStep box height) := by
  have hx := h.columnStep_pos
  have hy := h.rowStep_pos
  exact ⟨hcolumn, hrow, by linarith, by linarith, by linarith, by linarith⟩

theorem pixelCenter_withInverse (column row : Nat) :
    (withInverse box width height inverse).pixelCenter column row =
      (box.minX + (column + 1 / 2) * columnStep box width,
        box.maxY - (row + 1 / 2) * rowStep box height) := by
  simp only [pixelCenter, withInverse, transformOf_apply, Scalar.ofNat, scalar_ofInt_rat,
    Int.cast_natCast, Int.cast_one, Int.cast_ofNat]

/-- The pixels of a grid tile its box.  The center of a pixel has that pixel; a place inside the box
or on its western or its northern edge has the one pixel in whose cell it lies, and any other place
has none.  The inverse undoes the transform, and no other matrix does. -/
theorem pixels_tile_box (h : IsDivisible box width height) :
    ∃ grid, covering box width height = .ok grid ∧
      (grid.width = width ∧ grid.height = height ∧ grid.box = box) ∧
      (∀ column row, column < width → row < height →
        grid.pixelOf? (grid.pixelCenter column row).1 (grid.pixelCenter column row).2 =
          some (column, row)) ∧
      (∀ lon lat, TakesIn box lon lat → ∃ pixel, grid.pixelOf? lon lat = some pixel ∧
        InCell box width height pixel lon lat ∧
        ∀ other, InCell box width height other lon lat → other = pixel) ∧
      (∀ lon lat, ¬TakesIn box lon lat → grid.pixelOf? lon lat = none) ∧
      (∀ x y, grid.inverse.apply (grid.transform.apply x y).1 (grid.transform.apply x y).2 =
        (x, y)) ∧
      ∀ other : Matrix3 Rat,
        other.toMatrix * grid.transform.toMatrix = 1 ↔ other = grid.inverse := by
  obtain ⟨inverse, hcovering, hinverse⟩ := h.covering_eq
  have hpixel {lon lat : Rat} {pixel : Nat × Nat} :
      (withInverse box width height inverse).pixelOf? lon lat = some pixel ↔
        InCell box width height pixel lon lat := h.pixelOf?_eq_some_iff hinverse
  refine ⟨withInverse box width height inverse, hcovering, ⟨rfl, rfl, rfl⟩,
    fun column row hcolumn hrow => ?center, fun lon lat htaken => ?inside,
    fun lon lat hleft => ?outside,
    apply_apply hinverse (isAffine_transformOf box width height), fun other => ?inverse⟩
  case center =>
    rw [pixelCenter_withInverse, hpixel]
    exact h.inCell_center hcolumn hrow
  case inside =>
    obtain ⟨pixel, hcell⟩ := h.exists_inCell_iff.2 htaken
    refine ⟨pixel, hpixel.2 hcell, hcell, fun other hother => ?_⟩
    exact Option.some.inj ((hpixel.2 hother).symm.trans (hpixel.2 hcell))
  case outside =>
    refine Option.eq_none_iff_forall_ne_some.2 fun pixel hsome => hleft ?_
    exact h.exists_inCell_iff.1 ⟨pixel, hpixel.1 hsome⟩
  case inverse =>
    have hfound : (transformOf box width height).inverse? = some inverse :=
      inverse?_eq_some_iff.2 hinverse
    rw [← inverse?_eq_some_iff]
    refine ⟨fun hother => Option.some.inj (hother.symm.trans hfound), fun hother => ?_⟩
    rw [hother]
    exact hfound

/-- The north-western corner of a box has the first pixel, and the north-eastern one has none. -/
theorem pixels_tile_box_corners :
    ∃ grid, covering (⟨-100, 30, -90, 40⟩ : BoundingBox Rat) 64 32 = .ok grid ∧
      grid.pixelOf? (-100) 40 = some (0, 0) ∧ grid.pixelOf? (-90) 40 = none := by
  have hbox : IsDivisible ⟨-100, 30, -90, 40⟩ 64 32 := by
    constructor <;> norm_num [BoundingBox.width, BoundingBox.height]
  obtain ⟨grid, hgrid, -, -, hinside, houtside, -⟩ := pixels_tile_box hbox
  have hcorner : InCell ⟨-100, 30, -90, 40⟩ 64 32 (0, 0) (-100) 40 := by
    constructor <;> norm_num [columnStep, rowStep, BoundingBox.width, BoundingBox.height]
  obtain ⟨pixel, hpixel, -, hunique⟩ := hinside (-100) 40 (by constructor <;> norm_num)
  refine ⟨grid, hgrid, ?_, houtside (-90) 40 fun htaken => ?_⟩
  · rw [hpixel, hunique _ hcorner]
  · exact lt_irrefl _ htaken.east

end Lookup

end RasterGrid

end WeatherRadar.Geo
