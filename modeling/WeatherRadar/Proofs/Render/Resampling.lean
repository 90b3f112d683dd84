import WeatherRadar.Proofs.NotANumber
import WeatherRadar.Proofs.Png.Lossless
import WeatherRadar.Proofs.Render.Agreement
import WeatherRadar.Render.Frame
/-!
# Raster images resample a sweep

A table is filled row by row (`build_eq_byRows`), and the rows of an image can be painted in any
order (`foldl_paintRow_perm`).  The pixel in a column and a row has the color of the gate that its
center lies in, found on its own and without a table (`build_resamples`).
-/

namespace WeatherRadar

open Geo Level3 Render

/-! ## Rows of numbers -/

/-- The numbers of `n` rows, one row after another. -/
theorem range_mul_eq_flatMap (width n : Nat) :
    List.range (width * n) = (List.range n).flatMap fun row =>
      (List.range width).map fun column => row * width + column := by
  induction n with
  | zero => rfl
  | succ n ih =>
      rw [Nat.mul_succ, List.range_add, ih, List.range_succ, List.flatMap_append,
        List.flatMap_singleton, Nat.mul_comm width n]

theorem pixel_lt {width height column row : Nat} (hcolumn : column < width) (hrow : row < height) :
    row * width + column < width * height := by
  calc
    row * width + column < row * width + width := by omega
    _ = width * (row + 1) := by rw [Nat.mul_succ, Nat.mul_comm]
    _ ≤ width * height := Nat.mul_le_mul_left width hrow

theorem pixel_mod {width column : Nat} (hcolumn : column < width) (row : Nat) :
    (row * width + column) % width = column := by
  rw [Nat.mul_comm, Nat.mul_add_mod, Nat.mod_eq_of_lt hcolumn]

theorem pixel_div {width column : Nat} (hcolumn : column < width) (row : Nat) :
    (row * width + column) / width = row := by
  rw [Nat.mul_comm, Nat.mul_add_div (by omega), Nat.div_eq_of_lt hcolumn, Nat.add_zero]

/-! ## The table, row by row -/

namespace Geo

/-- The center of the pixel in a column and a row. -/
def RasterGrid.centerPoint (grid : RasterGrid Float) (column row : Nat) : GeoPoint :=
  let (lon, lat) := grid.pixelCenter column row
  ⟨lat, lon⟩

namespace PolarTable

variable (grid : RasterGrid Float) (georeference : Georeference) (sweep : Sweep Float)
  (geometry : GateGeometry) (gates : Nat)

/-- Looks for a gate in each column of a row and puts it under the pixel. -/
def fillRow (table : PolarTable) (row : Nat) : PolarTable :=
  (List.range grid.width).foldl (fun table column =>
    match gateUnder? georeference sweep geometry gates (grid.centerPoint column row) with
    | some (radial, gate) => table.set (row * grid.width + column) radial gate
    | none => table) table

def byRows : PolarTable :=
  (List.range grid.height).foldl (fillRow grid georeference sweep geometry gates)
    (empty grid.width grid.height)

variable {grid georeference sweep geometry gates}

theorem underPixel?_eq {column : Nat} (hcolumn : column < grid.width) (row : Nat) :
    underPixel? grid georeference sweep geometry gates (row * grid.width + column) =
      gateUnder? georeference sweep geometry gates (grid.centerPoint column row) := by
  rw [underPixel?, pixel_mod hcolumn, pixel_div hcolumn]
  rfl

theorem fillRow_eq (table : PolarTable) (row : Nat) :
    fillRow grid georeference sweep geometry gates table row =
      ((List.range grid.width).map fun column => row * grid.width + column).foldl
        (fill (underPixel? grid georeference sweep geometry gates)) table := by
  rw [fillRow, List.foldl_map]
  apply List.foldl_ext
  intro table column hcolumn
  show _ = match underPixel? grid georeference sweep geometry gates (row * grid.width + column) with
    | some (radial, gate) => table.set (row * grid.width + column) radial gate
    | none => table
  rw [underPixel?_eq (List.mem_range.1 hcolumn)]

/-- The table of a grid is what two nested loops make of the empty one. -/
theorem build_eq_byRows : build grid georeference sweep geometry gates =
    byRows grid georeference sweep geometry gates := by
  rw [build_eq, byRows, RasterGrid.pixelCount, range_mul_eq_flatMap, List.foldl_flatMap]
  apply List.foldl_ext
  intro table row _
  rw [fillRow_eq]

theorem lt_pixelCount_of_get?_build {pixel : Nat} {entry : Nat × Nat}
    (h : (build grid georeference sweep geometry gates).get? pixel = some entry) :
    pixel < grid.pixelCount := by
  by_contra hge
  obtain ⟨-, -, hget⟩ := get?_foldl_fill (underPixel? grid georeference sweep geometry gates)
    grid.width grid.height (Nat.le_refl grid.pixelCount)
  rw [build_eq, hget, if_neg hge] at h
  cases h

theorem lt_of_gateUnder? {point : GeoPoint} {radial gate : Nat}
    (h : gateUnder? georeference sweep geometry gates point = some (radial, gate)) :
    gate < gates := by
  rw [gateUnder?] at h
  obtain ⟨polar, -, h⟩ := Option.bind_eq_some_iff.1 h
  split at h
  · cases h
  · obtain ⟨found, hfound, h⟩ := Option.bind_eq_some_iff.1 h
    obtain ⟨span, -, h⟩ := Option.bind_eq_some_iff.1 h
    obtain ⟨-, rfl⟩ := Prod.mk.inj (Option.some.inj h)
    exact GateGeometry.lt_of_gateAt? hfound

end PolarTable

end Geo

/-! ## The image, row by row -/

namespace Render.RasterImage

/-- The bytes of a row of pixels. -/
def rowBytes (color : Nat → Rgba) (width row : Nat) : List UInt8 :=
  ((List.range width).map fun column => color (row * width + column)).flatMap Png.pixelBytes

/-- Paints a row of a buffer and leaves the other rows as they are. -/
def paintRow (color : Nat → Rgba) (width : Nat) (buffer : List UInt8) (row : Nat) : List UInt8 :=
  let start := row * (4 * width)
  buffer.take start ++ (rowBytes color width row ++ buffer.drop (start + 4 * width))

section Painting

variable {color : Nat → Rgba} {width : Nat}

theorem length_rowBytes (color : Nat → Rgba) (width row : Nat) :
    (rowBytes color width row).length = 4 * width := by
  rw [rowBytes, Png.length_flatMap_pixelBytes, List.length_map, List.length_range]

/-- In a buffer of rows, painting one replaces it. -/
theorem paintRow_flatMap {rows : Nat → List UInt8} (hrows : ∀ row, (rows row).length = 4 * width)
    {height row : Nat} (hrow : row < height) :
    paintRow color width ((List.range height).flatMap rows) row =
      (List.range height).flatMap (Function.update rows row (rowBytes color width row)) := by
  obtain ⟨below, rfl⟩ : ∃ below, height = row + 1 + below := ⟨height - (row + 1), by omega⟩
  have hsplit : ∀ f : Nat → List UInt8, (List.range (row + 1 + below)).flatMap f =
      (List.range row).flatMap f ++
        (f row ++ ((List.range below).map (row + 1 + ·)).flatMap f) := by
    intro f
    rw [List.range_add, List.range_succ, List.flatMap_append, List.flatMap_append,
      List.flatMap_singleton, List.append_assoc]
  have hother : ∀ numbers : List Nat, row ∉ numbers →
      numbers.flatMap (Function.update rows row (rowBytes color width row)) =
        numbers.flatMap rows := by
    intro numbers hnotMem
    apply List.flatMap_congr
    intro number hnumber
    exact Function.update_of_ne (ne_of_mem_of_not_mem hnumber hnotMem) _ _
  have habove : ((List.range row).flatMap rows).length = row * (4 * width) := by
    rw [length_flatMap_of_length fun number _ => hrows number, List.length_range,
      Nat.mul_comm]
  have hnotBelow : row ∉ (List.range below).map (row + 1 + ·) := by
    intro hmem
    obtain ⟨_, -, heq⟩ := List.mem_map.1 hmem
    omega
  rw [hsplit, hsplit, hother _ List.not_mem_range_self, hother _ hnotBelow, Function.update_self,
    paintRow, List.take_left' habove, ← List.drop_drop, List.drop_left' habove,
    List.drop_left' (hrows row)]

/-- The rows that have been painted have their colors. -/
theorem foldl_paintRow {rows : Nat → List UInt8} (hrows : ∀ row, (rows row).length = 4 * width)
    {height : Nat} {painted : List Nat} (hpainted : ∀ row ∈ painted, row < height) :
    painted.foldl (paintRow color width) ((List.range height).flatMap rows) =
      (List.range height).flatMap fun row =>
        if row ∈ painted then rowBytes color width row else rows row := by
  induction painted generalizing rows with
  | nil => simp
  | cons first painted ih =>
      have hupdated : ∀ row, (Function.update rows first (rowBytes color width first) row).length =
          4 * width := by
        intro row
        by_cases hsame : row = first
        · rw [hsame, Function.update_self, length_rowBytes]
        · rw [Function.update_of_ne hsame, hrows]
      rw [List.foldl_cons, paintRow_flatMap hrows (hpainted first (by simp)),
        ih hupdated fun row hrow => hpainted row (by simp [hrow])]
      apply List.flatMap_congr
      intro row _
      by_cases hsame : row = first
      · rw [hsame, Function.update_self, ite_self, if_pos List.mem_cons_self]
      · rw [Function.update_of_ne hsame]
        simp only [List.mem_cons, hsame, false_or]

theorem flatMap_rowBytes (color : Nat → Rgba) (width height : Nat) :
    (List.range height).flatMap (rowBytes color width) =
      ((List.range (width * height)).map color).flatMap Png.pixelBytes := by
  rw [range_mul_eq_flatMap, List.map_flatMap, List.flatMap_assoc]
  apply List.flatMap_congr
  intro row _
  rw [rowBytes, List.map_map]
  rfl

/-- Whatever the order of the rows, a buffer that is all painted has the colors of the pixels. -/
theorem foldl_paintRow_perm {height : Nat} {order : List Nat}
    (horder : order.Perm (List.range height)) :
    order.foldl (paintRow color width) (List.replicate (4 * (width * height)) 0) =
      ((List.range (width * height)).map color).flatMap Png.pixelBytes := by
  have hblank : List.replicate (4 * (width * height)) (0 : UInt8) =
      (List.range height).flatMap fun _ => List.replicate (4 * width) 0 := by
    symm
    rw [List.eq_replicate_iff]
    constructor
    · rw [length_flatMap_of_length fun _ _ => List.length_replicate, List.length_range,
        Nat.mul_assoc]
    · intro byte hbyte
      obtain ⟨_, -, hmem⟩ := List.mem_flatMap.1 hbyte
      exact List.eq_of_mem_replicate hmem
  rw [hblank, foldl_paintRow (fun _ => List.length_replicate) fun row hrow =>
    List.mem_range.1 (horder.mem_iff.1 hrow), ← flatMap_rowBytes]
  apply List.flatMap_congr
  intro row hrow
  rw [if_pos (horder.mem_iff.2 hrow)]

end Painting

theorem bytes_ofTable (grid : RasterGrid Float) (table : PolarTable)
    (radials : Array (Radial Float)) (colors : LevelColors) :
    (ofTable grid table radials colors).bytes =
      ((List.range grid.pixelCount).map (colorUnder table radials colors)).flatMap
        Png.pixelBytes := by
  rw [bytes, ofTable, Array.toList_ofFn]
  congr 1
  apply List.ext_getElem
  · rw [List.length_ofFn, List.length_map, List.length_range]
  · intro pixel _ _
    rw [List.getElem_ofFn, List.getElem_map, List.getElem_range]

theorem getElem?_bytes_ofTable {grid : RasterGrid Float} (table : PolarTable)
    (radials : Array (Radial Float)) (colors : LevelColors) {pixel : Nat}
    (hpixel : pixel < grid.pixelCount) {i : Nat} (hi : i < 4) :
    (ofTable grid table radials colors).bytes[4 * pixel + i]? =
      (Png.pixelBytes (colorUnder table radials colors pixel))[i]? := by
  have hfour : ∀ color ∈ (List.range grid.pixelCount).map (colorUnder table radials colors),
      (Png.pixelBytes color).length = 4 := fun _ _ => rfl
  rw [bytes_ofTable, getElem?_flatMap_of_length hfour pixel hi, List.getElem?_map,
    List.getElem?_range hpixel]
  rfl

theorem pixel?_ofTable {grid : RasterGrid Float} (table : PolarTable)
    (radials : Array (Radial Float)) (colors : LevelColors) {column row : Nat}
    (hcolumn : column < grid.width) (hrow : row < grid.height) :
    (ofTable grid table radials colors).pixel? column row =
      some (colorUnder table radials colors (row * grid.width + column)) := by
  have hinside : (decide (column < grid.width) && decide (row < grid.height)) = true := by
    rw [decide_eq_true hcolumn, decide_eq_true hrow, Bool.and_self]
  exact (if_pos hinside).trans (getElem?_ofTable table radials colors (pixel_lt hcolumn hrow))

end Render.RasterImage

/-! ## Pixels without a table -/

namespace Render

section Direct

variable (colors : LevelColors) (radials : List (Radial Float)) (sweep : Sweep Float)
  (georeference : Georeference) (geometry : GateGeometry)

/-- The level of the gate that a place on the map lies in. -/
def levelAt? (point : GeoPoint) : Option UInt16 := do
  let polar ← georeference.inverse? point geometry.elevation
  if polar.slantRange < geometry.maxRange (longestRadial radials) then
    let gate ← geometry.gateAt? polar.slantRange (longestRadial radials)
    let span ← sweep.locate? polar.azimuth
    let radial ← radials[span.radial]?
    radial.gates.get? gate
  else none

/-- The color of the gate that a place on the map lies in, and no color elsewhere. -/
def colorAt (point : GeoPoint) : Rgba :=
  ((levelAt? radials sweep georeference geometry point).map colors.color).getD .transparent

/-- A table and an image that stand for the gates at the centers of the pixels. -/
structure IsResampled (table : PolarTable) (image : RasterImage) : Prop where
  filled : table = .byRows image.grid georeference sweep geometry (longestRadial radials)
  inRange : ∀ pixel radial gate, table.get? pixel = some (radial, gate) →
    radial < radials.length ∧ gate < longestRadial radials
  painted : ∀ order : List Nat, order.Perm (List.range image.height) →
    order.foldl (RasterImage.paintRow (RasterImage.colorUnder table radials.toArray colors)
      image.width) (List.replicate (4 * (image.width * image.height)) 0) = image.bytes
  byteCount : image.bytes.length = 4 * (image.width * image.height)
  colored : ∀ column < image.width, ∀ row < image.height,
    let color := colorAt colors radials sweep georeference geometry
      (image.grid.centerPoint column row)
    image.pixel? column row = some color ∧
      ∀ i < 4, image.bytes[4 * (row * image.width + column) + i]? = (Png.pixelBytes color)[i]?

variable {colors radials sweep georeference geometry}

/-- Where a gate is found, its slant range is below the far end of the longest radial just if it is
not past it. -/
theorem levelAt?_eq (hgeometry : geometry.validate = .ok ()) (point : GeoPoint) :
    levelAt? radials sweep georeference geometry point =
      (PolarTable.gateUnder? georeference sweep geometry (longestRadial radials) point).bind
        fun (number, gate) => radials[number]?.bind fun radial => radial.gates.get? gate := by
  rw [levelAt?, PolarTable.gateUnder?]
  cases georeference.inverse? point geometry.elevation with
  | none => rfl
  | some polar =>
      simp only [Option.bind_eq_bind, Option.bind_some]
      cases hgate : geometry.gateAt? polar.slantRange (longestRadial radials) with
      | none =>
          simp only [Option.bind_none, ite_self]
      | some gate =>
          have hbelow := lt_iff_not_le (GateGeometry.isNaN_of_gateAt? hgate)
            (GateGeometry.isNaN_maxRange hgeometry (longestRadial radials))
          by_cases hlt : polar.slantRange < geometry.maxRange (longestRadial radials)
          · rw [if_pos hlt, if_neg (hbelow.1 hlt), Option.bind_some, Option.bind_some,
              Option.bind_assoc]
            rfl
          · rw [if_neg hlt, if_pos (not_not.1 (mt hbelow.2 hlt))]
            rfl

/-- Numbers that fit in a cell are found again as they were put into it. -/
theorem get?_build_of_fits (hradials : radials.length ≤ 2 ^ 32)
    (hgates : longestRadial radials ≤ 2 ^ 32)
    (hspans : ∀ span ∈ sweep.spans, span.radial < radials.length) {grid : RasterGrid Float}
    {pixel : Nat} (hpixel : pixel < grid.pixelCount) :
    (PolarTable.build grid georeference sweep geometry (longestRadial radials)).get? pixel =
      PolarTable.underPixel? grid georeference sweep geometry (longestRadial radials) pixel := by
  rw [PolarTable.get?_build _ _ _ _ _ hpixel]
  cases hunder : PolarTable.underPixel? grid georeference sweep geometry (longestRadial radials)
      pixel with
  | none => rfl
  | some found =>
      obtain ⟨radial, gate⟩ := found
      obtain ⟨span, hspan, rfl⟩ := PolarTable.mem_of_gateUnder? hunder
      have hradial := hspans span hspan
      have hgate := PolarTable.lt_of_gateUnder? hunder
      rw [Option.map_some, PolarTable.kept, Nat.mod_eq_of_lt (by omega),
        Nat.mod_eq_of_lt (by omega)]

theorem colorUnder_eq_colorAt (hgeometry : geometry.validate = .ok ())
    (hradials : radials.length ≤ 2 ^ 32) (hgates : longestRadial radials ≤ 2 ^ 32)
    (hspans : ∀ span ∈ sweep.spans, span.radial < radials.length) {grid : RasterGrid Float}
    {column row : Nat} (hcolumn : column < grid.width) (hrow : row < grid.height) :
    RasterImage.colorUnder
        (PolarTable.build grid georeference sweep geometry (longestRadial radials))
        radials.toArray colors (row * grid.width + column) =
      colorAt colors radials sweep georeference geometry (grid.centerPoint column row) := by
  rw [RasterImage.colorUnder, get?_build_of_fits hradials hgates hspans (pixel_lt hcolumn hrow),
    PolarTable.underPixel?_eq hcolumn, colorAt, levelAt?_eq hgeometry]
  cases PolarTable.gateUnder? georeference sweep geometry (longestRadial radials)
      (grid.centerPoint column row) with
  | none => rfl
  | some found =>
      simp only [Option.bind_eq_bind, Option.bind_some, List.getElem?_toArray]
      cases radials[found.1]? with
      | none => rfl
      | some radial =>
          cases hlevel : radial.gates.get? found.2 with
          | none => simp only [Option.bind_some, hlevel]; rfl
          | some level => simp only [Option.bind_some, hlevel]; rfl

theorem isResampled_ofTable (hgeometry : geometry.validate = .ok ())
    (hradials : radials.length ≤ 2 ^ 32) (hgates : longestRadial radials ≤ 2 ^ 32)
    (hspans : ∀ span ∈ sweep.spans, span.radial < radials.length) (grid : RasterGrid Float) :
    let table := PolarTable.build grid georeference sweep geometry (longestRadial radials)
    IsResampled colors radials sweep georeference geometry table
      (RasterImage.ofTable grid table radials.toArray colors) := by
  intro table
  constructor
  · exact PolarTable.build_eq_byRows
  · intro pixel radial gate hentry
    have hpixel := PolarTable.lt_pixelCount_of_get?_build hentry
    rw [get?_build_of_fits hradials hgates hspans hpixel] at hentry
    obtain ⟨span, hspan, rfl⟩ := PolarTable.mem_of_gateUnder? hentry
    exact ⟨hspans span hspan, PolarTable.lt_of_gateUnder? hentry⟩
  · intro order horder
    rw [RasterImage.bytes_ofTable]
    exact RasterImage.foldl_paintRow_perm horder
  · rw [RasterImage.bytes_ofTable, Png.length_flatMap_pixelBytes, List.length_map,
      List.length_range]
    rfl
  · intro column (hcolumn : column < grid.width) row (hrow : row < grid.height)
    have hpixel : row * grid.width + column < grid.pixelCount := pixel_lt hcolumn hrow
    have hcolor : RasterImage.colorUnder table radials.toArray colors (row * grid.width + column) =
        colorAt colors radials sweep georeference geometry (grid.centerPoint column row) :=
      colorUnder_eq_colorAt hgeometry hradials hgates hspans hcolumn hrow
    have hshown := RasterImage.pixel?_ofTable table radials.toArray colors hcolumn hrow
    have hbytes := fun i (hi : i < 4) =>
      RasterImage.getElem?_bytes_ofTable table radials.toArray colors hpixel hi
    rw [hcolor] at hshown hbytes
    exact ⟨hshown, hbytes⟩

end Direct

/-- The image of a sweep is what direct resampling gives, on whichever grid is found for it. -/
theorem build_resamples {radials : List (Radial Float)} (hradials : radials.length ≤ 2 ^ 32)
    (hgates : longestRadial radials ≤ 2 ^ 32) (tolerance : Float) (georeference : Georeference)
    {geometry : GateGeometry} (hgeometry : geometry.validate = .ok ()) (colors : LevelColors) :
    let sweep := Sweep.build radials tolerance
    let tableOf := fun grid =>
      PolarTable.build grid georeference sweep geometry (longestRadial radials)
    let imageOn := fun grid =>
      RasterImage.ofTable grid (tableOf grid) radials.toArray colors
    (∀ most, RasterImage.build radials sweep georeference geometry colors most =
      (RasterImage.coveringGrid georeference geometry (longestRadial radials) most).map
        imageOn) ∧
    ∀ grid, IsResampled colors radials sweep georeference geometry (tableOf grid)
      (imageOn grid) := by
  intro sweep tableOf imageOn
  have hspans : ∀ span ∈ sweep.spans, span.radial < radials.length := by
    intro span hspan
    obtain ⟨_, hradial⟩ := (Sweep.mem_spans hspan).1
    exact (List.getElem?_eq_some_iff.1 hradial).1
  constructor
  · intro most
    exact RasterImage.build_eq hgeometry radials sweep georeference colors most
  · exact isResampled_ofTable hgeometry hradials hgates hspans

/-- Radials of different length, one of them without a direction. -/
theorem build_resamples_uneven :
    let radials : List (Radial Float) := [⟨1.0, 1.0, .literal8, .bytes #[1, 0, 2]⟩,
      ⟨0.0 / 0.0, 1.0, .literal8, .bytes #[1, 1, 1, 1]⟩, ⟨0.0, 1.0, .literal8, .bytes #[0, 1]⟩]
    let georeference : Georeference :=
      ⟨⟨"KTLX", "Twin Lakes", 35.3331, -97.2778, 370.0⟩, .wgs84⟩
    let geometry : GateGeometry := ⟨0.5, 2000.0, 1000.0⟩
    let colors : LevelColors := ⟨#[noDataColor, .opaqueColor 0 200 0], #[LevelColors.noValue, 17.0]⟩
    let sweep := Sweep.build radials 0.5
    let tableOf := fun grid =>
      PolarTable.build grid georeference sweep geometry (longestRadial radials)
    let imageOn := fun grid =>
      RasterImage.ofTable grid (tableOf grid) radials.toArray colors
    radials.length ≤ 2 ^ 32 ∧ longestRadial radials ≤ 2 ^ 32 ∧ geometry.validate = .ok () ∧
    (∀ most, RasterImage.build radials sweep georeference geometry colors most =
      (RasterImage.coveringGrid georeference geometry (longestRadial radials) most).map
        imageOn) ∧
    ∀ grid, IsResampled colors radials sweep georeference geometry (tableOf grid)
      (imageOn grid) := by
  intro radials georeference geometry colors sweep tableOf imageOn
  have hradials : radials.length ≤ 2 ^ 32 := by decide
  have hgates : longestRadial radials ≤ 2 ^ 32 := by decide
  have hgeometry : geometry.validate = .ok () := by
    have hfault : geometry.fault? = none := by decide +kernel
    rw [GateGeometry.validate, hfault]
  exact ⟨hradials, hgates, hgeometry,
    build_resamples hradials hgates 0.5 georeference hgeometry colors⟩

end Render

end WeatherRadar
