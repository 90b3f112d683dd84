import WeatherRadar.Geo.Error
import WeatherRadar.Geo.Geodesic
/-!
# Grids of pixels

A grid divides a box into equal pixels.  The first row is the northern one.  An affine transform
leads from columns and rows to longitudes and latitudes, and its inverse back.
-/

namespace WeatherRadar.Geo

/-- A matrix of three rows and three columns. -/
structure Matrix3 (α : Type) where
  m11 : α
  m12 : α
  m13 : α
  m21 : α
  m22 : α
  m23 : α
  m31 : α
  m32 : α
  m33 : α

namespace Matrix3

variable {α : Type} [Scalar α]

/-- The product of the first two rows and the column `x, y, 1`. -/
@[specialize] def apply (m : Matrix3 α) (x y : α) : α × α :=
  (m.m13 + (m.m12 * y + m.m11 * x), m.m23 + (m.m22 * y + m.m21 * x))

/-- The inverse matrix, by cofactors, unless the determinant is zero. -/
def inverse? (m : Matrix3 α) : Option (Matrix3 α) :=
  let minor1 := m.m22 * m.m33 - m.m32 * m.m23
  let minor2 := m.m21 * m.m33 - m.m31 * m.m23
  let minor3 := m.m21 * m.m32 - m.m31 * m.m22
  let determinant := m.m11 * minor1 - m.m12 * minor2 + m.m13 * minor3
  if Scalar.eq determinant (Scalar.ofInt 0) then none
  else some {
    m11 := minor1 / determinant
    m12 := (m.m13 * m.m32 - m.m33 * m.m12) / determinant
    m13 := (m.m12 * m.m23 - m.m22 * m.m13) / determinant
    m21 := -minor2 / determinant
    m22 := (m.m11 * m.m33 - m.m31 * m.m13) / determinant
    m23 := (m.m13 * m.m21 - m.m23 * m.m11) / determinant
    m31 := minor3 / determinant
    m32 := (m.m12 * m.m31 - m.m32 * m.m11) / determinant
    m33 := (m.m11 * m.m22 - m.m21 * m.m12) / determinant }

end Matrix3

/-- A grid of pixels over a box. -/
structure RasterGrid (α : Type) where
  width : Nat
  height : Nat
  box : BoundingBox α
  /-- Leads from columns and rows to longitudes and latitudes. -/
  transform : Matrix3 α
  inverse : Matrix3 α

namespace RasterGrid

variable {α : Type} [Scalar α]

def transformOf (box : BoundingBox α) (width height : Nat) : Matrix3 α :=
  let zero : α := Scalar.ofInt 0
  let dx := box.width / Scalar.ofNat width
  let dy := box.height / Scalar.ofNat height
  ⟨dx, zero, box.minX, zero, -dy, box.maxY, zero, zero, Scalar.ofInt 1⟩

/-- The grid of so many columns and rows over a box. -/
def covering (box : BoundingBox α) (width height : Nat) : Except (GridFault α) (RasterGrid α) :=
  let zero : α := Scalar.ofInt 0
  if width == 0 || height == 0 then .error (.noPixels width height)
  else if box.isEmpty || !(Scalar.lt zero box.width && Scalar.lt zero box.height) then
    .error (.degenerate box)
  else
    let transform := transformOf box width height
    match transform.inverse? with
    | some inverse => .ok ⟨width, height, box, transform, inverse⟩
    | none => .error .singular

/-- The origin and the steps of the transform: east, along a row, down a row; north likewise. -/
def geoTransform (grid : RasterGrid α) : List α :=
  let t := grid.transform
  [t.m13, t.m11, t.m12, t.m23, t.m21, t.m22]

def pixelCount (grid : RasterGrid α) : Nat := grid.width * grid.height

/-- Longitude and latitude of the center of a pixel. -/
@[specialize] def pixelCenter (grid : RasterGrid α) (column row : Nat) : α × α :=
  let half : α := Scalar.ofInt 1 / Scalar.ofInt 2
  grid.transform.apply (Scalar.ofNat column + half) (Scalar.ofNat row + half)

/-- The column and row of the pixel that a longitude and a latitude lie in. -/
def pixelOf? (grid : RasterGrid α) (lon lat : α) : Option (Nat × Nat) :=
  let zero : α := Scalar.ofInt 0
  let (x, y) := grid.inverse.apply lon lat
  if Scalar.le zero x && Scalar.le zero y then
    let column := Scalar.whole x
    let row := Scalar.whole y
    if column < grid.width && row < grid.height then some (column, row) else none
  else none

/-- The grid whose longer side has so many pixels, with pixels that are squares on the ground at
the center of the box. -/
def withMaxDimension (box : BoundingBox Float) (most : Nat) :
    Except (GridFault Float) (RasterGrid Float) :=
  let groundWidth := box.width * (radians box.center.2).cos
  let groundHeight := box.height
  let (width, height) :=
    if groundWidth ≥ groundHeight then (most.toFloat, most.toFloat * groundHeight / groundWidth)
    else (most.toFloat * groundWidth / groundHeight, most.toFloat)
  covering box (max (floatNearest width).toNat 1) (max (floatNearest height).toNat 1)

end RasterGrid

end WeatherRadar.Geo
