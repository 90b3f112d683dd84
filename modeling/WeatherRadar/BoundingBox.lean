import WeatherRadar.Number.Scalar
import WeatherRadar.Number.Text
/-!
# Bounding boxes

A box of longitudes (`x`) and latitudes (`y`) in degrees.  The empty box is the inverted infinite
box, which any point extends to the box of that point alone.
-/

namespace WeatherRadar

/-- Scalars with a greatest and a least member. -/
class Unbounded (α : Type) where
  top : α
  bottom : α

instance : Unbounded Float where
  top := 1.0 / 0.0
  bottom := -1.0 / 0.0

/-- The points between two corners, edges included. -/
structure BoundingBox (α : Type) where
  minX : α
  minY : α
  maxX : α
  maxY : α
  deriving Repr

namespace BoundingBox

variable {α : Type} [Scalar α]

def empty [Unbounded α] : BoundingBox α :=
  ⟨Unbounded.top, Unbounded.top, Unbounded.bottom, Unbounded.bottom⟩

def isEmpty (box : BoundingBox α) : Bool :=
  Scalar.lt box.maxX box.minX || Scalar.lt box.maxY box.minY

/-- The least box that holds the box and a point. -/
@[specialize] def expand (box : BoundingBox α) (x y : α) : BoundingBox α :=
  ⟨Scalar.min box.minX x, Scalar.min box.minY y, Scalar.max box.maxX x, Scalar.max box.maxY y⟩

/-- The least box that holds some points, if there are any. -/
def ofPoints? [Unbounded α] (points : List (α × α)) : Option (BoundingBox α) :=
  let box := points.foldl (fun box (x, y) => box.expand x y) empty
  if box.isEmpty then none else some box

def union (a b : BoundingBox α) : BoundingBox α :=
  ⟨Scalar.min a.minX b.minX, Scalar.min a.minY b.minY,
    Scalar.max a.maxX b.maxX, Scalar.max a.maxY b.maxY⟩

/-- Degrees from the western to the eastern edge. -/
def width (box : BoundingBox α) : α := box.maxX - box.minX

/-- Degrees from the southern to the northern edge. -/
def height (box : BoundingBox α) : α := box.maxY - box.minY

def center (box : BoundingBox α) : α × α :=
  ((box.minX + box.maxX) / Scalar.ofInt 2, (box.minY + box.maxY) / Scalar.ofInt 2)

/-- Whether the boxes share more than an edge. -/
def intersects (a b : BoundingBox α) : Bool :=
  Scalar.lt a.minX b.maxX && Scalar.lt b.minX a.maxX &&
    Scalar.lt a.minY b.maxY && Scalar.lt b.minY a.maxY

def intersection? (a b : BoundingBox α) : Option (BoundingBox α) :=
  if a.intersects b then
    some ⟨Scalar.max a.minX b.minX, Scalar.max a.minY b.minY,
      Scalar.min a.maxX b.maxX, Scalar.min a.maxY b.maxY⟩
  else none

/-- Whether a point lies in the box or on its edge. -/
def contains (box : BoundingBox α) (x y : α) : Bool :=
  Scalar.le box.minX x && Scalar.le x box.maxX && Scalar.le box.minY y && Scalar.le y box.maxY

def describe (box : BoundingBox Float) : String :=
  "BoundingBox \x7b min_x: " ++ explicitFloatText box.minX ++ ", min_y: " ++
    explicitFloatText box.minY ++ ", max_x: " ++ explicitFloatText box.maxX ++ ", max_y: " ++
    explicitFloatText box.maxY ++ " \x7d"

end BoundingBox

end WeatherRadar
