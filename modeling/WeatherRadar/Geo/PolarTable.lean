import WeatherRadar.Geo.Georeference
import WeatherRadar.Geo.Grid
import WeatherRadar.Geo.Sweep
/-!
# Tables of gates under pixels

The gate under each pixel of a grid depends on the sweep and the layout of its gates, not on the
levels.  A table keeps the numbers of radial and gate for each pixel and, in packed words, which
pixels have any.
-/

namespace WeatherRadar.Geo

/-- The radial and gate under each pixel. -/
structure PolarTable where
  width : Nat
  height : Nat
  /-- Radial and gate of each pixel, row by row; of no meaning where no gate is. -/
  cells : Array (UInt32 × UInt32)
  /-- A bit for each pixel that has a gate, 64 in a word. -/
  bitmap : Array UInt64

namespace PolarTable

def empty (width height : Nat) : PolarTable :=
  let pixels := width * height
  ⟨width, height, Array.replicate pixels (0, 0), Array.replicate ((pixels + 63) / 64) 0⟩

def isValid (table : PolarTable) (pixel : Nat) : Bool :=
  (table.bitmap.getD (pixel / 64) 0 >>> UInt64.ofNat (pixel % 64)) &&& 1 == 1

/-- Puts a radial and a gate under a pixel of the table. -/
def set (table : PolarTable) (pixel radial gate : Nat) : PolarTable :=
  if pixel < table.cells.size then
    { table with
      cells := table.cells.setIfInBounds pixel (UInt32.ofNat radial, UInt32.ofNat gate)
      bitmap := table.bitmap.modify (pixel / 64) (· ||| (1 <<< UInt64.ofNat (pixel % 64))) }
  else table

def get? (table : PolarTable) (pixel : Nat) : Option (Nat × Nat) :=
  if table.isValid pixel then
    let (radial, gate) := table.cells.getD pixel (0, 0)
    some (radial.toNat, gate.toNat)
  else none

def pixelCount (table : PolarTable) : Nat := table.cells.size

/-- The number of bits that are set in a word. -/
def bitCount (word : UInt64) : Nat :=
  (List.range 64).countP fun bit => word.toNat.testBit bit

def validCount (table : PolarTable) : Nat :=
  table.bitmap.foldl (fun count word => count + bitCount word) 0

/-- The pixels that have a gate, with its radial and its number. -/
def toList (table : PolarTable) : List (Nat × Nat × Nat) :=
  (List.range table.pixelCount).filterMap fun pixel =>
    (table.get? pixel).map fun (radial, gate) => (pixel, radial, gate)

def memoryUsage (table : PolarTable) : Nat := table.cells.size * 8 + table.bitmap.size * 8

/-- The radial and gate under a place on the map, for radials with at most `gates` gates. -/
def gateUnder? (georeference : Georeference) (sweep : Sweep Float) (geometry : GateGeometry)
    (gates : Nat) (point : GeoPoint) : Option (Nat × Nat) := do
  let polar ← georeference.inverse? point geometry.elevation
  if polar.slantRange ≥ geometry.maxRange gates then none
  let gate ← geometry.gateAt? polar.slantRange gates
  let span ← sweep.locate? polar.azimuth
  return (span.radial, gate)

/-- The table of a grid: a pixel has the gate under its center. -/
def build (grid : RasterGrid Float) (georeference : Georeference) (sweep : Sweep Float)
    (geometry : GateGeometry) (gates : Nat) : PolarTable :=
  (List.range grid.pixelCount).foldl (fun table pixel =>
    let (lon, lat) := grid.pixelCenter (pixel % grid.width) (pixel / grid.width)
    match gateUnder? georeference sweep geometry gates ⟨lat, lon⟩ with
    | some (radial, gate) => table.set pixel radial gate
    | none => table) (empty grid.width grid.height)

end PolarTable

end WeatherRadar.Geo
