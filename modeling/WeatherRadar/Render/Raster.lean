import WeatherRadar.Geo.PolarTable
import WeatherRadar.Render.Mesh
/-!
# Raster images

A raster image shows a sweep on a grid of pixels that covers its full range.  A pixel has the color
of the gate under its center.
-/

namespace WeatherRadar.Render

open WeatherRadar.Geo WeatherRadar.Level3

/-- Pixels over a part of the map. -/
structure RasterImage where
  grid : RasterGrid Float
  /-- Row by row, from the north. -/
  pixels : Array Rgba

namespace RasterImage

def width (image : RasterImage) : Nat := image.grid.width

def height (image : RasterImage) : Nat := image.grid.height

def pixel? (image : RasterImage) (column row : Nat) : Option Rgba :=
  if column < image.width && row < image.height then
    image.pixels[row * image.width + column]?
  else none

def drawnCount (image : RasterImage) : Nat := image.pixels.countP (!·.isTransparent)

def byteSize (image : RasterImage) : Nat := image.pixels.size * 4

/-- The color of a pixel of a table. -/
def colorUnder (table : PolarTable) (radials : Array (Radial Float)) (colors : LevelColors)
    (pixel : Nat) : Rgba :=
  (do
    let (radial, gate) ← table.get? pixel
    let level ← (← radials[radial]?).gates.get? gate
    return colors.color level).getD noDataColor

/-- The pixels of a grid, colored by the gates under them. -/
def ofTable (grid : RasterGrid Float) (table : PolarTable) (radials : Array (Radial Float))
    (colors : LevelColors) : RasterImage :=
  ⟨grid, Array.ofFn fun (pixel : Fin grid.pixelCount) =>
    colorUnder table radials colors pixel.val⟩

/-- The grid that covers a number of gates around a site. -/
def coveringGrid (georeference : Georeference) (geometry : GateGeometry) (gates most : Nat) :
    Except GeoError (RasterGrid Float) :=
  let farEdge := georeference.beam.forward (geometry.maxRange gates) geometry.elevation
  (RasterGrid.withMaxDimension (georeference.coverage farEdge.groundRange) most).mapError .grid

/-- The image of a sweep whose longer side has `most` pixels. -/
def build (radials : List (Radial Float)) (sweep : Sweep Float) (georeference : Georeference)
    (geometry : GateGeometry) (colors : LevelColors) (most : Nat) :
    Except GeoError RasterImage := do
  geometry.validate
  let gates := longestRadial radials
  let grid ← coveringGrid georeference geometry gates most
  let table := PolarTable.build grid georeference sweep geometry gates
  return ofTable grid table radials.toArray colors

end RasterImage

end WeatherRadar.Render
