import WeatherRadar.Png.Writing
import WeatherRadar.Render.Detail
import WeatherRadar.Render.PaletteTable
import WeatherRadar.Render.Raster
/-!
# Frames

A frame is what is displayed of one product: a mesh or an image, with the header of the product
and the legend of its palette.  A frame is never changed.
-/

namespace WeatherRadar.Render

open WeatherRadar.Geo WeatherRadar.Level3

inductive FrameGeometry where
  | mesh (mesh : Mesh)
  | raster (image : RasterImage)

namespace FrameGeometry

/-- Whether it is a mesh or an image. -/
def kind : FrameGeometry → GeometryKind
  | mesh _ => .mesh
  | raster _ => .raster

/-- The part of the map that it covers. -/
def box : FrameGeometry → BoundingBox Float
  | mesh m => m.box
  | raster image => image.grid.box

def byteSize : FrameGeometry → Nat
  | mesh m => m.byteSize
  | raster image => image.byteSize

end FrameGeometry

/-- What a legend shows of a palette. -/
structure Legend where
  name : String
  units : Option String
  steps : List PaletteStep
  /-- The color of range-folded gates, unless they are hidden. -/
  rangeFolded : Option Rgba

def Palette.legend (palette : Palette) (options : ColorOptions) : Legend :=
  ⟨palette.name, palette.units, palette.steps,
    if options.showRangeFolded then some palette.rangeFolded else none⟩

/-- What tells a frame from every other one. -/
structure FrameStamp where
  id : Nat
  builtAt : Instant
  deriving DecidableEq, Repr

structure Frame where
  stamp : FrameStamp
  header : ProductHeader Float
  validTime : Instant
  geometry : FrameGeometry
  legend : Legend
  droppedRadials : Nat

/-- How a frame is built. -/
structure BuildOptions where
  zoom : Float := 8.0
  /-- The kind of frame, whatever the policy says. -/
  force : Option GeometryKind := none
  detail : DetailPolicy := {}
  /-- The largest mismatch of wedges in degrees that a shared ray closes. -/
  tolerance : Float := Sweep.defaultTolerance
  colors : ColorOptions := {}
  deriving BEq

namespace BuildOptions

def kindFor (options : BuildOptions) (vertices : Nat) : GeometryKind :=
  options.force.getD (options.detail.choose options.zoom vertices)

end BuildOptions

namespace Frame

/-- Whether the scan of a frame began after that of another. -/
def isNewerThan (frame other : Frame) : Bool := other.validTime < frame.validTime

/-- The radials, the time, the palette and the levels of a product that can be drawn. -/
structure Ingredients where
  validTime : Instant
  palette : Palette
  levels : DataLevels

/-- What it takes to draw a product, or why it cannot be drawn. -/
def ingredients (product : Product Float) (palettes : PaletteTable) :
    Except RenderError Ingredients := do
  if let .unparsed reason := product.moment then
    throw (.notRenderable (.unparsed reason))
  if !product.isRenderable then throw (.notRenderable .noRadials)
  let some validTime := product.header.timestamp? | throw .missingTimestamp
  let some palette := palettes.get? product.header.code | throw (.noPalette product.header.code)
  let some levels := product.dataLevels?
    | throw (.notRenderable (.unknownProduct product.header.code))
  return ⟨validTime, palette, levels⟩

def drawRadials (radials : List (Radial Float)) (georeference : Georeference)
    (geometry : GateGeometry) (colors : LevelColors) (options : BuildOptions) :
    Except RenderError FrameGeometry := do
  let sweep := Sweep.build radials options.tolerance
  if sweep.isEmpty then throw (.notRenderable .noGates)
  match options.kindFor (estimateVertices colors radials) with
  | .mesh =>
    return .mesh (← (Mesh.build radials sweep georeference geometry colors).mapError .geo)
  | .raster =>
    return .raster (← (RasterImage.build radials sweep georeference geometry colors
      options.detail.rasterSize).mapError .geo)

def build (product : Product Float) (georeference : Georeference) (palettes : PaletteTable)
    (options : BuildOptions) (stamp : FrameStamp) : Except RenderError Frame := do
  let found ← ingredients product palettes
  let colors := LevelColors.ofLevels found.levels found.palette options.colors
  let drawn ← drawRadials product.radials georeference (.ofHeader product.header) colors options
  return {
    stamp := stamp
    header := product.header
    validTime := found.validTime
    geometry := drawn
    legend := found.palette.legend options.colors
    droppedRadials := product.droppedRadials.length }

end Frame

namespace RasterImage

def bytes (image : RasterImage) : List UInt8 := image.pixels.toList.flatMap Png.pixelBytes

def toPng (image : RasterImage) : Except RenderError (List UInt8) :=
  (Png.encode image.width image.height image.bytes).mapError .image

end RasterImage

end WeatherRadar.Render
