import WeatherRadar.Render.Frame
import WeatherRadar.Report.Map
import WeatherRadar.Report.Png
import WeatherRadar.Report.Product
/-!
# Reports on frames

Palettes and legends, the vertices of meshes, the pixels of images, and what a frame tells about
itself.
-/

namespace WeatherRadar.Report

open WeatherRadar.Render WeatherRadar.Geo

def colorText (c : Rgba) : Json := text c.toHex

/-- Why no frame is built.  What is wrong inside a palette file is left to its reader. -/
def renderError (e : RenderError) : Json :=
  failure e.kind (match e with
    | .invalidPalette _ .malformed | .invalidPalette _ .unreadable => none
    | e => some e.message)

def paletteSteps (steps : List PaletteStep) : Json :=
  list (steps.map fun step =>
    list [number32 step.lowerBound, colorText step.color, optional text step.label])

def palette (p : Palette) : Json :=
  record [("name", text p.name), ("units", optional text p.units), ("len", nat p.steps.length),
    ("is_empty", flag p.steps.isEmpty), ("steps", paletteSteps p.steps),
    ("range_folded", colorText p.rangeFolded)]

def paletteTable (table : PaletteTable) : List (String × Json) :=
  [("products", list (table.products.map fun code => int code.toInt)), ("len", nat table.size),
    ("is_empty", flag (table.size == 0)),
    ("palettes", record (table.entries.map fun (code, p) =>
      (toString code.toInt, palette p)))]

/-- The color, the value and whether it is drawn of a level. -/
def levelColor (table : LevelColors) (level : UInt16) : Json :=
  list [colorText (table.color level), number32 (table.value level), flag (table.isVisible level)]

/-- What is shown of a frame. -/
structure Detail where
  /-- The number of vertices that are shown from the first one on. -/
  limit : Nat := 40
  sample : List Nat := []
  /-- Pixels that are shown. -/
  probes : List (Nat × Nat) := []
  /-- Whether all pixels are shown. -/
  pixels : Bool := true

/-- Adds one to the count of a color. -/
def countColor (counts : List (Rgba × Nat)) (c : Rgba) : List (Rgba × Nat) :=
  match counts with
  | [] => [(c, 1)]
  | (d, n) :: rest => if c == d then (d, n + 1) :: rest else (d, n) :: countColor rest c

def colorCounts (name : Rgba → String) (colors : Array Rgba) : Json :=
  record ((colors.foldl countColor []).map fun (c, n) => (name c, nat n))

def vertex (mesh : Mesh) (i : Nat) : Json :=
  match mesh.positions[i]?, mesh.vertex? i with
  | some (east, north), some v =>
    list [fixed32 6 east, fixed32 6 north, fixed 6 v.lat, fixed 6 v.lon, number32 v.value,
      colorText v.color]
  | _, _ => .null

def mesh (detail : Detail) (m : Mesh) : Json :=
  let shown := List.range (min detail.limit m.vertexCount) ++ detail.sample
  record [("origin", point m.origin), ("vertex_count", nat m.vertexCount),
    ("triangle_count", nat m.triangleCount), ("is_empty", flag m.isEmpty),
    ("byte_size", nat m.byteSize), ("bbox", boxWith degrees m.box),
    ("vertices", list (shown.map (vertex m))),
    ("indices", list ((m.indices.extract 0 (detail.limit / 4 * 6)).toList.map fun i =>
      nat i.toNat)),
    ("last_index", optional (fun i => nat i.toNat) m.indices.back?),
    ("color_counts", colorCounts Rgba.toHex m.colors)]

def raster (detail : Detail) (image : RasterImage) : Except RenderError Json := do
  let file ← image.toPng
  let pixelName (c : Rgba) : String := hexText (Png.pixelBytes c)
  return record ([("width", nat image.width), ("height", nat image.height),
    ("bbox", boxWith degrees image.grid.box),
    ("geo_transform", list (image.grid.geoTransform.map degrees)),
    ("opaque", nat image.drawnCount), ("counts", colorCounts pixelName image.pixels),
    ("probes", list (detail.probes.map fun (column, row) =>
      optional pixel (image.pixel? column row))),
    ("png", png file)] ++
    if detail.pixels then [("pixels", runList pixel image.pixels.toList)] else [])

/-- The mesh or the image of a frame, by its kind. -/
def drawing (detail : Detail) (geometry : FrameGeometry) : Except RenderError (String × Json) :=
  match geometry with
  | .mesh m => .ok ("mesh", mesh detail m)
  | .raster image => (raster detail image).map fun shown => ("raster", shown)

def legend (l : Legend) : Json :=
  record [("name", text l.name), ("units", optional text l.units),
    ("legend", paletteSteps l.steps), ("range_folded", optional colorText l.rangeFolded)]

def frameSummary (frame : Frame) : Json :=
  record [("site_id", text frame.header.siteId), ("product_code", int frame.header.code.toInt),
    ("valid_time", time frame.validTime), ("elevation_deg", number frame.header.elevationAngle),
    ("kind", text frame.geometry.kind.name), ("bbox", boxWith degrees frame.geometry.box),
    ("bytes", nat frame.geometry.byteSize), ("palette", text frame.legend.name)]

def frame (detail : Detail) (f : Frame) : Except RenderError (List (String × Json)) := do
  return [("kind", text f.geometry.kind.name), ("valid_time", time f.validTime),
    ("dropped", nat f.droppedRadials), ("header_product", int f.header.code.toInt),
    ("summary", frameSummary f), ("palette", legend f.legend),
    ("bytes", nat f.geometry.byteSize), ("bbox", boxWith degrees f.geometry.box),
    ← drawing detail f.geometry]

end WeatherRadar.Report
