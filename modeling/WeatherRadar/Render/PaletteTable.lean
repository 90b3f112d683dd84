import WeatherRadar.Json.Reader
import WeatherRadar.Json.Record
import WeatherRadar.Render.Palette
/-!
# Palettes of products

A palette file names palettes and the products that each is for.  Its palettes are taken in the
order of their keys, so that the order in the file does not matter, and a product may be named only
once.
-/

namespace WeatherRadar.Render

open WeatherRadar.Level3 (DataValue)

/-- A step of a palette as a palette file tells it. -/
structure ColorStop where
  value : Float32
  color : String
  label : Option String

/-- A palette as a palette file tells it. -/
structure PaletteDefinition where
  name : String
  units : Option String
  products : List ProductCode
  stops : List ColorStop
  /-- The color of range-folded gates, if not the usual one. -/
  rangeFolded : Option String

namespace ColorStop

def ofJson? (json : Json) : Option ColorStop := do
  let record ← Json.record? ["value", "color", "label"] json
  return {
    value := ← record.required "value" Json.float32?
    color := ← record.required "color" Json.string?
    label := ← record.optional "label" (Json.nullable Json.string?) }

end ColorStop

namespace PaletteDefinition

def ofJson? (json : Json) : Option PaletteDefinition := do
  let record ← Json.record?
    ["name", "description", "units", "products", "stops", "range_folded"] json
  let _ ← record.optional "description" (Json.nullable Json.string?)
  return {
    name := ← record.required "name" Json.string?
    units := ← record.optional "units" (Json.nullable Json.string?)
    products := ← record.required "products" (Json.list? Json.int16?)
    stops := ← record.required "stops" (Json.list? ColorStop.ofJson?)
    rangeFolded := ← record.optional "range_folded" (Json.nullable Json.string?) }

def color (definition : PaletteDefinition) (text : String) : Except RenderError Rgba :=
  (Rgba.ofHex text).mapError fun e => .invalidPalette definition.name (.color e)

def step (definition : PaletteDefinition) (stop : ColorStop) : Except RenderError PaletteStep :=
  (definition.color stop.color).map fun color => ⟨stop.value, color, stop.label⟩

def compile (definition : PaletteDefinition) : Except RenderError Palette := do
  let steps ← definition.stops.mapM definition.step
  let palette ← Palette.ofSteps definition.name steps
  let rangeFolded ← match definition.rangeFolded with
    | some text => definition.color text
    | none => .ok palette.rangeFolded
  return { palette with units := definition.units, rangeFolded := rangeFolded }

end PaletteDefinition

/-- Palettes by product.  No product has two. -/
structure PaletteTable where
  entries : List (ProductCode × Palette)

namespace PaletteTable

def empty : PaletteTable := ⟨[]⟩

def get? (table : PaletteTable) (code : ProductCode) : Option Palette :=
  (table.entries.find? (·.1 == code)).map (·.2)

/-- Gives a product a palette, in place of one that it has. -/
def insert (table : PaletteTable) (code : ProductCode) (palette : Palette) : PaletteTable :=
  ⟨(code, palette) :: table.entries.filter (·.1 != code)⟩

def size (table : PaletteTable) : Nat := table.entries.length

/-- The products that have a palette, in ascending order. -/
def products (table : PaletteTable) : List ProductCode :=
  (table.entries.map (·.1)).mergeSort fun a b => a.toInt ≤ b.toInt

/-- Gives a product a palette of a definition, unless it has one. -/
def claim (definition : PaletteDefinition) (palette : Palette) (table : PaletteTable)
    (code : ProductCode) : Except RenderError PaletteTable :=
  if (table.get? code).isSome then .error (.invalidPalette definition.name (.productTaken code))
  else .ok (table.insert code palette)

/-- Adds the palette of a definition for each of its products. -/
def add (table : PaletteTable) (definition : PaletteDefinition) :
    Except RenderError PaletteTable := do
  let palette ← definition.compile
  definition.products.foldlM (claim definition palette) table

/-- The palettes of keyed definitions, which are taken in the order of their keys. -/
def ofDefinitions (definitions : List (String × PaletteDefinition)) :
    Except RenderError PaletteTable :=
  (definitions.mergeSort fun a b => a.1 ≤ b.1).foldlM (fun table (_, definition) =>
    table.add definition) empty

def definitions? (text : String) : Option (List (String × PaletteDefinition)) := do
  let record ← Json.record? ["version", "palettes"] (← Json.parse? text)
  let _ ← record.required "version" Json.string?
  record.required "palettes" (Json.entries? PaletteDefinition.ofJson?)

def ofJson (text : String) : Except RenderError PaletteTable :=
  match definitions? text with
  | some definitions => ofDefinitions definitions
  | none => .error (.invalidPalette "<config>" .malformed)

/-- The color of a gate of a product; products without a palette are not drawn. -/
def colorize (table : PaletteTable) (options : ColorOptions) (code : ProductCode)
    (value : DataValue) : Rgba :=
  ((table.get? code).map fun palette => palette.colorFor options value).getD noDataColor

/-- The palettes that are used when no others are configured. -/
def standardDefinitions : List (String × PaletteDefinition) := [
  ("reflectivity", {
    name := "Reflectivity"
    units := some "dBZ"
    products := [19, 20, 94, 153]
    stops := [
      ⟨5, "#04E9E7", "5"⟩, ⟨10, "#019FF4", "10"⟩, ⟨15, "#0300F4", "15"⟩, ⟨20, "#02FD02", "20"⟩,
      ⟨25, "#01C501", "25"⟩, ⟨30, "#008E00", "30"⟩, ⟨35, "#FDF802", "35"⟩, ⟨40, "#E5BC00", "40"⟩,
      ⟨45, "#FD9500", "45"⟩, ⟨50, "#FD0000", "50"⟩, ⟨55, "#D40000", "55"⟩, ⟨60, "#BC0000", "60"⟩,
      ⟨65, "#F800FD", "65"⟩, ⟨70, "#9854C6", "70"⟩, ⟨75, "#FDFDFD", "75+"⟩]
    rangeFolded := none }),
  ("velocity", {
    name := "Radial Velocity"
    units := some "m/s"
    products := [27, 56, 99, 154]
    stops := [
      ⟨-100, "#00FC00", "<-50"⟩, ⟨-50, "#00E000", "-50"⟩, ⟨-36, "#00C000", "-36"⟩,
      ⟨-26, "#00A000", "-26"⟩, ⟨-20, "#008200", "-20"⟩, ⟨-10, "#006400", "-10"⟩,
      ⟨-1, "#778877", "-1"⟩, ⟨1, "#640000", "1"⟩, ⟨10, "#820000", "10"⟩, ⟨20, "#A00000", "20"⟩,
      ⟨26, "#C00000", "26"⟩, ⟨36, "#E00000", "36"⟩, ⟨50, "#FF0000", "50+"⟩]
    rangeFolded := some "#77007D" }),
  ("spectrum_width", {
    name := "Spectrum Width"
    units := some "m/s"
    products := [30, 155]
    stops := [
      ⟨0, "#767676", "0"⟩, ⟨2, "#9C9C9C", "2"⟩, ⟨4, "#00BB00", "4"⟩, ⟨6, "#FF0000", "6"⟩,
      ⟨8, "#D08A4D", "8"⟩, ⟨10, "#FFFF00", "10"⟩, ⟨12, "#FFFFFF", "12+"⟩]
    rangeFolded := none })]

def standard : PaletteTable :=
  match ofDefinitions standardDefinitions with
  | .ok table => table
  | .error _ => empty

end PaletteTable

end WeatherRadar.Render
