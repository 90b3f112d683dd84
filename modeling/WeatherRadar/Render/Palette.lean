import WeatherRadar.Color
import WeatherRadar.Level3.DataLevel
import WeatherRadar.Render.Error
import WeatherRadar.Search
/-!
# Palettes

A palette colors values by steps: a value has the color of the last step whose bound is not above
it.  Gates without a value have colors of their own.  Only the order of the bounds counts.
-/

namespace WeatherRadar.Render

open WeatherRadar.Level3 (DataValue DataLevels)

/-- The color of gates without a value to show. -/
def noDataColor : Rgba := .transparent

/-- The color of range-folded gates, if a palette has no other. -/
def standardRangeFolded : Rgba := .opaqueColor 0x77 0x00 0x7D

/-- What is colored at all. -/
structure ColorOptions where
  showRangeFolded : Bool := true
  deriving DecidableEq, Repr

/-- A color, and the least value that has it. -/
structure PaletteStep where
  lowerBound : Float32
  color : Rgba
  label : Option String

/-- Steps in ascending order of their bounds, and the color of range-folded gates. -/
structure Palette where
  name : String
  units : Option String
  steps : List PaletteStep
  rangeFolded : Rgba

namespace Palette

/-- The first two steps in a row that are not in ascending order. -/
def firstUnordered? (steps : List PaletteStep) : Option (PaletteStep × PaletteStep) :=
  (steps.zip steps.tail).find? fun (step, next) => next.lowerBound ≤ step.lowerBound

def fault? (steps : List PaletteStep) : Option PaletteFault :=
  if steps.isEmpty then some .noSteps
  else match steps.find? (!·.lowerBound.isFinite) with
    | some step => some (.infiniteBound step.lowerBound)
    | none => (firstUnordered? steps).map fun (step, next) =>
      .unorderedBounds step.lowerBound next.lowerBound

/-- The palette of some steps, which must have finite bounds in ascending order. -/
def ofSteps (name : String) (steps : List PaletteStep) : Except RenderError Palette :=
  match fault? steps with
  | some fault => .error (.invalidPalette name fault)
  | none => .ok ⟨name, none, steps, standardRangeFolded⟩

def bounds (palette : Palette) : Array Float32 := (palette.steps.map (·.lowerBound)).toArray

/-- The number of steps whose bound is not above a value. -/
def reached (palette : Palette) (value : Float32) : Nat :=
  partitionPoint (· ≤ value) palette.bounds

def lookup (palette : Palette) (value : Float32) : Rgba :=
  if value.isNaN then noDataColor
  else match palette.reached value with
    | 0 => noDataColor
    | n + 1 => (palette.steps[n]?.map (·.color)).getD noDataColor

def colorFor (palette : Palette) (options : ColorOptions) : DataValue → Rgba
  | .value v => palette.lookup v
  | .rangeFolded => if options.showRangeFolded then palette.rangeFolded else noDataColor
  | .belowThreshold | .noData => noDataColor

end Palette

/-- The colors and values of the data levels of a product, for coloring gates by their levels. -/
structure LevelColors where
  colors : Array Rgba
  values : Array Float32

namespace LevelColors

/-- Not-a-number, the value of levels without one. -/
def noValue : Float32 := 0.0 / 0.0

/-- The colors that a palette gives some levels. -/
def ofLevels (levels : DataLevels) (palette : Palette) (options : ColorOptions) : LevelColors :=
  let decoded := (Array.range levels.size).map fun level => levels.decode (UInt16.ofNat level)
  ⟨decoded.map (palette.colorFor options), decoded.map fun value => value.number?.getD noValue⟩

/-- The color of a level; levels past the last one are no data. -/
@[inline] def color (table : LevelColors) (level : UInt16) : Rgba :=
  table.colors.getD level.toNat noDataColor

@[inline] def value (table : LevelColors) (level : UInt16) : Float32 :=
  table.values.getD level.toNat noValue

@[inline] def isVisible (table : LevelColors) (level : UInt16) : Bool :=
  !(table.color level).isTransparent

end LevelColors

end WeatherRadar.Render
