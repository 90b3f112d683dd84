import WeatherRadar.Error
import WeatherRadar.Text.Blank
import WeatherRadar.Text.Hex
/-!
# Colors

Colors have red, green, blue and alpha channels of eight bits.  Settings write them as six or eight
hexadecimal digits, usually after a `#`.
-/

namespace WeatherRadar

/-- A color with an alpha channel; alpha 0 is fully transparent. -/
structure Rgba where
  r : UInt8
  g : UInt8
  b : UInt8
  a : UInt8
  deriving DecidableEq, Repr, Inhabited

namespace Rgba

def transparent : Rgba := ⟨0, 0, 0, 0⟩

def opaqueColor (r g b : UInt8) : Rgba := ⟨r, g, b, 255⟩

@[inline] def isTransparent (color : Rgba) : Bool := color.a == 0

/-- A channel that two characters spell.  A plus sign may stand in the first place. -/
def channel? : Char → Char → Option UInt8
  | '+', low => (hexValue? low).map UInt8.ofNat
  | high, low => do
    let high ← hexValue? high
    let low ← hexValue? low
    return UInt8.ofNat (high * 16 + low)

def ofDigits? : List Char → Option Rgba
  | [r, r', g, g', b, b'] => do
    return ⟨← channel? r r', ← channel? g g', ← channel? b b', 255⟩
  | [r, r', g, g', b, b', a, a'] => do
    return ⟨← channel? r r', ← channel? g g', ← channel? b b', ← channel? a a'⟩
  | _ => none

/-- Reads a color: blanks around it and any number of `#` before the digits are skipped. -/
def ofHex (text : String) : Except MetadataError Rgba :=
  match ofDigits? ((trimBlanks text).toList.dropWhile (· == '#')) with
  | some color => .ok color
  | none => .error (.invalidColor text)

/-- The color as `#` and eight digits in upper case. -/
def toHex (color : Rgba) : String :=
  String.ofList ('#' :: [color.r, color.g, color.b, color.a].flatMap (hexByte 'A'))

end Rgba

end WeatherRadar
