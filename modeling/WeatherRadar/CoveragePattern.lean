/-!
# Volume coverage patterns

The scanning strategy of a radar is a number in the product header.
-/

namespace WeatherRadar

/-- What a volume coverage pattern is used for. -/
inductive CoverageMode where
  | precipitation
  | clearAir
  | maintenance
  | unknown
  deriving DecidableEq, Repr

namespace CoverageMode

def ofPattern (pattern : Nat) : CoverageMode :=
  if [11, 12, 21, 112, 121, 211, 212, 215, 221].contains pattern then .precipitation
  else if [31, 32, 35].contains pattern then .clearAir
  else if [80, 90].contains pattern then .maintenance
  else .unknown

def description : CoverageMode → String
  | precipitation => "Precipitation Mode"
  | clearAir => "Clear Air Mode"
  | maintenance => "Maintenance Mode"
  | unknown => "Unknown"

end CoverageMode

end WeatherRadar
