import WeatherRadar.Geo.Error
import WeatherRadar.Level3.Product
/-!
# Layout of gates along a radial

Gates of equal length follow each other along a radial.  Gate `i` covers the slant ranges from edge
`i`, which belongs to it, to edge `i + 1`, which does not.
-/

namespace WeatherRadar.Geo

/-- Where the gates of a radial lie. -/
structure GateGeometry where
  /-- Degrees of the antenna above the horizon. -/
  elevation : Float
  /-- Meters to the near edge of the first gate. -/
  firstGateRange : Float
  /-- Length of a gate in meters. -/
  gateSpacing : Float

namespace GateGeometry

def ofHeader (header : Level3.ProductHeader Float) : GateGeometry :=
  ⟨header.elevationAngle, header.firstGateRange, header.gateSpacing⟩

def fault? (g : GateGeometry) : Option GeometryFault :=
  if !g.gateSpacing.isFinite || g.gateSpacing ≤ 0.0 then some (.gateSpacing g.gateSpacing)
  else if !g.firstGateRange.isFinite || g.firstGateRange < 0.0 then
    some (.firstGateRange g.firstGateRange)
  else if !(g.elevation.isFinite && -2.0 ≤ g.elevation && g.elevation < 90.0) then
    some (.elevation g.elevation)
  else none

def validate (g : GateGeometry) : Except GeoError Unit :=
  match g.fault? with
  | some fault => .error (.geometry fault)
  | none => .ok ()

/-- The slant range of the near edge of a gate. -/
@[inline] def edgeRange (g : GateGeometry) (gate : Nat) : Float :=
  g.firstGateRange + gate.toFloat * g.gateSpacing

/-- The slant range behind the last one of a number of gates. -/
def maxRange (g : GateGeometry) (count : Nat) : Float := g.edgeRange count

/-- The gate that a slant range lies in, among a number of gates. -/
def gateAt? (g : GateGeometry) (slantRange : Float) (count : Nat) : Option Nat :=
  let offset := (slantRange - g.firstGateRange) / g.gateSpacing
  if offset ≥ 0.0 then
    let gate := floatWhole offset
    if gate < count then some gate else none
  else none

end GateGeometry

end WeatherRadar.Geo
