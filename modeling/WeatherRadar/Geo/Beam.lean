import WeatherRadar.Geo.Ellipsoid
/-!
# The path of the radar beam

The atmosphere bends the beam downward.  It is taken as straight above a larger sphere: the one
that fits the ellipsoid at the site, enlarged by four thirds.
-/

namespace WeatherRadar.Geo

/-- A place along the beam as seen from the antenna. -/
structure BeamPoint where
  /-- Meters along the ground from the site. -/
  groundRange : Float
  /-- Meters of the beam's center above the antenna. -/
  height : Float
  deriving Inhabited

/-- The sphere above which the beam is straight. -/
structure BeamModel where
  /-- Its radius in meters. -/
  effectiveRadius : Float

namespace BeamModel

/-- The beam at a latitude for an enlargement of the earth. -/
def withRefraction (e : Ellipsoid) (latitude k : Float) : BeamModel :=
  ⟨k * e.gaussianRadius latitude⟩

/-- The beam at a latitude in a standard atmosphere. -/
def atLatitude (e : Ellipsoid) (latitude : Float) : BeamModel :=
  withRefraction e latitude (4.0 / 3.0)

/-- Where the beam is at a slant range, for an elevation angle in degrees. -/
def forward (beam : BeamModel) (slantRange elevation : Float) : BeamPoint :=
  let ae := beam.effectiveRadius
  let e := radians elevation
  let height :=
    (slantRange * slantRange + ae * ae + 2.0 * slantRange * ae * e.sin).sqrt - ae
  let groundRange := ae * (slantRange * e.cos / (ae + height)).asin
  ⟨groundRange, height⟩

/-- The slant range at which the beam passes over a ground range, unless it never does. -/
def slantRangeAt? (beam : BeamModel) (groundRange elevation : Float) : Option Float :=
  let ae := beam.effectiveRadius
  let phi := groundRange / ae
  let denominator := (radians elevation + phi).cos
  if denominator ≤ 0.0 then none else some (ae * phi.sin / denominator)

end BeamModel

end WeatherRadar.Geo
