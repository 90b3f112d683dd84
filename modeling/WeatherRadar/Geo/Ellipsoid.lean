/-!
# The figure of the earth

An ellipsoid of revolution, flattened at the poles, and its radii of curvature.
-/

namespace WeatherRadar.Geo

/-- An ellipsoid of revolution. -/
structure Ellipsoid where
  /-- The equatorial radius in meters. -/
  a : Float
  f : Float

@[inline] def radians (degrees : Float) : Float := degrees * 0.017453292519943295

@[inline] def degrees (radians : Float) : Float := radians * 57.29577951308232

namespace Ellipsoid

def wgs84 : Ellipsoid := ⟨6378137.0, 1.0 / 298.257223563⟩

/-- The polar radius in meters. -/
def b (e : Ellipsoid) : Float := e.a * (1.0 - e.f)

/-- The square of the first eccentricity. -/
def eccentricitySquared (e : Ellipsoid) : Float := e.f * (2.0 - e.f)

/-- The radius of curvature along a meridian at a latitude in degrees. -/
def meridionalRadius (e : Ellipsoid) (latitude : Float) : Float :=
  let s := (radians latitude).sin
  let w := 1.0 - e.eccentricitySquared * s * s
  e.a * (1.0 - e.eccentricitySquared) / (w * w.sqrt)

/-- The radius of curvature across a meridian at a latitude in degrees. -/
def primeVerticalRadius (e : Ellipsoid) (latitude : Float) : Float :=
  let s := (radians latitude).sin
  e.a / (1.0 - e.eccentricitySquared * s * s).sqrt

/-- The radius of the sphere that fits best around a latitude in degrees: the geometric mean of
the radii of curvature. -/
def gaussianRadius (e : Ellipsoid) (latitude : Float) : Float :=
  (e.meridionalRadius latitude * e.primeVerticalRadius latitude).sqrt

end Ellipsoid

end WeatherRadar.Geo
