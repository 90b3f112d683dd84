import WeatherRadar.Angle
import WeatherRadar.Geo.Ellipsoid
/-!
# Geodesics

The shortest paths on an ellipsoid by Vincenty's formulas: where a path of a given length and
direction ends, and the length and directions of the path between two points.  Both are found by
iteration to a tolerance far below a millimeter.
-/

namespace WeatherRadar.Geo

/-- A position in degrees. -/
structure GeoPoint where
  lat : Float
  lon : Float
  deriving Inhabited

/-- The path between two points. -/
structure GeodesicPath where
  /-- Meters. -/
  distance : Float
  /-- The direction at the first point, degrees clockwise from north. -/
  initialAzimuth : Float
  finalAzimuth : Float

namespace Geodesic

/-- The change below which an iteration ends, in radians. -/
def tolerance : Float := 1e-12

def maxIterations : Nat := 200

/-- The longitude in `[-180, 180)` that means the same meridian. -/
@[inline] def wrapLongitude (lon : Float) : Float :=
  euclideanRemainder (lon + 180.0) fullTurn - 180.0

/-- The series for the length of an arc. -/
@[inline] def seriesA (u2 : Float) : Float :=
  1.0 + u2 / 16384.0 * (4096.0 + u2 * (-768.0 + u2 * (320.0 - 175.0 * u2)))

/-- The series for the correction of an arc. -/
@[inline] def seriesB (u2 : Float) : Float :=
  u2 / 1024.0 * (256.0 + u2 * (-128.0 + u2 * (74.0 - 47.0 * u2)))

@[inline] def deltaSigma (b sinSigma cosSigma cos2sm : Float) : Float :=
  let cos2 := cos2sm * cos2sm
  b * sinSigma
    * (cos2sm
      + b / 4.0
        * (cosSigma * (-1.0 + 2.0 * cos2)
          - b / 6.0 * cos2sm * (-3.0 + 4.0 * sinSigma * sinSigma) * (-3.0 + 4.0 * cos2)))

/-- The weight of the difference between longitudes on the ellipsoid and on the sphere. -/
@[inline] def longitudeWeight (f cos2Alpha : Float) : Float :=
  f / 16.0 * cos2Alpha * (4.0 + f * (4.0 - 3.0 * cos2Alpha))

/-- The difference between longitudes on the ellipsoid and on the sphere. -/
@[inline] def longitudeChange (f c sinAlpha sigma sinSigma cosSigma cos2sm : Float) : Float :=
  (1.0 - c) * f * sinAlpha
    * (sigma + c * sinSigma * (cos2sm + c * cosSigma * (-1.0 + 2.0 * cos2sm * cos2sm)))

/-- The reduced latitude of a latitude in degrees: its sine and its cosine. -/
@[inline] def reduced (f latitude : Float) : Float × Float :=
  let tanU := (1.0 - f) * (radians latitude).tan
  let cosU := 1.0 / (1.0 + tanU * tanU).sqrt
  (tanU * cosU, cosU)

/-- The arc that a correction does not change any more. -/
def settleArc (sigma0 sigma1 b : Float) : Nat → Float → Float
  | 0, sigma => sigma
  | n + 1, sigma =>
    let next := sigma0 + deltaSigma b sigma.sin sigma.cos (2.0 * sigma1 + sigma).cos
    if (next - sigma).abs < tolerance then next else settleArc sigma0 sigma1 b n next

/-- Quantities of a path for a difference of longitudes on the sphere. -/
structure Arc where
  sinLambda : Float
  cosLambda : Float
  sinSigma : Float
  cosSigma : Float
  sigma : Float
  cos2Alpha : Float
  cos2sm : Float

/-- How the search for a path ends. -/
inductive Search where
  | samePoint
  | found (arc : Arc)
  | notConverged

/-- Searches the difference of longitudes on the sphere that belongs to the difference `l` on the
ellipsoid. -/
def search (f l sinU1 cosU1 sinU2 cosU2 : Float) : Nat → Float → Search
  | 0, _ => .notConverged
  | n + 1, lambda =>
    let sinLambda := lambda.sin
    let cosLambda := lambda.cos
    let t1 := cosU2 * sinLambda
    let t2 := cosU1 * sinU2 - sinU1 * cosU2 * cosLambda
    let sinSigma := (t1 * t1 + t2 * t2).sqrt
    if sinSigma == 0.0 then .samePoint
    else
      let cosSigma := sinU1 * sinU2 + cosU1 * cosU2 * cosLambda
      let sigma := sinSigma.atan2 cosSigma
      let sinAlpha := cosU1 * cosU2 * sinLambda / sinSigma
      let cos2Alpha := 1.0 - sinAlpha * sinAlpha
      -- Along the equator there is no such angle.
      let cos2sm :=
        if cos2Alpha != 0.0 then cosSigma - 2.0 * sinU1 * sinU2 / cos2Alpha else 0.0
      let c := longitudeWeight f cos2Alpha
      let next := l + longitudeChange f c sinAlpha sigma sinSigma cosSigma cos2sm
      if (next - lambda).abs < tolerance then
        .found ⟨sinLambda, cosLambda, sinSigma, cosSigma, sigma, cos2Alpha, cos2sm⟩
      else search f l sinU1 cosU1 sinU2 cosU2 n next

end Geodesic

open Geodesic

namespace Ellipsoid

/-- The square of the second eccentricity, weighted by the direction of a path. -/
@[inline] def pathEccentricity (e : Ellipsoid) (cos2Alpha : Float) : Float :=
  let a := e.a
  let b := e.b
  cos2Alpha * (a * a - b * b) / (b * b)

/-- The point that a path reaches which starts at an azimuth in degrees and is some meters long. -/
def direct (e : Ellipsoid) (origin : GeoPoint) (azimuth distance : Float) : GeoPoint :=
  if distance == 0.0 then origin
  else
    let f := e.f
    let b := e.b
    let alpha1 := radians azimuth
    let sinAlpha1 := alpha1.sin
    let cosAlpha1 := alpha1.cos
    let tanU1 := (1.0 - f) * (radians origin.lat).tan
    let (sinU1, cosU1) := reduced f origin.lat
    let sigma1 := tanU1.atan2 cosAlpha1
    let sinAlpha := cosU1 * sinAlpha1
    let cos2Alpha := 1.0 - sinAlpha * sinAlpha
    let u2 := e.pathEccentricity cos2Alpha
    let sigma0 := distance / (b * seriesA u2)
    let sigma := settleArc sigma0 sigma1 (seriesB u2) maxIterations sigma0
    let cos2sm := (2.0 * sigma1 + sigma).cos
    let sinSigma := sigma.sin
    let cosSigma := sigma.cos
    let x := sinU1 * sinSigma - cosU1 * cosSigma * cosAlpha1
    let lat2 := (sinU1 * cosSigma + cosU1 * sinSigma * cosAlpha1).atan2
      ((1.0 - f) * (sinAlpha * sinAlpha + x * x).sqrt)
    let lambda :=
      (sinSigma * sinAlpha1).atan2 (cosU1 * cosSigma - sinU1 * sinSigma * cosAlpha1)
    let c := longitudeWeight f cos2Alpha
    let l := lambda - longitudeChange f c sinAlpha sigma sinSigma cosSigma cos2sm
    ⟨degrees lat2, wrapLongitude (origin.lon + degrees l)⟩

/-- The path between two points, unless the search for it fails, as it may between opposite
points. -/
def inverse? (e : Ellipsoid) (start finish : GeoPoint) : Option GeodesicPath :=
  let f := e.f
  let l := radians (wrapLongitude (finish.lon - start.lon))
  let (sinU1, cosU1) := reduced f start.lat
  let (sinU2, cosU2) := reduced f finish.lat
  match search f l sinU1 cosU1 sinU2 cosU2 maxIterations l with
  | .notConverged => none
  | .samePoint => some ⟨0.0, 0.0, 0.0⟩
  | .found arc =>
    let u2 := e.pathEccentricity arc.cos2Alpha
    let distance := e.b * seriesA u2
      * (arc.sigma - deltaSigma (seriesB u2) arc.sinSigma arc.cosSigma arc.cos2sm)
    let alpha1 := (cosU2 * arc.sinLambda).atan2
      (cosU1 * sinU2 - sinU1 * cosU2 * arc.cosLambda)
    let alpha2 := (cosU1 * arc.sinLambda).atan2
      (-sinU1 * cosU2 + cosU1 * sinU2 * arc.cosLambda)
    some ⟨distance, normalizeAzimuth (degrees alpha1), normalizeAzimuth (degrees alpha2)⟩

end Ellipsoid

end WeatherRadar.Geo
