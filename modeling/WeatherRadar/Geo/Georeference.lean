import WeatherRadar.Geo.Beam
import WeatherRadar.Geo.GateGeometry
import WeatherRadar.Geo.Geodesic
import WeatherRadar.Site
/-!
# Gates on the map

A gate has an azimuth and a slant range.  The beam model turns the slant range into a ground range,
and a geodesic of that length leads to the place on the map.
-/

namespace WeatherRadar.Geo

/-- A place along the beam. -/
structure GatePosition where
  lat : Float
  lon : Float
  /-- Meters along the ground from the site. -/
  groundRange : Float
  /-- Meters of the beam's center above sea level. -/
  heightAboveSea : Float

/-- A place on the map as the radar sees it. -/
structure PolarPoint where
  /-- Degrees clockwise from north. -/
  azimuth : Float
  /-- Meters along the ground from the site. -/
  groundRange : Float
  /-- Meters along the beam. -/
  slantRange : Float

/-- What it takes to place the gates of a site. -/
structure Georeference where
  site : Site
  ellipsoid : Ellipsoid

namespace Georeference

/-- The site on an ellipsoid, if its position is usable. -/
def ofSite (site : Site) (ellipsoid : Ellipsoid) : Except GeoError Georeference :=
  match site.fault? with
  | some fault => .error (.site site.id fault)
  | none => .ok ⟨site, ellipsoid⟩

def origin (g : Georeference) : GeoPoint := ⟨g.site.latitude, g.site.longitude⟩

def beam (g : Georeference) : BeamModel := .atLatitude g.ellipsoid g.site.latitude

/-- The point on the map at an azimuth and a ground range. -/
def pointAt (g : Georeference) (azimuth groundRange : Float) : GeoPoint :=
  g.ellipsoid.direct g.origin azimuth groundRange

/-- Where the beam is at an azimuth and a slant range, for an elevation angle. -/
def locate (g : Georeference) (azimuth slantRange elevation : Float) : GatePosition :=
  let sample := g.beam.forward slantRange elevation
  let p := g.pointAt (normalizeAzimuth azimuth) sample.groundRange
  ⟨p.lat, p.lon, sample.groundRange, sample.height + g.site.elevation⟩

/-- The beam at the edges of a number of gates: one edge more than gates.  They are the same for
every azimuth. -/
def edgeSamples (g : Georeference) (geometry : GateGeometry) (gates : Nat) : List BeamPoint :=
  let beam := g.beam
  (List.range (gates + 1)).map fun i => beam.forward (geometry.edgeRange i) geometry.elevation

/-- The beam at the edges of a number of gates, for a usable layout. -/
def gateEdges (g : Georeference) (geometry : GateGeometry) (gates : Nat) :
    Except GeoError (List BeamPoint) :=
  geometry.validate.map fun _ => g.edgeSamples geometry gates

/-- The points on the map below places along the beam. -/
def ray (g : Georeference) (azimuth : Float) (samples : List BeamPoint) : List GeoPoint :=
  let azimuth := normalizeAzimuth azimuth
  samples.map fun s => g.pointAt azimuth s.groundRange

def projectRadial (g : Georeference) (radial : Level3.Radial Float) (geometry : GateGeometry) :
    Except GeoError (List GatePosition) :=
  geometry.validate.map fun _ => (List.range radial.gates.size).map fun i =>
    g.locate radial.azimuth (geometry.edgeRange i) geometry.elevation

/-- A point on the map as the radar sees it, unless the beam never passes over it. -/
def inverse? (g : Georeference) (point : GeoPoint) (elevation : Float) : Option PolarPoint := do
  let path ← g.ellipsoid.inverse? g.origin point
  let slantRange ← g.beam.slantRangeAt? path.distance elevation
  return ⟨path.initialAzimuth, path.distance, slantRange⟩

/-- A box that holds everything within a ground range of the site.  It is padded, because a circle
of points only comes near its extremes. -/
def coverage (g : Georeference) (groundRange : Float) : BoundingBox Float :=
  let start := (BoundingBox.empty : BoundingBox Float).expand g.origin.lon g.origin.lat
  let box := (List.range 360).foldl (fun box step =>
    let p := g.pointAt step.toFloat groundRange
    box.expand p.lon p.lat) start
  let padX := box.width * 1e-3
  let padY := box.height * 1e-3
  ⟨box.minX - padX, box.minY - padY, box.maxX + padX, box.maxY + padY⟩

end Georeference

/-- The near edges of the gates of a radial of a site. -/
def project (site : Site) (radial : Level3.Radial Float) (geometry : GateGeometry) :
    Except GeoError (List GatePosition) := do
  (← Georeference.ofSite site .wgs84).projectRadial radial geometry

end WeatherRadar.Geo
