import WeatherRadar.Geo.PolarTable
import WeatherRadar.Report.Basic
/-!
# Reports on places

Positions on the map, wedges of a sweep, grids of pixels and the gates under them.
-/

namespace WeatherRadar.Report

open WeatherRadar.Geo

def site (s : Site) : Json :=
  record [("id", text s.id), ("name", text s.name), ("lat", number s.latitude),
    ("lon", number s.longitude), ("elev", number s.elevation)]

def catalog (c : SiteCatalog) : Json :=
  record [("ids", list (c.ids.map text)), ("len", nat c.size), ("is_empty", flag (c.size == 0))]

def geoError (e : GeoError) : Json := failure e.kind (some e.message)

/-- Why a site cannot be used, also as the reason why gates cannot be placed. -/
def siteError (e : MetadataError) : Json :=
  record [("error", text e.kind), ("message", text e.message), ("site_error", flag e.isSiteError),
    ("as_projection", geoError (.ofMetadata e))]

def point (p : GeoPoint) : Json := list [degrees p.lat, degrees p.lon]

def beamPoint (p : BeamPoint) : Json := list [meters p.groundRange, meters p.height]

/-- A place along the beam on the map. -/
def position (p : GatePosition) : Json :=
  list [degrees p.lat, degrees p.lon, meters p.groundRange, meters p.heightAboveSea]

def radii (e : Ellipsoid) (latitude : Float) : Json :=
  record [("b", meters e.b), ("e2", fixed 12 e.eccentricitySquared),
    ("m", meters (e.meridionalRadius latitude)), ("n", meters (e.primeVerticalRadius latitude)),
    ("g", meters (e.gaussianRadius latitude))]

def path (p : GeodesicPath) : Json :=
  record [("distance", meters p.distance), ("initial", degrees p.initialAzimuth),
    ("final", degrees p.finalAzimuth)]

/-- A place on the map as the radar sees it. -/
def polar (p : PolarPoint) : Json :=
  record [("az", degrees p.azimuth), ("ground", meters p.groundRange),
    ("slant", meters p.slantRange)]

/-- What it takes to place the gates of a site. -/
def georeference (g : Georeference) : Json :=
  record [("id", text g.site.id), ("origin", point g.origin),
    ("radius", meters g.beam.effectiveRadius), ("a", number g.ellipsoid.a)]

def grid (g : RasterGrid Float) : List (String × Json) :=
  let t := g.transform
  [("width", nat g.width), ("height", nat g.height), ("count", nat g.pixelCount),
    ("bbox", boxWith number g.box), ("geo_transform", list (g.geoTransform.map number)),
    ("last_row", list [number t.m31, number t.m32, number t.m33])]

def sweep (s : Sweep Float) : List (String × Json) :=
  [("len", nat s.size), ("is_empty", flag s.isEmpty), ("rays", list (s.rays.toList.map number)),
    ("spans", list (s.spans.toList.map fun span =>
      let (start, width) := s.bounds span
      list [nat span.radial, nat span.startRay, nat span.endRay, number start, number width]))]

/-- The gates under the pixels of a grid. -/
def polarTable (table : PolarTable) : Json :=
  let cells := (List.range table.pixelCount).map fun pixel =>
    match table.get? pixel with
    | some (radial, gate) => toString radial ++ ":" ++ toString gate
    | none => "-"
  record [("width", nat table.width), ("height", nat table.height),
    ("valid", nat table.validCount), ("cells", runList text cells)]

end WeatherRadar.Report
