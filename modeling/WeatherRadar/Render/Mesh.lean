import WeatherRadar.Geo.Georeference
import WeatherRadar.Geo.Sweep
import WeatherRadar.Render.Palette
/-!
# Meshes

A mesh has a quad for each gate that is drawn: four vertices on the two rays of its wedge, at its
near and far edge, and two triangles.  Positions are 32-bit offsets from the site, so that they
stay precise on a graphics card.  Wedges that share a ray share its positions.
-/

namespace WeatherRadar.Render

open WeatherRadar.Geo WeatherRadar.Level3

def verticesPerGate : Nat := 4

/-- The gates of a radial that are drawn: their numbers and levels. -/
def visibleGates (colors : LevelColors) (gates : GateLevels) : List (Nat × UInt16) :=
  (gates.toList.zipIdx.filter fun (level, _) => colors.isVisible level).map fun (level, gate) =>
    (gate, level)

/-- The number of vertices that the gates of some radials take. -/
def estimateVertices (colors : LevelColors) (radials : List (Radial Float)) : Nat :=
  (radials.foldl (fun n radial => n + radial.gates.toList.countP colors.isVisible) 0) *
    verticesPerGate

def longestRadial (radials : List (Radial Float)) : Nat :=
  (radials.map fun radial => radial.gates.size).foldl max 0

/-- A gate on the map. -/
structure Quad where
  /-- The near edge on the first and the second ray, then the far edge on the second and the
  first. -/
  corners : List GeoPoint
  value : Float32
  color : Rgba

/-- A vertex in absolute coordinates. -/
structure GeoVertex where
  lat : Float
  lon : Float
  value : Float32
  color : Rgba

/-- Triangles with a color and a value at each vertex. -/
structure Mesh where
  /-- The site, from which positions are measured. -/
  origin : GeoPoint
  /-- Degrees east and north of the origin. -/
  positions : Array (Float32 × Float32)
  values : Array Float32
  colors : Array Rgba
  /-- The vertices of the triangles, three for each. -/
  indices : Array UInt32
  box : BoundingBox Float

namespace Mesh

def empty (origin : GeoPoint) : Mesh :=
  ⟨origin, #[], #[], #[], #[], ⟨origin.lon, origin.lat, origin.lon, origin.lat⟩⟩

def vertexCount (mesh : Mesh) : Nat := mesh.positions.size

def triangleCount (mesh : Mesh) : Nat := mesh.indices.size / 3

def isEmpty (mesh : Mesh) : Bool := mesh.indices.isEmpty

def byteSize (mesh : Mesh) : Nat := mesh.positions.size * 16 + mesh.indices.size * 4

/-- Degrees east and north from a point to another, the shorter way around. -/
@[inline] def offset (origin point : GeoPoint) : Float × Float :=
  (Geodesic.wrapLongitude (point.lon - origin.lon), point.lat - origin.lat)

def pushVertex (mesh : Mesh) (point : GeoPoint) (value : Float32) (color : Rgba) : Mesh :=
  let (east, north) := offset mesh.origin point
  { mesh with
    positions := mesh.positions.push (east.toFloat32, north.toFloat32)
    values := mesh.values.push value
    colors := mesh.colors.push color
    box := mesh.box.expand (mesh.origin.lon + east) point.lat }

def pushQuad (mesh : Mesh) (quad : Quad) : Mesh :=
  let base := UInt32.ofNat mesh.vertexCount
  let mesh := quad.corners.foldl (fun mesh corner =>
    mesh.pushVertex corner quad.value quad.color) mesh
  { mesh with
    indices := mesh.indices ++ #[base, base + 1, base + 2, base, base + 2, base + 3] }

def ofQuads (origin : GeoPoint) (quads : List Quad) : Mesh := quads.foldl pushQuad (empty origin)

def vertex? (mesh : Mesh) (i : Nat) : Option GeoVertex := do
  let (east, north) ← mesh.positions[i]?
  return {
    lat := mesh.origin.lat + north.toFloat
    lon := Geodesic.wrapLongitude (mesh.origin.lon + east.toFloat)
    value := ← mesh.values[i]?
    color := ← mesh.colors[i]? }

/-- Which rays bound a wedge with a gate that is drawn. -/
def neededRays (colors : LevelColors) (radials : Array (Radial Float)) (sweep : Sweep Float) :
    Array Bool :=
  sweep.spans.foldl (fun needed span =>
    if radials[span.radial]?.any fun radial => radial.gates.toList.any colors.isVisible then
      (needed.setIfInBounds span.startRay true).setIfInBounds span.endRay true
    else needed) (Array.replicate sweep.rays.size false)

/-- The points on each ray at the edges of the gates; none on rays that are not needed. -/
def rayPoints (georeference : Georeference) (samples : List BeamPoint) (sweep : Sweep Float)
    (needed : Array Bool) : Array (Array GeoPoint) :=
  sweep.rays.mapIdx fun i azimuth =>
    if needed.getD i false then (georeference.ray azimuth samples).toArray else #[]

def quad? (near far : Array GeoPoint) (colors : LevelColors) (gate : Nat) (level : UInt16) :
    Option Quad := do
  return {
    corners := [← near[gate]?, ← far[gate]?, ← far[gate + 1]?, ← near[gate + 1]?]
    value := colors.value level
    color := colors.color level }

def spanQuads (colors : LevelColors) (radials : Array (Radial Float))
    (points : Array (Array GeoPoint)) (span : RadialSpan) : List Quad :=
  match radials[span.radial]? with
  | none => []
  | some radial =>
    let near := points.getD span.startRay #[]
    let far := points.getD span.endRay #[]
    (visibleGates colors radial.gates).filterMap fun (gate, level) =>
      quad? near far colors gate level

def quads (colors : LevelColors) (radials : Array (Radial Float))
    (points : Array (Array GeoPoint)) (sweep : Sweep Float) : List Quad :=
  sweep.spans.toList.flatMap (spanQuads colors radials points)

def build (radials : List (Radial Float)) (sweep : Sweep Float) (georeference : Georeference)
    (geometry : GateGeometry) (colors : LevelColors) : Except GeoError Mesh :=
  (georeference.gateEdges geometry (longestRadial radials)).map fun samples =>
    let radials := radials.toArray
    let points := rayPoints georeference samples sweep (neededRays colors radials sweep)
    ofQuads georeference.origin (quads colors radials points sweep)

end Mesh

end WeatherRadar.Render
