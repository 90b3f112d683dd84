/-!
# Level of detail

A mesh is sharp close up but grows with the number of gates; an image has a fixed size and suits
views from far away.
-/

namespace WeatherRadar.Render

/-- What a frame is made of. -/
inductive GeometryKind where
  | mesh
  | raster
  deriving DecidableEq, Repr

def GeometryKind.name : GeometryKind → String
  | mesh => "mesh"
  | raster => "raster"

/-- When frames are meshes, and how large images are. -/
structure DetailPolicy where
  /-- The least zoom of the map at which frames are meshes. -/
  meshMinZoom : Float := 7.0
  /-- The greatest number of vertices of a mesh. -/
  maxMeshVertices : Nat := 2000000
  /-- The number of pixels along the longer side of an image. -/
  rasterSize : Nat := 1024
  deriving BEq

namespace DetailPolicy

/-- The kind of frame for a zoom and a number of vertices. -/
def choose (policy : DetailPolicy) (zoom : Float) (vertices : Nat) : GeometryKind :=
  if zoom ≥ policy.meshMinZoom && vertices ≤ policy.maxMeshVertices then .mesh else .raster

end DetailPolicy

end WeatherRadar.Render
