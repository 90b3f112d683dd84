import WeatherRadar.Json.Reader
import WeatherRadar.Json.Record
import WeatherRadar.Render.Frame
import WeatherRadar.Text.Blank
import WeatherRadar.Text.Case
/-!
# Settings of the pipeline

How many frames are built at once, how often layers are updated and what frames look like.  What
a file or the environment does not set keeps its default.
-/

namespace WeatherRadar.Pipeline

open WeatherRadar.Render

/-- Settings of the pipeline. -/
structure Settings where
  /-- The number of frames that are built at once. -/
  workers : Nat := 4
  /-- Seconds between two updates of a layer. -/
  pollSeconds : Nat := 60
  /-- The zoom of the map that frames are built for. -/
  zoom : Float := 8.0
  /-- The least zoom at which frames are meshes. -/
  meshMinZoom : Float := 7.0
  /-- The greatest number of vertices of a mesh. -/
  maxMeshVertices : Nat := 2000000
  /-- The number of pixels along the longer side of an image. -/
  rasterSize : Nat := 1024
  /-- The largest mismatch of wedges in degrees that a shared ray closes. -/
  tolerance : Float := 0.5
  showRangeFolded : Bool := true

/-- Why settings cannot be used. -/
inductive SettingsFault where
  | noWorkers
  | noPause
  | rasterSize
  | meshVertices
  | tolerance
  | zoom
  deriving DecidableEq, Repr

def SettingsFault.message : SettingsFault → String
  | noWorkers => "worker_pool_size must be > 0"
  | noPause => "poll_interval_secs must be > 0"
  | rasterSize => "raster_size must be 16-8192"
  | meshVertices => "max_mesh_vertices must fit 32-bit indices"
  | tolerance => "boundary_tolerance_deg must be 0-5"
  | zoom => "zoom levels must be finite"

namespace Settings

def fault? (settings : Settings) : Option SettingsFault :=
  if settings.workers == 0 then some .noWorkers
  else if settings.pollSeconds == 0 then some .noPause
  else if settings.rasterSize < 16 || 8192 < settings.rasterSize then some .rasterSize
  else if 0x100000000 ≤ settings.maxMeshVertices then some .meshVertices
  else if !(0.0 ≤ settings.tolerance && settings.tolerance ≤ 5.0) then some .tolerance
  else if !(settings.zoom.isFinite && settings.meshMinZoom.isFinite) then some .zoom
  else none

def buildOptions (settings : Settings) : BuildOptions where
  zoom := settings.zoom
  detail := ⟨settings.meshMinZoom, settings.maxMeshVertices, settings.rasterSize⟩
  tolerance := settings.tolerance
  colors := ⟨settings.showRangeFolded⟩

/-- Settings from readers for whole numbers, other numbers and truth values, each of which is given
the name of a setting and its default. -/
def ofReaders? (whole : String → Nat → Option Nat) (number : String → Float → Option Float)
    (flag : String → Bool → Option Bool) : Option Settings := do
  let defaults : Settings := {}
  return {
    workers := ← whole "worker_pool_size" defaults.workers
    pollSeconds := ← whole "poll_interval_secs" defaults.pollSeconds
    zoom := ← number "zoom" defaults.zoom
    meshMinZoom := ← number "mesh_min_zoom" defaults.meshMinZoom
    maxMeshVertices := ← whole "max_mesh_vertices" defaults.maxMeshVertices
    rasterSize := ← whole "raster_size" defaults.rasterSize
    tolerance := ← number "boundary_tolerance_deg" defaults.tolerance
    showRangeFolded := ← flag "show_range_folded" defaults.showRangeFolded }

/-- The names of the settings in files, in their order. -/
def names : List String :=
  ["worker_pool_size", "poll_interval_secs", "zoom", "mesh_min_zoom", "max_mesh_vertices",
    "raster_size", "boundary_tolerance_deg", "show_range_folded"]

def ofJson? (json : Json) : Option Settings := do
  let record ← Json.record? names json
  ofReaders?
    (fun name default => record.defaulted name default fun value =>
      (value.integerWithin? 0 0xFFFFFFFFFFFFFFFF).map Int.toNat)
    (fun name default => record.defaulted name default Json.float?)
    (fun name default => record.defaulted name default Json.bool?)

def ofText? (text : String) : Option Settings := (Json.parse? text).bind ofJson?

/-- The value of a variable of the environment, unless there is none or it cannot be read. -/
def readVariable {α : Type} (environment : List (String × String)) (name : String) (default : α)
    (read : List Char → Option α) : α :=
  ((environment.lookup name).bind fun value => read (trimBlanks value).toList).getD default

/-- Settings from variables of the environment.  A variable that cannot be read counts as not
set, except that range-folded gates are drawn only if it says so. -/
def ofEnvironment (environment : List (String × String)) : Settings :=
  let defaults : Settings := {}
  let whole (name : String) (default : Nat) : Nat :=
    readVariable environment name default (readNatural? 64)
  let number (name : String) (default : Float) : Float :=
    readVariable environment name default readFloat?
  { workers := whole "RADAR_WORKER_POOL_SIZE" defaults.workers
    pollSeconds := whole "RADAR_POLL_INTERVAL_SECS" defaults.pollSeconds
    meshMinZoom := number "RADAR_MESH_MIN_ZOOM" defaults.meshMinZoom
    maxMeshVertices := whole "RADAR_MAX_MESH_VERTICES" defaults.maxMeshVertices
    rasterSize := whole "RADAR_RASTER_SIZE" defaults.rasterSize
    tolerance := number "RADAR_BOUNDARY_TOLERANCE_DEG" defaults.tolerance
    showRangeFolded := match environment.lookup "RADAR_SHOW_RANGE_FOLDED" with
      | none => defaults.showRangeFolded
      | some value => lowerCase value == "true" || value == "1" }

end Settings

end WeatherRadar.Pipeline
