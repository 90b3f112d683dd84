import WeatherRadar.Pipeline.Replay
import WeatherRadar.Pipeline.Snapshot
import WeatherRadar.Pipeline.Source
import WeatherRadar.Pipeline.WorkerSettings
import WeatherRadar.Report.Frame
/-!
# Reports on the pipeline

Settings, the state of layers and what became of their updates.  Frames go by names that the
reader of a report chooses.
-/

namespace WeatherRadar.Report

open WeatherRadar.Pipeline WeatherRadar.Render

/-! ## Settings -/

def buildOptions (o : BuildOptions) : Json :=
  record [("zoom", number o.zoom), ("forced", flag o.force.isSome),
    ("mesh_min_zoom", number o.detail.meshMinZoom),
    ("max_mesh_vertices", nat o.detail.maxMeshVertices),
    ("raster_size", nat o.detail.rasterSize), ("tolerance", number o.tolerance),
    ("show_range_folded", flag o.colors.showRangeFolded)]

/-- Settings of the pipeline, what is wrong with them, and how frames are built with them. -/
def settings (s : Settings) : Json :=
  record [("worker_pool_size", nat s.workers), ("poll_interval_secs", nat s.pollSeconds),
    ("zoom", number s.zoom), ("mesh_min_zoom", number s.meshMinZoom),
    ("max_mesh_vertices", nat s.maxMeshVertices), ("raster_size", nat s.rasterSize),
    ("boundary_tolerance_deg", number s.tolerance), ("show_range_folded", flag s.showRangeFolded),
    ("valid", optional (fun fault => text fault.message) s.fault?),
    ("poll_secs", nat s.pollSeconds), ("options", buildOptions s.buildOptions),
    ("is_default_options", flag (s.buildOptions == {}))]

/-- A source of files, and the seconds after which a fetch is given up. -/
def source (s : SourceSettings) : Json :=
  list [match s with
    | .http template timeout => record [("http", text template), ("timeout", nat timeout)]
    | .directory path => record [("directory", text path)], nat s.timeout]

def workerSettings (s : WorkerSettings) (environment : List (String × String)) : Json :=
  record [("source", optional source s.source), ("sites_file", optional text s.sitesFile),
    ("palettes_file", optional text s.palettesFile),
    ("layers", list (s.layers.map fun entry =>
      list [text entry.site, int entry.product.toInt, flag entry.enabled])),
    ("layer_ids", list (s.layerIds.map fun layer => text layer.text)),
    ("has_pipeline", flag s.pipeline.isSome),
    ("pipeline", settings (s.pipelineSettings environment))]

def workerError : WorkerError → Json
  | .malformed => failure "yaml" none
  | .invalid fault => failure "config" (some fault.message)

/-! ## Updates -/

def fetchError (e : FetchError) : Json := failure e.kind (some e.message)

/-- The text of an error, unless it is the text of a decompressor. -/
def updateText? : UpdateError → Option String
  | .decode (.decompression .corruptStream) | .decode (.decompression .corruptBlocks) => none
  | e => some e.message

/-- Why an update brought no frame. -/
def updateError (e : UpdateError) : Json := failure e.kind (updateText? e)

def outcome (name : Nat → Json) : PublishOutcome → Json
  | .unchanged => text "unchanged"
  | .published superseded =>
    record [("published", flag true), ("superseded", optional name superseded)]

def updateResult (name : Nat → Json) : Except UpdateError PublishOutcome → Json
  | .ok o => outcome name o
  | .error e => updateError e

/-- The frames that were published, in order. -/
def publishedFrames (events : List Event) : List Nat :=
  events.filterMap fun
    | .published _ frame _ _ => some frame
    | _ => none

/-- The name of a frame by its place among those that were published. -/
def numbered (events : List Event) (id : Nat) : Json :=
  optional (fun i => text ("f" ++ toString (i + 1)))
    ((publishedFrames events).findIdx? (· == id))

def event (name : Nat → Json) (e : Event) : Json :=
  record (("layer", text e.layer.text) :: match e with
    | .published _ frame validTime superseded =>
      [("event", text "published"), ("frame", name frame), ("valid_time", time validTime),
        ("superseded", optional name superseded)]
    | .unchanged _ frame => [("event", text "unchanged"), ("frame", name frame)]
    | .stale _ candidate current =>
      [("event", text "stale"), ("candidate", time candidate), ("current", time current)]
    | .failed _ error => ("event", text "failed") :: fields (updateError error))

def slot (name : Nat → Json) (s : Slot) : Json :=
  let status := s.status
  record [("state", text status.state.name), ("frame", optional name status.currentFrame),
    ("valid_time", optional time status.validTime),
    ("last_error", optional (fun e => text ((updateText? e).getD e.kind)) status.lastError),
    ("has_error_time", flag status.lastErrorAt.isSome), ("in_flight", nat status.inFlight),
    ("published", nat status.publishedCount), ("generation", nat s.generation),
    ("current", optional (fun (frame : Frame) => name frame.stamp.id) s.current),
    ("current_time", optional (fun (frame : Frame) => time frame.validTime) s.current)]

def store (name : Nat → Json) (s : FrameStore) : Json :=
  record (s.slots.map fun (layer, found) => (layer.text, slot name found))

/-- What became of a call of the store; a failure that was recorded is shown by its kind. -/
def callResult (name : Nat → Json) (call : StoreCall)
    (result : Except UpdateError (Option PublishOutcome)) : Json :=
  match result, call with
  | .error e, _ => updateError e
  | .ok (some o), _ => outcome name o
  | .ok none, .recordFailure e _ => text e.kind
  | .ok none, _ => .null

/-- What can be seen of a layer: whether it is configured, and has a status and a generation, its
state, and its frame. -/
def watched (name : Nat → Json) (s : FrameStore) (layer : LayerId) : Json :=
  let found := s.get? layer
  list [flag (s.contains layer), flag (s.status? layer).isSome,
    flag (found.map (·.generation)).isSome,
    optional (fun (status : SlotStatus) => text status.state.name) (s.status? layer),
    optional (fun (frame : Frame) => name frame.stamp.id) (s.currentFrame? layer)]

def snapshots (files : List (String × List UInt8)) : Json :=
  list ((files.mergeSort fun a b => a.1 ≤ b.1).map fun (name, bytes) => list [text name, png bytes])

end WeatherRadar.Report
