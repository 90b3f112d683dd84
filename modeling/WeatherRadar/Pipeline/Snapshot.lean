import WeatherRadar.Pipeline.Scheduler
/-!
# Snapshots

Frames that are images can be kept as files, named for site, product and time.
-/

namespace WeatherRadar.Pipeline

open WeatherRadar.Render

def snapshotName (site : String) (frame : Frame) : String :=
  site ++ "_" ++ toString frame.header.code.toInt ++ "_" ++ frame.validTime.stamp ++ ".png"

def snapshot? (frame : Frame) : Except RenderError (Option (List UInt8)) :=
  match frame.geometry with
  | .mesh _ => .ok none
  | .raster image => image.toPng.map some

/-- The file that an event leads to: the one of a frame that was published and is still current. -/
def snapshotOf? (store : FrameStore) : Event → Option (String × List UInt8)
  | .published layer id _ _ => do
    let frame ← (store.currentFrame? layer).filter (·.stamp.id == id)
    return (snapshotName layer.site frame, ← (snapshot? frame).toOption.join)
  | _ => none

/-- The files that some events lead to, by name. -/
def snapshots (store : FrameStore) (events : List Event) : List (String × List UInt8) :=
  (events.filterMap (snapshotOf? store)).foldl Json.putEntry []

end WeatherRadar.Pipeline
