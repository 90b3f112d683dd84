import WeatherRadar.Report.Pipeline
/-!
# The program

`weather-radar LAYERS FILE...` brings every layer of a file of settings up to date with the product
files that follow, of which later ones count as newer, and writes a line for every update.
-/

namespace WeatherRadar

open WeatherRadar.Pipeline

/-- A product file that was read. -/
structure LoadedFile where
  file : StoredFile
  bytes : List UInt8

/-- A product file by its path and its place among the others. -/
def LoadedFile.ofBytes (place : Nat) (path : String) (bytes : List UInt8) : LoadedFile :=
  ⟨⟨path.splitOn "/", some ⟨place⟩⟩, bytes⟩

def answerFor (files : List LoadedFile) (layer : LayerId) : Response := do
  let found ← findLatest (files.map (·.file)) layer.site layer.product
  match files.find? (·.file == found) with
  | some loaded => return loaded.bytes
  | none => throw (.notFound layer.site layer.product)

def runRound (scheduler : Scheduler) (layers : List LayerId) (files : List LoadedFile) :
    List Event :=
  (layers.foldl (fun (replay : Replay) layer =>
    ((replay.push layer.site (answerFor files layer)).update scheduler layer).2)
    { store := .ofLayers layers }).events

/-- The lines that the program writes for the text of its settings and some product files. -/
def lines (settings : String) (files : List LoadedFile) : Except String (List String) := do
  let worker ← (WorkerSettings.ofText settings).mapError fun e => (Report.workerError e).render
  let scheduler ← (Scheduler.ofSettings (worker.pipelineSettings []) .standard .standard).mapError
    UpdateError.message
  let events := runRound scheduler worker.layerIds files
  return events.map fun e => (Report.event (Report.numbered events) e).render

end WeatherRadar

open WeatherRadar in
def main : List String → IO UInt32
  | [] => do
    IO.eprintln "usage: weather-radar LAYERS FILE..."
    return 2
  | settings :: paths => do
    let files ← paths.zipIdx.mapM fun (path, place) => do
      return LoadedFile.ofBytes place path (← IO.FS.readBinFile path).toList
    match lines (← IO.FS.readFile settings) files with
    | .ok found =>
      found.forM IO.println
      return 0
    | .error reason =>
      IO.eprintln reason
      return 1
