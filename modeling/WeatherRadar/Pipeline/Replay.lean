import WeatherRadar.Pipeline.Scheduler
/-!
# Replays

A replay runs updates against answers of the source that were recorded before, so that a course of
events can be gone through again.  Every site has a queue of answers, and an update may wait with
its answer while others go on.
-/

namespace WeatherRadar.Pipeline

/-- A store, the answers that wait for each site, and the updates that wait. -/
structure Replay where
  store : FrameStore
  /-- Answers with the sites they are for, the next ones first. -/
  responses : List (String × Response) := []
  waiting : List (String × LayerId × Phase) := []
  /-- What updates told about their ends, in order. -/
  events : List Event := []
  ended : Nat := 0

namespace Replay

variable (scheduler : Scheduler)

def push (replay : Replay) (site : String) (response : Response) : Replay :=
  { replay with responses := replay.responses ++ [(site, response)] }

/-- Takes the next answer for a layer; without one there is no file. -/
def take (replay : Replay) (layer : LayerId) : Response × Replay :=
  match replay.responses.lookup layer.site with
  | none => (.error (.notFound layer.site layer.product), replay)
  | some response =>
    (response, { replay with responses := replay.responses.eraseP (·.1 == layer.site) })

/-- Begins an update and gives it its answer. -/
def start (replay : Replay) (layer : LayerId) : Phase × Replay :=
  let (phase, store) := scheduler.start replay.store layer
  let replay := { replay with store }
  if phase.isFetching then
    let (response, replay) := replay.take layer
    (phase.receive response, replay)
  else (phase, replay)

def finish (replay : Replay) (layer : LayerId) (phase : Phase) :
    Option (Except UpdateError PublishOutcome) × Replay :=
  match scheduler.finish layer ⟨replay.ended, ⟨0⟩⟩ phase replay.store with
  | (.finished result event, store) =>
    (some result, { replay with
      store
      events := replay.events ++ event.toList
      ended := replay.ended + 1 })
  | (_, store) => (none, { replay with store })

def update (replay : Replay) (layer : LayerId) :
    Option (Except UpdateError PublishOutcome) × Replay :=
  let (phase, replay) := replay.start scheduler layer
  replay.finish scheduler layer phase

/-- Runs an update of every layer, one after another, in order. -/
def updateAll (replay : Replay) :
    List (LayerId × Option (Except UpdateError PublishOutcome)) × Replay :=
  replay.store.layers.foldl (fun (results, replay) layer =>
    let (result, replay) := replay.update scheduler layer
    (results ++ [(layer, result)], replay)) ([], replay)

/-- Begins an update and lets it wait under a name. -/
def suspend (replay : Replay) (name : String) (layer : LayerId) : Replay :=
  let (phase, replay) := replay.start scheduler layer
  { replay with waiting := (name, layer, phase) :: replay.waiting }

def resume (replay : Replay) (name : String) :
    Option (Except UpdateError PublishOutcome) × Replay :=
  match replay.waiting.lookup name with
  | none => (none, replay)
  | some (layer, phase) =>
    { replay with waiting := replay.waiting.eraseP (·.1 == name) }.finish scheduler layer phase

end Replay

end WeatherRadar.Pipeline
