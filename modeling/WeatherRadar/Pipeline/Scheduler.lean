import WeatherRadar.Level3.Reading
import WeatherRadar.Pipeline.Settings
import WeatherRadar.Pipeline.Store
import WeatherRadar.Site
/-!
# Updates of layers

An update fetches the newest file of a layer, reads it, builds a frame and publishes it.  It goes
from phase to phase, and each step touches the store at most once, so that the steps of updates of
the same or of other layers may come in between.  Whatever goes wrong, the current frame stays.
-/

namespace WeatherRadar.Pipeline

open WeatherRadar.Geo WeatherRadar.Level3 WeatherRadar.Render

/-- What an update tells about its end. -/
inductive Event where
  | published (layer : LayerId) (frame : Nat) (validTime : Instant) (superseded : Option Nat)
  | unchanged (layer : LayerId) (frame : Nat)
  | stale (layer : LayerId) (candidate current : Instant)
  | failed (layer : LayerId) (error : UpdateError)

namespace Event

def layer : Event → LayerId
  | published l _ _ _ | unchanged l _ | stale l _ _ | failed l _ => l

def ofOutcome (layer : LayerId) (frame : Frame) : PublishOutcome → Event
  | .published superseded => published layer frame.stamp.id frame.validTime superseded
  | .unchanged => unchanged layer frame.stamp.id

end Event

/-- What a source answers: the bytes of a file, or why there are none. -/
abbrev Response := Except FetchError (List UInt8)

/-- Where an update is. -/
inductive Phase where
  | fetching (site : Site)
  | reading (site : Site) (bytes : List UInt8)
  | built (frame : Frame)
  /-- It has noted that the frame is built. -/
  | publishing (frame : Frame)
  /-- Its product is not newer than the current frame. -/
  | late (candidate current : Instant)
  | failing (error : UpdateError)
  | finished (result : Except UpdateError PublishOutcome) (event : Option Event)

namespace Phase

/-- The phase after an error: a late product is not a failure. -/
def ofError : UpdateError → Phase
  | .stale _ candidate current => late candidate current
  | error => failing error

/-- The end of an update whose product was rejected as stale. -/
def ofStale (layer named : LayerId) (candidate current : Instant) : Phase :=
  finished (.error (.stale named candidate current)) (some (.stale layer candidate current))

/-- The phase after the answer of the source. -/
def receive (phase : Phase) (response : Response) : Phase :=
  match phase, response with
  | fetching site, .ok bytes => reading site bytes
  | fetching _, .error error => failing (.fetch error)
  | phase, _ => phase

def isFetching : Phase → Bool
  | fetching _ => true
  | _ => false

/-- The greatest number of steps to the end of an update that does not wait. -/
def stepsLeft : Phase → Nat
  | reading _ _ => 4
  | built _ => 3
  | publishing _ => 2
  | late _ _ => 2
  | failing _ => 1
  | fetching _ => 0
  | finished _ _ => 0

end Phase

/-- How updates are run. -/
structure Scheduler where
  sites : SiteCatalog
  palettes : PaletteTable
  options : BuildOptions
  /-- Seconds between two rounds of updates. -/
  pollSeconds : Nat
  /-- The number of updates that run at once. -/
  workers : Nat

namespace Scheduler

def ofSettings (settings : Settings) (sites : SiteCatalog) (palettes : PaletteTable) :
    Except UpdateError Scheduler :=
  match settings.fault? with
  | some fault => .error (.config fault.message)
  | none => .ok ⟨sites, palettes, settings.buildOptions, settings.pollSeconds, settings.workers⟩

/-- Refuses a product whose scan is not later than the current one. -/
def requireNewer (layer : LayerId) (candidate current : Option Instant) :
    Except UpdateError Unit :=
  match candidate, current with
  | some candidate, some current =>
    if candidate ≤ current then .error (.stale layer candidate current) else .ok ()
  | _, _ => .ok ()

def buildFrame (scheduler : Scheduler) (site : Site) (product : Product Float)
    (stamp : FrameStamp) : Except UpdateError Frame := do
  let georeference ← (Georeference.ofSite site .wgs84).mapError .georeference
  (Frame.build product georeference scheduler.palettes scheduler.options stamp).mapError .render

/-- The frame of a file.  A product that cannot replace the current frame is read but not drawn. -/
def process (scheduler : Scheduler) (layer : LayerId) (site : Site) (bytes : List UInt8)
    (current : Option Instant) (stamp : FrameStamp) : Except UpdateError Frame := do
  let product ← (decode bytes).mapError .decode
  requireNewer layer product.header.timestamp? current
  scheduler.buildFrame site product stamp

def start (scheduler : Scheduler) (store : FrameStore) (layer : LayerId) : Phase × FrameStore :=
  match store.beginUpdate layer with
  | .error error => (.finished (.error error) none, store)
  | .ok store =>
    match scheduler.sites.lookup layer.site with
    | .error error => (.failing (.site error), store)
    | .ok site => (.fetching site, store)

/-- One step of an update of a layer.  The stamp is for a frame that is built in this step, and
its time is the time of the step. -/
def step (scheduler : Scheduler) (layer : LayerId) (stamp : FrameStamp) :
    Phase × FrameStore → Phase × FrameStore
  | (.reading site bytes, store) =>
    let current := (store.currentFrame? layer).map (·.validTime)
    match scheduler.process layer site bytes current stamp with
    | .ok frame => (.built frame, store)
    | .error error => (.ofError error, store)
  | (.built frame, store) =>
    match store.markBuilt layer with
    | .ok store => (.publishing frame, store)
    | .error error => (.failing error, store)
  | (.publishing frame, store) =>
    match store.publish layer frame with
    | (.ok outcome, store) =>
      (.finished (.ok outcome) (some (.ofOutcome layer frame outcome)), store)
    | (.error (.stale l candidate current), store) => (.ofStale layer l candidate current, store)
    | (.error error, store) => (.failing error, store)
  | (.late candidate current, store) =>
    match store.rejectStale layer candidate current with
    | (.stale l candidate current, store) => (.ofStale layer l candidate current, store)
    | (error, store) => (.failing error, store)
  | (.failing error, store) =>
    match store.recordFailure layer error stamp.builtAt with
    | .ok store => (.finished (.error error) (some (.failed layer error)), store)
    | .error unknown => (.finished (.error unknown) none, store)
  | (.fetching site, store) => (.fetching site, store)
  | (.finished result event, store) => (.finished result event, store)

def run (scheduler : Scheduler) (layer : LayerId) (stamp : FrameStamp) :
    Nat → Phase × FrameStore → Phase × FrameStore
  | 0, state => state
  | n + 1, state => scheduler.run layer stamp n (scheduler.step layer stamp state)

/-- Brings an update to its end, or to where it waits for the source. -/
def finish (scheduler : Scheduler) (layer : LayerId) (stamp : FrameStamp) (phase : Phase)
    (store : FrameStore) : Phase × FrameStore :=
  scheduler.run layer stamp phase.stepsLeft (phase, store)

/-- A whole update, for which the source answers with `response` if it is asked. -/
def update (scheduler : Scheduler) (store : FrameStore) (layer : LayerId) (response : Response)
    (stamp : FrameStamp) : Phase × FrameStore :=
  let (phase, store) := scheduler.start store layer
  scheduler.finish layer stamp (phase.receive response) store

end Scheduler

end WeatherRadar.Pipeline
