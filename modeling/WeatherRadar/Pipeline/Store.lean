import WeatherRadar.Pipeline.Error
import WeatherRadar.Render.Frame
/-!
# Current frames

The store holds the current frame of every configured layer and what is going on with it.  A frame
takes the place of the current one only if its scan began later, so that the newest scan wins in
whatever order frames are finished.
-/

namespace WeatherRadar.Pipeline

open WeatherRadar.Render

/-- What is going on with a layer. -/
inductive SlotState where
  | empty
  /-- An update is fetching or reading a product. -/
  | decoding
  /-- A frame was built and is about to be published. -/
  | built
  | published
  deriving DecidableEq, Repr

def SlotState.name : SlotState → String
  | empty => "empty"
  | decoding => "decoding"
  | built => "built"
  | published => "published"

/-- What can be seen of a layer without its frame. -/
structure SlotStatus where
  state : SlotState := .empty
  currentFrame : Option Nat := none
  /-- The time of the scan of the current frame. -/
  validTime : Option Instant := none
  lastError : Option UpdateError := none
  lastErrorAt : Option Instant := none
  /-- The number of updates that began and did not finish yet. -/
  inFlight : Nat := 0
  publishedCount : Nat := 0

/-- How a frame was published. -/
inductive PublishOutcome where
  /-- It is current now, in place of another one if there was one. -/
  | published (superseded : Option Nat)
  | unchanged
  deriving DecidableEq, Repr

/-- What the store holds for a layer. -/
structure Slot where
  current : Option Frame := none
  /-- The number of times that the current frame changed. -/
  generation : Nat := 0
  status : SlotStatus := {}

/-- What becomes of a frame that is offered. -/
inductive Offer where
  | accepted (superseded : Option Nat)
  | unchanged
  | stale (current : Instant)
  deriving DecidableEq, Repr

namespace Slot

/-- The state of a layer whose last update ended without a new frame. -/
def restingState (slot : Slot) : SlotState :=
  if slot.current.isSome then .published else .empty

def begin (slot : Slot) : Slot :=
  { slot with status := { slot.status with
      inFlight := slot.status.inFlight + 1
      state := .decoding } }

def markBuilt (slot : Slot) : Slot :=
  { slot with status := { slot.status with state := .built } }

def settle (slot : Slot) : Slot :=
  let left := slot.status.inFlight - 1
  { slot with status := { slot.status with
      inFlight := left
      state := if left = 0 then slot.restingState else slot.status.state } }

def fail (slot : Slot) (error : UpdateError) (now : Instant) : Slot :=
  let settled := slot.settle
  { settled with status := { settled.status with
      lastError := some error
      lastErrorAt := some now } }

def accept (slot : Slot) (frame : Frame) : Slot where
  current := some frame
  generation := slot.generation + 1
  status := { slot.status with
    inFlight := slot.status.inFlight - 1
    state := .published
    currentFrame := some frame.stamp.id
    validTime := some frame.validTime
    lastError := none
    publishedCount := slot.status.publishedCount + 1 }

/-- What becomes of a frame: the current frame stays as it is when it is offered again or when the
offered one is not newer. -/
def offer (slot : Slot) (frame : Frame) : Offer :=
  match slot.current with
  | none => .accepted none
  | some current =>
    if current.stamp.id = frame.stamp.id then .unchanged
    else if frame.isNewerThan current then .accepted (some current.stamp.id)
    else .stale current.validTime

end Slot

/-- The slots of the configured layers. -/
structure FrameStore where
  slots : List (LayerId × Slot)
  /-- Every layer has one slot. -/
  layers_nodup : (slots.map Prod.fst).Nodup

namespace FrameStore

/-- The members of a list without repetitions, each where it comes last. -/
def distinct (layers : List LayerId) : List LayerId :=
  layers.foldr (fun layer found => if layer ∈ found then found else layer :: found) []

theorem nodup_distinct (layers : List LayerId) : (distinct layers).Nodup := by
  induction layers with
  | nil => simp [distinct]
  | cons layer layers ih =>
    simp only [distinct, List.foldr_cons] at ih ⊢
    split
    · exact ih
    · exact List.nodup_cons.2 ⟨by assumption, ih⟩

/-- A store for some layers, none of which has a frame. -/
def ofLayers (layers : List LayerId) : FrameStore where
  slots := (distinct layers).map fun layer => (layer, {})
  layers_nodup := by
    rw [List.map_map]
    simpa [Function.comp_def] using nodup_distinct layers

def layers (store : FrameStore) : List LayerId :=
  (store.slots.map Prod.fst).mergeSort LayerId.le

def get? (store : FrameStore) (layer : LayerId) : Option Slot :=
  (store.slots.find? (·.1 = layer)).map (·.2)

def contains (store : FrameStore) (layer : LayerId) : Bool := (store.get? layer).isSome

def currentFrame? (store : FrameStore) (layer : LayerId) : Option Frame :=
  (store.get? layer).bind (·.current)

def status? (store : FrameStore) (layer : LayerId) : Option SlotStatus :=
  (store.get? layer).map (·.status)

def modify (store : FrameStore) (layer : LayerId) (f : Slot → Slot) : FrameStore where
  slots := store.slots.map fun (l, slot) => (l, if l = layer then f slot else slot)
  layers_nodup := by
    rw [List.map_map]
    exact store.layers_nodup

def update (store : FrameStore) (layer : LayerId) (f : Slot → Slot) :
    Except UpdateError FrameStore :=
  if store.contains layer then .ok (store.modify layer f) else .error (.unknownLayer layer)

def beginUpdate (store : FrameStore) (layer : LayerId) : Except UpdateError FrameStore :=
  store.update layer Slot.begin

def markBuilt (store : FrameStore) (layer : LayerId) : Except UpdateError FrameStore :=
  store.update layer Slot.markBuilt

def recordFailure (store : FrameStore) (layer : LayerId) (error : UpdateError) (now : Instant) :
    Except UpdateError FrameStore :=
  store.update layer (·.fail error now)

/-- Ends an update whose product is not newer than the current frame, with the error that says
so. -/
def rejectStale (store : FrameStore) (layer : LayerId) (candidate current : Instant) :
    UpdateError × FrameStore :=
  match store.update layer Slot.settle with
  | .ok store => (.stale layer candidate current, store)
  | .error error => (error, store)

/-- Ends an update by making its frame current if it is newer. -/
def publish (store : FrameStore) (layer : LayerId) (frame : Frame) :
    Except UpdateError PublishOutcome × FrameStore :=
  match store.get? layer with
  | none => (.error (.unknownLayer layer), store)
  | some slot =>
    match slot.offer frame with
    | .accepted superseded => (.ok (.published superseded), store.modify layer (·.accept frame))
    | .unchanged => (.ok .unchanged, store.modify layer Slot.settle)
    | .stale current =>
      let (error, store) := store.rejectStale layer frame.validTime current
      (.error error, store)

end FrameStore

/-! ## Courses of calls -/

/-- What an update asks of the store. -/
inductive StoreCall where
  | beginUpdate
  | markBuilt
  | publish (frame : Frame)
  | recordFailure (error : UpdateError) (now : Instant)
  | rejectStale (candidate current : Instant)

/-- The store after a call for a layer, and the outcome if a frame was offered. -/
def FrameStore.call (store : FrameStore) (layer : LayerId) :
    StoreCall → Except UpdateError (Option PublishOutcome) × FrameStore
  | .beginUpdate => changed (store.beginUpdate layer)
  | .markBuilt => changed (store.markBuilt layer)
  | .recordFailure error now => changed (store.recordFailure layer error now)
  | .publish frame =>
    let (result, store) := store.publish layer frame
    (result.map some, store)
  | .rejectStale candidate current =>
    let (error, store) := store.rejectStale layer candidate current
    (.error error, store)
where
  /-- A call that changes nothing if it fails. -/
  changed : Except UpdateError FrameStore → Except UpdateError (Option PublishOutcome) × FrameStore
    | .ok store => (.ok none, store)
    | .error error => (.error error, store)

end WeatherRadar.Pipeline
