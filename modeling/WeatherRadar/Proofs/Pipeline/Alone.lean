import WeatherRadar.Proofs.Pipeline.EarlyCheck
import WeatherRadar.Proofs.Pipeline.Settling
/-!
# Updates on their own

What an update comes to without others is told up to the ids of frames and the times of the clock.
An update that takes its turns with the same slot, the same answer of the source and stamps of its
own stays in step with one that runs alone (`AsAlone.turn`), and what that one comes to does not
depend on the number of its turns, once it has ended (`aloneFor_eq_alone`).  It publishes what it
draws if its layer has no frame yet (`alone_publishes`).
-/

namespace WeatherRadar.Pipeline

open WeatherRadar.Geo WeatherRadar.Level3 WeatherRadar.Render

/-! ## Without ids and times -/

def blankStamp : FrameStamp := ⟨0, ⟨0⟩⟩

/-- A status without the id of its frame and the time of its error. -/
def SlotStatus.unstamped (status : SlotStatus) : SlotStatus :=
  { status with
    currentFrame := status.currentFrame.map fun _ => blankStamp.id
    lastErrorAt := status.lastErrorAt.map fun _ => blankStamp.builtAt }

/-- A slot up to the ids of frames and the times of the clock. -/
def Slot.unstamped (slot : Slot) : Slot where
  current := slot.current.map (·.restamp blankStamp)
  generation := slot.generation
  status := slot.status.unstamped

/-- An event without the id of its own frame. -/
def Event.unstamped : Event → Event
  | published layer _ validTime superseded => published layer blankStamp.id validTime superseded
  | unchanged layer _ => unchanged layer blankStamp.id
  | stale layer candidate current => stale layer candidate current
  | failed layer error => failed layer error

@[simp] theorem Event.layer_unstamped (event : Event) : event.unstamped.layer = event.layer := by
  cases event <;> rfl

theorem Slot.unstamped_fail (slot : Slot) (error : UpdateError) (now later : Instant) :
    (slot.fail error now).unstamped = (slot.fail error later).unstamped := rfl

theorem Slot.unstamped_accept (slot : Slot) (frame : Frame) (stamp : FrameStamp) :
    (slot.accept frame).unstamped = (slot.accept (frame.restamp stamp)).unstamped := rfl

/-! ## An update alone -/

/-- What an update meets outside of the store. -/
structure Fate where
  /-- What the source answers, if it is asked. -/
  response : Response
  /-- Whether the worker that reads the file and draws the frame stops before it is done. -/
  workerStops : Bool := false

/-- A turn in which nothing else happens. -/
def Fate.turn (fate : Fate) (stamp : FrameStamp) : Turn := ⟨[], stamp, fate.workerStops⟩

namespace Scheduler

variable (scheduler : Scheduler) (layer : LayerId)

/-- An update that has begun and has its answer, if it asked for one. -/
def begun (store : FrameStore) (response : Response) : Phase × FrameStore :=
  ((scheduler.start store layer).1.receive response, (scheduler.start store layer).2)

/-- Some turns of an update without others. -/
def aloneFor (store : FrameStore) (fate : Fate) (stamp : FrameStamp) (count : Nat) :
    Phase × FrameStore :=
  scheduler.turns layer (List.replicate count (fate.turn stamp))
    (scheduler.begun layer store fate.response)

/-- A whole update without others. -/
def alone (store : FrameStore) (fate : Fate) (stamp : FrameStamp) : Phase × FrameStore :=
  scheduler.aloneFor layer store fate stamp 4

/-- As long as no worker stops, this is the update of the scheduler. -/
theorem alone_eq_update (store : FrameStore) (response : Response) (stamp : FrameStamp) :
    scheduler.alone layer store ⟨response, false⟩ stamp =
      scheduler.update store layer response stamp :=
  (scheduler.update_eq_updateAmid layer store response stamp).symm

theorem aloneFor_succ (store : FrameStore) (fate : Fate) (stamp : FrameStamp) (count : Nat) :
    scheduler.aloneFor layer store fate stamp (count + 1) =
      scheduler.turn layer (fate.turn stamp)
        (scheduler.aloneFor layer store fate stamp count) := by
  rw [aloneFor, List.replicate_succ', turns_append]
  rfl

theorem aloneFor_add_of_finished {store : FrameStore} {fate : Fate} {stamp : FrameStamp}
    {count : Nat} {result : Except UpdateError PublishOutcome} {event : Option Event}
    (hend : (scheduler.aloneFor layer store fate stamp count).1 = .finished result event)
    (more : Nat) : scheduler.aloneFor layer store fate stamp (count + more) =
      scheduler.aloneFor layer store fate stamp count := by
  induction more with
  | zero => rfl
  | succ more ih =>
      rw [← Nat.add_assoc, aloneFor_succ, ih]
      generalize scheduler.aloneFor layer store fate stamp count = state at hend ⊢
      obtain ⟨phase, store'⟩ := state
      obtain rfl : phase = .finished result event := hend
      exact scheduler.turn_finished layer _ result event store'

theorem alone_ends {store : FrameStore} {slot : Slot} (hslot : store.get? layer = some slot)
    (fate : Fate) (stamp : FrameStamp) : ∃ result event,
      (scheduler.alone layer store fate stamp).1 = .finished result (some event) := by
  obtain ⟨result, event, -, -, -, -, hend, -⟩ := scheduler.turns_settle layer
    (List.replicate 4 (fate.turn stamp)) (scheduler.slot_start layer hslot)
    (scheduler.isActive_start layer hslot fate.response)
    (by rw [List.length_replicate]; exact Phase.stepsLeft_le _)
  exact ⟨result, event, hend⟩

theorem aloneFor_eq_alone {store : FrameStore} {slot : Slot}
    (hslot : store.get? layer = some slot) {fate : Fate} {stamp : FrameStamp} {count : Nat}
    {result : Except UpdateError PublishOutcome} {event : Option Event}
    (hend : (scheduler.aloneFor layer store fate stamp count).1 = .finished result event) :
    scheduler.aloneFor layer store fate stamp count = scheduler.alone layer store fate stamp := by
  obtain ⟨last, told, halone⟩ := scheduler.alone_ends layer hslot fate stamp
  -- Whichever takes fewer turns has ended by then, and the turns that are left change nothing.
  rcases Nat.le_total count 4 with hle | hle
  · rw [alone, ← Nat.add_sub_cancel' hle]
    exact (scheduler.aloneFor_add_of_finished layer hend _).symm
  · rw [← Nat.add_sub_cancel' hle]
    exact scheduler.aloneFor_add_of_finished layer halone _

end Scheduler

/-! ## In step with an update alone -/

/-- The end of an update, told from what becomes of its frame. -/
def Phase.ofOffer (layer : LayerId) (frame : Frame) : Offer → Phase
  | .accepted superseded => .finished (.ok (.published superseded))
      (some (.published layer frame.stamp.id frame.validTime superseded))
  | .unchanged => .finished (.ok .unchanged) (some (.unchanged layer frame.stamp.id))
  | .stale current => .ofStale layer layer frame.validTime current

namespace Scheduler

variable (scheduler : Scheduler) (layer : LayerId) (site : Site) (bytes : List UInt8)

theorem turn_publishing_eq {turn : Turn} {store : FrameStore} {slot : Slot} (frame : Frame)
    (hslot : (store.calls turn.others).get? layer = some slot) :
    (scheduler.turn layer turn (.publishing frame, store)).1 =
      .ofOffer layer frame (slot.offer frame) := by
  obtain ⟨result, event, hend, hends⟩ := scheduler.turn_publishing layer frame hslot
  rw [hend]
  cases hends with
  | published hoffer | unchanged hoffer | overtaken hoffer =>
      rw [hoffer]
      rfl

theorem process_restamp (current : Option Instant) (early late : FrameStamp) :
    scheduler.process layer site bytes current late =
      (scheduler.process layer site bytes current early).map (·.restamp late) := by
  cases hdecode : (decode bytes : Except Level3.Error (Product Float)) with
  | error fault =>
      rw [scheduler.process_of_fault layer site bytes hdecode,
        scheduler.process_of_fault layer site bytes hdecode]
      rfl
  | ok product =>
      rw [scheduler.process_of_product layer site bytes hdecode,
        scheduler.process_of_product layer site bytes hdecode]
      cases requireNewer layer product.header.timestamp? current with
      | error error => rfl
      | ok _ => exact scheduler.buildFrame_restamp site product early late

theorem stamp_of_process {current : Option Instant} {stamp : FrameStamp} {frame : Frame}
    (h : scheduler.process layer site bytes current stamp = .ok frame) : frame.stamp = stamp := by
  cases hdecode : (decode bytes : Except Level3.Error (Product Float)) with
  | error fault =>
      rw [scheduler.process_of_fault layer site bytes hdecode] at h
      cases h
  | ok product =>
      rw [scheduler.process_of_product layer site bytes hdecode] at h
      cases hnewer : requireNewer layer product.header.timestamp? current with
      | error error =>
          rw [hnewer] at h
          cases h
      | ok _ =>
          rw [hnewer] at h
          exact (scheduler.facts_of_buildFrame site h).1

end Scheduler

/-- An update has a slot and a phase, and one alone with a stamp of its own is as far with the same
slot.  Their frames differ in nothing but their stamps, and when they have ended, so do their slots
and events. -/
inductive AsAlone (layer : LayerId) (own : FrameStamp) : Slot → Slot → Phase → Phase → Prop where
  | reading {slot : Slot} {site : Site} {bytes : List UInt8} :
      own.IsNewAmong slot.current.toList →
      AsAlone layer own slot slot (.reading site bytes) (.reading site bytes)
  | late {slot : Slot} {candidate current : Instant} :
      AsAlone layer own slot slot (.late candidate current) (.late candidate current)
  | failing {slot : Slot} {error : UpdateError} : error.isStale = false →
      AsAlone layer own slot slot (.failing error) (.failing error)
  | built {slot : Slot} {frame : Frame} : frame.stamp.IsNewAmong slot.current.toList →
      own.IsNewAmong slot.current.toList →
      AsAlone layer own slot slot (.built frame) (.built (frame.restamp own))
  | publishing {slot : Slot} {frame : Frame} : frame.stamp.IsNewAmong slot.current.toList →
      own.IsNewAmong slot.current.toList →
      AsAlone layer own slot slot (.publishing frame) (.publishing (frame.restamp own))
  | finished {slot slot' : Slot} {result : Except UpdateError PublishOutcome}
      {event event' : Event} : slot.unstamped = slot'.unstamped → event.layer = layer →
      event.unstamped = event'.unstamped →
      AsAlone layer own slot slot' (.finished result (some event))
        (.finished result (some event'))

theorem Slot.offer_restamp {slot : Slot} {frame : Frame} {stamp : FrameStamp}
    (hframe : frame.stamp.IsNewAmong slot.current.toList)
    (hstamp : stamp.IsNewAmong slot.current.toList) :
    slot.offer (frame.restamp stamp) = slot.offer frame :=
  Untouched.offer_restamp ⟨rfl, hframe, hstamp⟩ rfl

namespace AsAlone

variable (scheduler : Scheduler) {layer : LayerId} {own : FrameStamp} {slot slot' : Slot}
  {phase phase' : Phase} {store store' : FrameStore}

theorem turn_reading {turn turn' : Turn} {site : Site} {bytes : List UInt8}
    (hown : turn'.stamp.IsNewAmong slot.current.toList)
    (hstamp : turn.stamp.IsNewAmong slot.current.toList)
    (hstops : turn'.workerStops = turn.workerStops)
    (hslot : (store.calls turn.others).get? layer = some slot)
    (hslot' : (store'.calls turn'.others).get? layer = some slot) :
    AsAlone layer turn'.stamp slot slot
      (scheduler.turn layer turn (.reading site bytes, store)).1
      (scheduler.turn layer turn' (.reading site bytes, store')).1 := by
  simp only [Scheduler.turn, hstops, Phase.isReading, Bool.and_true]
  cases turn.workerStops with
  | true => exact .failing rfl
  | false =>
      have hcurrent := FrameStore.currentFrame?_of_slot hslot
      have hcurrent' := FrameStore.currentFrame?_of_slot hslot'
      simp only [Bool.false_eq_true, if_false, Scheduler.step_reading, hcurrent, hcurrent',
        Scheduler.afterReading]
      rw [scheduler.process_restamp layer site bytes _ turn.stamp turn'.stamp]
      cases hprocess : scheduler.process layer site bytes (slot.current.map (·.validTime))
          turn.stamp with
      | ok frame =>
          refine .built ?_ hown
          rw [scheduler.stamp_of_process layer site bytes hprocess]
          exact hstamp
      | error error =>
          cases error with
          | stale named candidate current => exact .late
          | _ => exact .failing rfl

theorem turn_publishing {turn turn' : Turn} {frame : Frame}
    (hframe : frame.stamp.IsNewAmong slot.current.toList)
    (hown : own.IsNewAmong slot.current.toList)
    (hslot : (store.calls turn.others).get? layer = some slot)
    (hslot' : (store'.calls turn'.others).get? layer = some slot) :
    AsAlone layer own (slot.after (.publish frame)) (slot.after (.publish (frame.restamp own)))
      (scheduler.turn layer turn (.publishing frame, store)).1
      (scheduler.turn layer turn' (.publishing (frame.restamp own), store')).1 := by
  rw [scheduler.turn_publishing_eq layer frame hslot,
    scheduler.turn_publishing_eq layer (frame.restamp own) hslot']
  simp only [Slot.after, Slot.offer_restamp hframe hown]
  cases slot.offer frame with
  | accepted superseded => exact .finished (slot.unstamped_accept frame own) rfl rfl
  | unchanged => exact .finished rfl rfl rfl
  | stale current => exact .finished rfl rfl rfl

theorem isActive_or_finished (h : AsAlone layer own slot slot' phase phase') :
    phase.isActive = true ∨ ∃ result event, phase = .finished result (some event) := by
  cases h with
  | reading _ | late | built _ _ | publishing _ _ => exact .inl rfl
  | failing herror => exact .inl (by simp [Phase.isActive, herror])
  | finished _ _ _ => exact .inr ⟨_, _, rfl⟩

theorem receive_eq (h : AsAlone layer own slot slot' phase phase') (response : Response) :
    phase.receive response = phase := by
  cases h <;> rfl

/-- A turn of each keeps them in step. -/
theorem turn {turn turn' : Turn} (h : AsAlone layer turn'.stamp slot slot' phase phase')
    (hslot : (store.calls turn.others).get? layer = some slot)
    (hslot' : (store'.calls turn'.others).get? layer = some slot')
    (hstamp : turn.stamp.IsNewAmong slot.current.toList)
    (hstops : turn'.workerStops = turn.workerStops) :
    ∃ next next', (scheduler.turn layer turn (phase, store)).2.get? layer = some next ∧
      (scheduler.turn layer turn' (phase', store')).2.get? layer = some next' ∧
      AsAlone layer turn'.stamp next next' (scheduler.turn layer turn (phase, store)).1
        (scheduler.turn layer turn' (phase', store')).1 := by
  refine ⟨_, _, scheduler.slot_turn layer phase hslot, scheduler.slot_turn layer phase' hslot', ?_⟩
  cases h with
  | reading hown => exact turn_reading scheduler hown hstamp hstops hslot hslot'
  | publishing hframe hown => exact turn_publishing scheduler hframe hown hslot hslot'
  | late =>
      rw [scheduler.turn_late layer _ _ hslot, scheduler.turn_late layer _ _ hslot']
      exact .finished rfl rfl rfl
  | failing herror =>
      rw [scheduler.turn_failing layer herror hslot, scheduler.turn_failing layer herror hslot']
      exact .finished (slot.unstamped_fail _ _ _) rfl rfl
  | built hframe hown =>
      rw [scheduler.turn_built layer _ hslot, scheduler.turn_built layer _ hslot']
      exact .publishing hframe hown
  | finished hslots hlayer hevents =>
      rw [scheduler.turn_finished, scheduler.turn_finished]
      exact .finished hslots hlayer hevents

end AsAlone

/-! ## How an update alone ends -/

namespace Scheduler

variable (scheduler : Scheduler) (layer : LayerId) {site : Site} {bytes : List UInt8}
  {stamp : FrameStamp} {frame : Frame} {store : FrameStore} {slot : Slot}

theorem process_of_build {product : Product Float} (hdecode : decode bytes = .ok product)
    {georeference : Georeference} (hsite : Georeference.ofSite site .wgs84 = .ok georeference)
    (hbuild : Frame.build product georeference scheduler.palettes scheduler.options stamp =
      .ok frame) : scheduler.process layer site bytes none stamp = .ok frame := by
  rw [process_unchecked scheduler layer site bytes hdecode, buildFrame, hsite]
  simp only [mapError_ok, hbuild, bind, Except.bind]

theorem phase_start (hslot : store.get? layer = some slot) :
    (scheduler.start store layer).1 =
      match scheduler.sites.lookup layer.site with
      | .error error => .failing (.site error)
      | .ok site => .fetching site := by
  simp only [start, FrameStore.beginUpdate, FrameStore.update_of_slot hslot]
  cases scheduler.sites.lookup layer.site <;> rfl

/-- An update that fails ends with its error, however many turns are left. -/
theorem turns_failing {error : UpdateError} (herror : error.isStale = false)
    (hslot : store.get? layer = some slot) (fate : Fate) (left : Nat) :
    (scheduler.turns layer (List.replicate (left + 1) (fate.turn stamp))
      (.failing error, store)).1 = .finished (.error error) (some (.failed layer error)) := by
  have hend : (scheduler.turn layer (fate.turn stamp) (.failing error, store)).1 =
      .finished (.error error) (some (.failed layer error)) :=
    scheduler.turn_failing layer herror hslot
  rw [List.replicate_succ, turns_cons]
  generalize scheduler.turn layer (fate.turn stamp) (.failing error, store) = state at hend
  obtain ⟨phase, ended⟩ := state
  obtain rfl : phase = _ := hend
  rw [(scheduler.turns_finished layer _ _ _ ended).1]

/-- An update without a site or without a file ends with the error for it. -/
theorem alone_fails {fate : Fate} {error : UpdateError} (herror : error.isStale = false)
    (hslot : store.get? layer = some slot)
    (hbegun : (scheduler.start store layer).1.receive fate.response = .failing error) :
    (scheduler.alone layer store fate stamp).1 =
      .finished (.error error) (some (.failed layer error)) := by
  rw [alone, aloneFor, begun, hbegun]
  exact scheduler.turns_failing layer herror (scheduler.slot_start layer hslot) fate 3

/-- An update whose worker stops ends with an error, whatever its file is. -/
theorem alone_stops (hslot : store.get? layer = some slot)
    (hsite : scheduler.sites.lookup layer.site = .ok site) :
    (scheduler.alone layer store ⟨.ok bytes, true⟩ stamp).1 =
      .finished (.error .workerGone) (some (.failed layer .workerGone)) := by
  rw [alone, aloneFor, begun, scheduler.phase_start layer hslot, hsite]
  exact scheduler.turns_failing layer rfl (scheduler.slot_start layer hslot) _ 2

/-- An update publishes what it draws if its layer has no frame yet. -/
theorem alone_publishes (hslot : store.get? layer = some slot)
    (hempty : slot.current = none) (hsite : scheduler.sites.lookup layer.site = .ok site)
    (hprocess : scheduler.process layer site bytes none stamp = .ok frame) :
    (scheduler.alone layer store ⟨.ok bytes, false⟩ stamp).1 =
      .finished (.ok (.published none))
        (some (.published layer frame.stamp.id frame.validTime none)) := by
  have hstarted := scheduler.slot_start layer hslot
  rw [alone, aloneFor, begun, scheduler.phase_start layer hslot, hsite]
  generalize (scheduler.start store layer).2 = begun at hstarted
  let turn := (⟨.ok bytes, false⟩ : Fate).turn stamp
  -- The file is read, the frame is marked as built, and then it is published.
  have hread : scheduler.turn layer turn (.reading site bytes, begun) = (.built frame, begun) := by
    have hcurrent : begun.currentFrame? layer = none := by
      rw [FrameStore.currentFrame?_of_slot hstarted]
      exact hempty
    show scheduler.step layer stamp (.reading site bytes, begun) = _
    rw [step_reading, hcurrent, Option.map_none, afterReading, hprocess]
  obtain ⟨marked, hmark, hmarked⟩ : ∃ marked,
      scheduler.turn layer turn (.built frame, begun) = (.publishing frame, marked) ∧
      marked.get? layer = some slot.begin.markBuilt :=
    ⟨_, Prod.ext (scheduler.turn_built layer frame hstarted) rfl,
      scheduler.slot_turn layer (.built frame) hstarted⟩
  have hoffer : slot.begin.markBuilt.offer frame = .accepted none := by
    simp only [Slot.offer, Slot.begin, Slot.markBuilt, hempty]
  obtain ⟨published, hpublish⟩ : ∃ published,
      scheduler.turn layer turn (.publishing frame, marked) =
        (.finished (.ok (.published none))
          (some (.published layer frame.stamp.id frame.validTime none)), published) := by
    have hphase : (scheduler.turn layer turn (.publishing frame, marked)).1 =
        .ofOffer layer frame (slot.begin.markBuilt.offer frame) :=
      scheduler.turn_publishing_eq layer frame hmarked
    rw [hoffer] at hphase
    exact ⟨_, Prod.ext hphase rfl⟩
  show (scheduler.turn layer turn (scheduler.turn layer turn (scheduler.turn layer turn
    (scheduler.turn layer turn (.reading site bytes, begun))))).1 = _
  rw [hread, hmark, hpublish, turn_finished]

end Scheduler

end WeatherRadar.Pipeline
