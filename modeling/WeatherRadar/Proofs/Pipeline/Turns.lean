import WeatherRadar.Pipeline.Scheduler
import WeatherRadar.Proofs.Pipeline.InFlight
/-!
# Updates in turns

An update takes its steps in turns with other updates, whose calls may come between any two of its
own.  Each step makes the one call that its phase asks for (`store_turn`), and `Phase.Next` lists
what a phase can become.  From these two facts about one turn follows that an update ends within
four turns, with one call that ends it (`turns_settle`).
-/

namespace WeatherRadar.Pipeline

open WeatherRadar.Geo WeatherRadar.Level3 WeatherRadar.Render

/-! ## Updates among others -/

/-- A turn of an update: calls of other updates, and then a step of its own. -/
structure Turn where
  others : List (LayerId × StoreCall)
  stamp : FrameStamp
  /-- Whether the worker that reads the file and draws the frame stops before it is done. -/
  workerStops : Bool

namespace Phase

def isReading : Phase → Bool
  | reading _ _ => true
  | _ => false

/-- Whether an update neither waits for the source nor has ended.  A late product is not a
failure. -/
def isActive : Phase → Bool
  | reading _ _ | built _ | publishing _ | late _ _ => true
  | failing error => !error.isStale
  | fetching _ | finished _ _ => false

/-- The number of updates, one or none, that a phase keeps under way. -/
def pending : Phase → Nat
  | finished _ _ => 0
  | _ => 1

/-- The call that the next step of an update makes. -/
def call? (stamp : FrameStamp) : Phase → Option StoreCall
  | built _ => some .markBuilt
  | publishing frame => some (.publish frame)
  | late candidate current => some (.rejectStale candidate current)
  | failing error => some (.recordFailure error stamp.builtAt)
  | fetching _ | reading _ _ | finished _ _ => none

theorem isActive_receive_fetching (site : Site) (response : Response) :
    ((fetching site).receive response).isActive = true := by
  cases response <;> rfl

theorem one_le_stepsLeft {phase : Phase} (h : phase.isActive = true) : 1 ≤ phase.stepsLeft := by
  cases phase <;> simp [isActive, stepsLeft] at h ⊢

theorem stepsLeft_le (phase : Phase) : phase.stepsLeft ≤ 4 := by
  cases phase <;> simp [stepsLeft]

end Phase

namespace Scheduler

variable (scheduler : Scheduler) (layer : LayerId)

def turn (turn : Turn) (state : Phase × FrameStore) : Phase × FrameStore :=
  let store := state.2.calls turn.others
  if turn.workerStops && state.1.isReading then (.failing .workerGone, store)
  else scheduler.step layer turn.stamp (state.1, store)

def turns (turns : List Turn) (state : Phase × FrameStore) : Phase × FrameStore :=
  turns.foldl (fun state turn => scheduler.turn layer turn state) state

/-- The calls that an update makes in its turns, each with the store that it finds. -/
def ownCalls : List Turn → Phase × FrameStore → List (FrameStore × StoreCall)
  | [], _ => []
  | turn :: turns, state =>
    (state.1.call? turn.stamp).toList.map (state.2.calls turn.others, ·) ++
      ownCalls turns (scheduler.turn layer turn state)

/-- All calls in some turns, those of others and those of the update, in order. -/
def course : List Turn → Phase × FrameStore → List (LayerId × StoreCall)
  | [], _ => []
  | turn :: turns, state =>
    turn.others ++ (state.1.call? turn.stamp).toList.map (layer, ·) ++
      course turns (scheduler.turn layer turn state)

/-- An update that begins, has its answer from the source, and then takes turns with others. -/
def updateAmid (store : FrameStore) (response : Response) (turns : List Turn) :
    Phase × FrameStore :=
  let (phase, store) := scheduler.start store layer
  scheduler.turns layer turns (phase.receive response, store)

/-- The calls of a whole update, each with the store that it finds. -/
def updateCalls (store : FrameStore) (response : Response) (turns : List Turn) :
    List (FrameStore × StoreCall) :=
  let (phase, started) := scheduler.start store layer
  (store, .beginUpdate) :: scheduler.ownCalls layer turns (phase.receive response, started)

/-- All calls from the beginning of an update to its last turn. -/
def updateCourse (store : FrameStore) (response : Response) (turns : List Turn) :
    List (LayerId × StoreCall) :=
  let (phase, started) := scheduler.start store layer
  (layer, .beginUpdate) :: scheduler.course layer turns (phase.receive response, started)

@[simp] theorem turns_nil (state : Phase × FrameStore) : scheduler.turns layer [] state = state :=
  rfl

@[simp] theorem turns_cons (turn : Turn) (turns : List Turn) (state : Phase × FrameStore) :
    scheduler.turns layer (turn :: turns) state =
      scheduler.turns layer turns (scheduler.turn layer turn state) := rfl

end Scheduler

/-! ## One turn -/

/-- How an update ends: the last call, which finds a slot, with the result and the event that
follow from it. -/
inductive Ends (layer : LayerId) (slot : Slot) :
    StoreCall → Except UpdateError PublishOutcome → Event → Prop where
  | published {frame : Frame} {superseded : Option Nat} :
      slot.offer frame = .accepted superseded →
      Ends layer slot (.publish frame) (.ok (.published superseded))
        (.published layer frame.stamp.id frame.validTime superseded)
  | unchanged {frame : Frame} :
      slot.offer frame = .unchanged →
      Ends layer slot (.publish frame) (.ok .unchanged) (.unchanged layer frame.stamp.id)
  | overtaken {frame : Frame} {current : Instant} :
      slot.offer frame = .stale current →
      Ends layer slot (.publish frame) (.error (.stale layer frame.validTime current))
        (.stale layer frame.validTime current)
  | late {candidate current : Instant} :
      Ends layer slot (.rejectStale candidate current) (.error (.stale layer candidate current))
        (.stale layer candidate current)
  | failed {error : UpdateError} {now : Instant} :
      error.isStale = false →
      Ends layer slot (.recordFailure error now) (.error error) (.failed layer error)

/-- What a phase can become in a turn that finds a slot. -/
inductive Phase.Next (layer : LayerId) (stamp : FrameStamp) (slot : Slot) :
    Phase → Phase → Prop where
  | drawn {site : Site} {bytes : List UInt8} {frame : Frame} :
      Next layer stamp slot (reading site bytes) (built frame)
  | outdated {site : Site} {bytes : List UInt8} {candidate current : Instant} :
      Next layer stamp slot (reading site bytes) (late candidate current)
  | failed {site : Site} {bytes : List UInt8} {error : UpdateError} :
      error.isStale = false → Next layer stamp slot (reading site bytes) (failing error)
  | marked {frame : Frame} : Next layer stamp slot (built frame) (publishing frame)
  | ended {phase : Phase} {call : StoreCall} {result : Except UpdateError PublishOutcome}
      {event : Event} :
      phase.call? stamp = some call → Ends layer slot call result event →
      Next layer stamp slot phase (finished result (some event))

theorem Ends.isFinishing {layer : LayerId} {slot : Slot} {call : StoreCall}
    {result : Except UpdateError PublishOutcome} {event : Event}
    (h : Ends layer slot call result event) : call.isFinishing = true := by
  cases h <;> rfl

/-- An update either goes on, nearer to its end and without a call that ends it, or ends. -/
theorem Phase.Next.progress {layer : LayerId} {stamp : FrameStamp} {slot : Slot}
    {phase phase' : Phase} (h : Phase.Next layer stamp slot phase phase') :
    (phase'.isActive = true ∧ phase'.stepsLeft < phase.stepsLeft ∧
      ∀ call, phase.call? stamp = some call → call = .markBuilt) ∨
    ∃ call result event, phase' = finished result (some event) ∧
      phase.call? stamp = some call ∧ Ends layer slot call result event := by
  cases h with
  | drawn => exact Or.inl ⟨rfl, by simp [stepsLeft], by simp [call?]⟩
  | outdated => exact Or.inl ⟨rfl, by simp [stepsLeft], by simp [call?]⟩
  | failed herror =>
      exact Or.inl ⟨by simp [isActive, herror], by simp [stepsLeft], by simp [call?]⟩
  | marked => exact Or.inl ⟨rfl, by simp [stepsLeft], by simp [call?, eq_comm]⟩
  | ended hcall hends => exact Or.inr ⟨_, _, _, rfl, hcall, hends⟩

namespace Scheduler

variable (scheduler : Scheduler) (layer : LayerId)

/-- A step changes the store by the call that its phase asks for, and in no other way. -/
theorem store_step (stamp : FrameStamp) (phase : Phase) (store : FrameStore) :
    (scheduler.step layer stamp (phase, store)).2 =
      store.calls ((phase.call? stamp).toList.map (layer, ·)) := by
  cases phase with
  | fetching site => rfl
  | finished result event => rfl
  | reading site bytes =>
      simp only [step]
      split <;> rfl
  | built frame =>
      simp only [step, Phase.call?, Option.toList_some, List.map_singleton,
        FrameStore.calls_cons, FrameStore.calls_nil, FrameStore.call]
      cases store.markBuilt layer <;> rfl
  | publishing frame =>
      simp only [step, Phase.call?, Option.toList_some, List.map_singleton,
        FrameStore.calls_cons, FrameStore.calls_nil, FrameStore.call]
      split <;> rename_i h <;> rw [h]
  | late candidate current =>
      simp only [step, Phase.call?, Option.toList_some, List.map_singleton,
        FrameStore.calls_cons, FrameStore.calls_nil, FrameStore.call]
      split <;> rename_i h <;> rw [h]
  | failing error =>
      simp only [step, Phase.call?, Option.toList_some, List.map_singleton,
        FrameStore.calls_cons, FrameStore.calls_nil, FrameStore.call]
      cases store.recordFailure layer error stamp.builtAt <;> rfl

/-- A turn changes the store by the calls of others and then by its own call. -/
theorem store_turn (turn : Turn) (phase : Phase) (store : FrameStore) :
    (scheduler.turn layer turn (phase, store)).2 =
      (store.calls turn.others).calls ((phase.call? turn.stamp).toList.map (layer, ·)) := by
  by_cases hstops : (turn.workerStops && phase.isReading) = true
  · simp only [Scheduler.turn, if_pos hstops]
    cases phase with
    | reading site bytes => rfl
    | _ => simp [Phase.isReading] at hstops
  · simp only [Scheduler.turn, if_neg hstops]
    exact scheduler.store_step layer turn.stamp phase _

theorem slot_turn {turn : Turn} (phase : Phase) {store : FrameStore} {slot : Slot}
    (hslot : (store.calls turn.others).get? layer = some slot) :
    (scheduler.turn layer turn (phase, store)).2.get? layer =
      some (slot.afterAll (phase.call? turn.stamp).toList) := by
  rw [store_turn, FrameStore.get?_calls, hslot, Option.map_some]
  cases phase.call? turn.stamp with
  | none => rfl
  | some call => simp [FrameStore.callsOf]

theorem next_publishing {stamp : FrameStamp} {store : FrameStore} {slot : Slot} (frame : Frame)
    (hslot : store.get? layer = some slot) :
    Phase.Next layer stamp slot (.publishing frame)
      (scheduler.step layer stamp (.publishing frame, store)).1 := by
  have hreply := FrameStore.call_reply hslot (.publish frame)
  simp only [FrameStore.call, Slot.reply] at hreply
  simp only [step]
  generalize store.publish layer frame = answer at hreply ⊢
  obtain ⟨result, store'⟩ := answer
  cases hoffer : slot.offer frame with
  | accepted superseded =>
      obtain rfl : result = .ok (.published superseded) := by
        cases result <;> simp_all [Except.map, Slot.replyToOffer]
      exact .ended rfl (.published hoffer)
  | unchanged =>
      obtain rfl : result = .ok .unchanged := by
        cases result <;> simp_all [Except.map, Slot.replyToOffer]
      exact .ended rfl (.unchanged hoffer)
  | stale current =>
      obtain rfl : result = .error (.stale layer frame.validTime current) := by
        cases result <;> simp_all [Except.map, Slot.replyToOffer]
      exact .ended rfl (.overtaken hoffer)

theorem next_turn {turn : Turn} {phase : Phase} {store : FrameStore} {slot : Slot}
    (hphase : phase.isActive = true)
    (hslot : (store.calls turn.others).get? layer = some slot) :
    Phase.Next layer turn.stamp slot phase (scheduler.turn layer turn (phase, store)).1 := by
  have hupdate := FrameStore.update_of_slot hslot
  cases phase with
  | fetching site => simp [Phase.isActive] at hphase
  | finished result event => simp [Phase.isActive] at hphase
  | reading site bytes =>
      simp only [Scheduler.turn, Phase.isReading, Bool.and_true]
      split
      · exact .failed rfl
      · simp only [step]
        split
        · exact .drawn
        · rename_i error _
          cases error with
          | stale named candidate current => exact .outdated
          | _ => exact .failed rfl
  | built frame =>
      simp only [Scheduler.turn, Phase.isReading, Bool.and_false, step, FrameStore.markBuilt,
        hupdate]
      exact .marked
  | publishing frame =>
      simp only [Scheduler.turn, Phase.isReading, Bool.and_false]
      exact scheduler.next_publishing layer frame hslot
  | late candidate current =>
      simp only [Scheduler.turn, Phase.isReading, Bool.and_false, step, FrameStore.rejectStale,
        hupdate]
      exact .ended rfl .late
  | failing error =>
      have herror : error.isStale = false := by simpa [Phase.isActive] using hphase
      simp only [Scheduler.turn, Phase.isReading, Bool.and_false, step, FrameStore.recordFailure,
        hupdate]
      exact .ended rfl (.failed herror)

/-- An update that has ended makes no more calls. -/
theorem turn_finished (turn : Turn) (result : Except UpdateError PublishOutcome)
    (event : Option Event) (store : FrameStore) :
    scheduler.turn layer turn (.finished result event, store) =
      (.finished result event, store.calls turn.others) := by
  simp [Scheduler.turn, Phase.isReading, step]

/-! ## Whole updates -/

theorem turns_finished (turns : List Turn) (result : Except UpdateError PublishOutcome)
    (event : Option Event) (store : FrameStore) :
    scheduler.turns layer turns (.finished result event, store) =
        (.finished result event, store.calls (turns.flatMap (·.others))) ∧
      scheduler.ownCalls layer turns (.finished result event, store) = [] := by
  induction turns generalizing store with
  | nil => exact ⟨rfl, rfl⟩
  | cons turn turns ih =>
      rw [turns_cons, ownCalls, turn_finished, List.flatMap_cons, FrameStore.calls_append,
        (ih _).1, (ih _).2]
      exact ⟨rfl, rfl⟩

/-- Turns change the store by their calls, and in no other way. -/
theorem store_turns (turns : List Turn) (state : Phase × FrameStore) :
    (scheduler.turns layer turns state).2 = state.2.calls (scheduler.course layer turns state) := by
  induction turns generalizing state with
  | nil => rfl
  | cons turn turns ih =>
      obtain ⟨phase, store⟩ := state
      rw [turns_cons, ih, course, FrameStore.calls_append, FrameStore.calls_append,
        store_turn]

/-- An update that is going on ends within its turns, with one call that ends it and nothing but
notes of a built frame before. -/
theorem turns_settle (turns : List Turn) {phase : Phase} {store : FrameStore} {slot : Slot}
    (hslot : store.get? layer = some slot) (hphase : phase.isActive = true)
    (hturns : phase.stepsLeft ≤ turns.length) :
    ∃ result event marks found last lastSlot,
      (scheduler.turns layer turns (phase, store)).1 = .finished result (some event) ∧
      scheduler.ownCalls layer turns (phase, store) = marks ++ [(found, last)] ∧
      (∀ entry ∈ marks, entry.2 = .markBuilt ∧ ∃ slot, entry.1.get? layer = some slot) ∧
      found.get? layer = some lastSlot ∧ Ends layer lastSlot last result event := by
  induction turns generalizing phase store slot with
  | nil =>
      have hsteps := Phase.one_le_stepsLeft hphase
      simp at hturns
      omega
  | cons turn turns ih =>
      have hfound := FrameStore.get?_calls_of_slot hslot turn.others
      have hnext := scheduler.next_turn layer hphase hfound
      have hafter := scheduler.slot_turn layer phase hfound
      rw [turns_cons, ownCalls]
      rw [List.length_cons] at hturns
      generalize scheduler.turn layer turn (phase, store) = state at hnext hafter ⊢
      obtain ⟨phase', store'⟩ := state
      rcases hnext.progress with ⟨hactive, hless, hmark⟩ |
          ⟨call, result, event, hfinished, hcall, hends⟩
      · dsimp only at hactive hless
        obtain ⟨result, event, marks, found, last, lastSlot, hfinished, hcalls, hmarks, hrest⟩ :=
          ih hafter hactive (by omega)
        refine ⟨result, event, (phase.call? turn.stamp).toList.map (store.calls turn.others, ·) ++
          marks, found, last, lastSlot, hfinished, by rw [hcalls, List.append_assoc], ?_, hrest⟩
        intro entry hentry
        rcases List.mem_append.1 hentry with hentry | hentry
        · obtain ⟨call, hcall, rfl⟩ := List.mem_map.1 hentry
          exact ⟨hmark call (by simpa using hcall), _, hfound⟩
        · exact hmarks entry hentry
      · dsimp only at hfinished
        obtain ⟨hlast, hnone⟩ := scheduler.turns_finished layer turns result (some event) store'
        refine ⟨result, event, [], store.calls turn.others, call, _, ?_, ?_, by simp, hfound,
          hends⟩
        · rw [hfinished, hlast]
        · rw [hfinished, hnone, hcall]
          rfl

/-- The updates under way in the course of turns: those of others, and this one until it ends. -/
theorem turns_inFlight (turns : List Turn) {phase : Phase} {store : FrameStore} {slot : Slot}
    {count : Nat} (hslot : store.get? layer = some slot) (hphase : phase.isActive = true)
    (hcount : slot.status.inFlight = count + 1)
    (hothers : StoreCall.Balanced count (FrameStore.callsOf layer (turns.flatMap (·.others)))) :
    ∃ slot', (scheduler.turns layer turns (phase, store)).2.get? layer = some slot' ∧
      slot'.status.inFlight =
        StoreCall.underWay count (FrameStore.callsOf layer (turns.flatMap (·.others))) +
          (scheduler.turns layer turns (phase, store)).1.pending := by
  induction turns generalizing phase store slot count with
  | nil =>
      have hpending : phase.pending = 1 := by
        cases phase <;> first | rfl | cases hphase
      refine ⟨slot, hslot, ?_⟩
      rw [turns_nil, hpending]
      exact hcount
  | cons turn turns ih =>
      rw [List.flatMap_cons, FrameStore.callsOf_append] at hothers ⊢
      rw [hothers.left.underWay_append]
      have hfound := FrameStore.get?_calls_of_slot hslot turn.others
      have hcountFound := Slot.inFlight_afterAll hcount hothers.left
      have hnext := scheduler.next_turn layer hphase hfound
      have hafter := scheduler.slot_turn layer phase hfound
      rw [turns_cons]
      generalize scheduler.turn layer turn (phase, store) = state at hnext hafter ⊢
      obtain ⟨phase', store'⟩ := state
      rcases hnext.progress with ⟨hactive, -, hmark⟩ |
          ⟨call, result, event, hfinished, hcall, hends⟩
      · apply ih hafter hactive _ hothers.right
        cases hcall : phase.call? turn.stamp with
        | none => exact hcountFound
        | some call =>
            rw [hmark call hcall]
            exact hcountFound
      · dsimp only at hfinished
        rw [hfinished, (scheduler.turns_finished layer turns result (some event) store').1]
        refine ⟨_, FrameStore.get?_calls_of_slot hafter _, Slot.inFlight_afterAll ?_ hothers.right⟩
        rw [hcall, Option.toList_some, Slot.afterAll_cons, Slot.afterAll_nil,
          Slot.inFlight_after, if_pos hends.isFinishing, hcountFound]
        rfl

/-- An update without others is one whose others make no calls. -/
theorem run_eq_turns (stamp : FrameStamp) (steps : Nat) (state : Phase × FrameStore) :
    scheduler.run layer stamp steps state =
      scheduler.turns layer (List.replicate steps ⟨[], stamp, false⟩) state := by
  induction steps generalizing state with
  | zero => rfl
  | succ steps ih =>
      rw [run, ih, List.replicate_succ, turns_cons]
      rfl

theorem turns_append (turns more : List Turn) (state : Phase × FrameStore) :
    scheduler.turns layer (turns ++ more) state =
      scheduler.turns layer more (scheduler.turns layer turns state) := by
  simp [Scheduler.turns, List.foldl_append]

end Scheduler

end WeatherRadar.Pipeline
