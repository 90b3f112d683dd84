import WeatherRadar.Proofs.Pipeline.NewestFrame
import WeatherRadar.Proofs.Pipeline.Turns
/-!
# Two runs of one update

Two runs of an update take their turns with the same calls of others.  If they are in the same
phase and their frames differ in the stamp only, they stay so, and their displays mirror each other
(`Lockstep.turns`).  A run whose frame stays behind the current one, or that has none, leaves the
display to the others (`Hopeless.turns`).
-/

namespace WeatherRadar.Render

/-- None of some frames has the id of a stamp. -/
def FrameStamp.IsNewAmong (stamp : FrameStamp) (frames : List Frame) : Prop :=
  ∀ frame ∈ frames, frame.stamp.id ≠ stamp.id

namespace FrameStamp.IsNewAmong

variable {stamp : FrameStamp} {frames more : List Frame}

theorem left (h : stamp.IsNewAmong (frames ++ more)) : stamp.IsNewAmong frames :=
  fun frame hframe => h frame (List.mem_append_left more hframe)

theorem right (h : stamp.IsNewAmong (frames ++ more)) : stamp.IsNewAmong more :=
  fun frame hframe => h frame (List.mem_append_right frames hframe)

end FrameStamp.IsNewAmong

namespace Frame

/-- The same frame under another stamp. -/
def restamp (frame : Frame) (stamp : FrameStamp) : Frame := { frame with stamp := stamp }

@[simp] theorem stamp_restamp (frame : Frame) (stamp : FrameStamp) :
    (frame.restamp stamp).stamp = stamp := rfl

end Frame

end WeatherRadar.Render

namespace WeatherRadar.Pipeline

open WeatherRadar.Render

/-! ## The turns of an update, phase by phase -/

/-- An update has not ended with a frame. -/
def Phase.IsFrameless (phase : Phase) : Prop :=
  ∀ outcome event, phase ≠ .finished (.ok outcome) event

namespace Scheduler

variable (scheduler : Scheduler) (layer : LayerId) {turn : Turn} {store : FrameStore} {slot : Slot}

theorem turn_built (frame : Frame) (hslot : (store.calls turn.others).get? layer = some slot) :
    (scheduler.turn layer turn (.built frame, store)).1 = .publishing frame := by
  have hnext : Phase.Next layer turn.stamp slot (.built frame) _ :=
    scheduler.next_turn layer rfl hslot
  generalize (scheduler.turn layer turn (.built frame, store)).1 = phase at hnext ⊢
  cases hnext with
  | marked => rfl
  | ended hcall hends =>
      cases hcall
      cases hends

/-- A turn that makes the call that ends an update ends it. -/
theorem turn_ends {phase : Phase} {call : StoreCall} (hphase : phase.isActive = true)
    (hcall : phase.call? turn.stamp = some call) (hfinishing : call.isFinishing = true)
    (hslot : (store.calls turn.others).get? layer = some slot) :
    ∃ result event, (scheduler.turn layer turn (phase, store)).1 =
        .finished result (some event) ∧ Ends layer slot call result event := by
  rcases (scheduler.next_turn layer hphase hslot).progress with ⟨-, -, hmark⟩ |
      ⟨last, result, event, hend, hlast, hends⟩
  · rw [hmark call hcall] at hfinishing
    cases hfinishing
  · obtain rfl : last = call := Option.some.inj (hlast.symm.trans hcall)
    exact ⟨result, event, hend, hends⟩

theorem turn_publishing (frame : Frame)
    (hslot : (store.calls turn.others).get? layer = some slot) :
    ∃ result event, (scheduler.turn layer turn (.publishing frame, store)).1 =
        .finished result (some event) ∧ Ends layer slot (.publish frame) result event :=
  scheduler.turn_ends layer rfl rfl rfl hslot

theorem turn_late (candidate current : Instant)
    (hslot : (store.calls turn.others).get? layer = some slot) :
    (scheduler.turn layer turn (.late candidate current, store)).1 =
      .ofStale layer layer candidate current := by
  obtain ⟨result, event, hend, hends⟩ := scheduler.turn_ends layer
    (show (Phase.late candidate current).isActive = true from rfl) rfl rfl hslot
  rw [hend]
  cases hends
  rfl

theorem turn_failing {error : UpdateError} (herror : error.isStale = false)
    (hslot : (store.calls turn.others).get? layer = some slot) :
    (scheduler.turn layer turn (.failing error, store)).1 =
      .finished (.error error) (some (.failed layer error)) := by
  have hactive : (Phase.failing error).isActive = true := by
    simp [Phase.isActive, herror]
  obtain ⟨result, event, hend, hends⟩ := scheduler.turn_ends layer hactive rfl rfl hslot
  rw [hend]
  cases hends
  rfl

end Scheduler

/-! ## The display of a layer under calls -/

namespace Slot

theorem afterAll_append (slot : Slot) (calls more : List StoreCall) :
    slot.afterAll (calls ++ more) = (slot.afterAll calls).afterAll more := by
  simp [afterAll]

theorem offer_congr {slot slot' : Slot} (h : slot'.current = slot.current) (frame : Frame) :
    slot'.offer frame = slot.offer frame := by
  simp only [offer, h]

/-- A call leaves the display as it is, or puts a newer frame in its place. -/
theorem current_after (slot : Slot) (call : StoreCall) :
    (slot.after call).current = slot.current ∨
    ∃ frame, call = .publish frame ∧ (slot.after call).current = some frame ∧
      ∀ current, slot.current = some current → current.validTime < frame.validTime := by
  cases call with
  | publish frame =>
      simp only [after]
      cases hoffer : slot.offer frame with
      | unchanged => exact Or.inl rfl
      | stale current => exact Or.inl rfl
      | accepted superseded =>
          refine Or.inr ⟨frame, rfl, rfl, ?_⟩
          intro current hcurrent
          simp only [offer, hcurrent] at hoffer
          split at hoffer
          · cases hoffer
          · split at hoffer
            · rename_i hnewer
              simpa [Frame.isNewerThan] using hnewer
            · cases hoffer
  | beginUpdate | markBuilt | recordFailure | rejectStale => exact Or.inl rfl

theorem current_after_congr {slot slot' : Slot} (h : slot'.current = slot.current)
    (call : StoreCall) : (slot'.after call).current = (slot.after call).current := by
  cases call with
  | publish frame =>
      simp only [after, offer_congr h]
      cases slot.offer frame with
      | accepted superseded => rfl
      | unchanged | stale => exact h
  | beginUpdate | markBuilt | recordFailure | rejectStale => exact h

theorem current_afterAll_congr {slot slot' : Slot} (h : slot'.current = slot.current)
    (calls : List StoreCall) : (slot'.afterAll calls).current = (slot.afterAll calls).current := by
  induction calls generalizing slot slot' with
  | nil => exact h
  | cons call calls ih => exact ih (current_after_congr h call)

theorem isNewAmong_after {stamp : FrameStamp} {slot : Slot} {call : StoreCall}
    (hcurrent : stamp.IsNewAmong slot.current.toList)
    (hcall : stamp.IsNewAmong call.frame?.toList) :
    stamp.IsNewAmong (slot.after call).current.toList := by
  rcases slot.current_after call with h | ⟨frame, rfl, h, -⟩
  · rwa [h]
  · rwa [h]

theorem isNewAmong_afterAll {stamp : FrameStamp} {slot : Slot} {calls : List StoreCall}
    (hcurrent : stamp.IsNewAmong slot.current.toList)
    (hcalls : stamp.IsNewAmong (StoreCall.frames calls)) :
    stamp.IsNewAmong (slot.afterAll calls).current.toList := by
  induction calls generalizing slot with
  | nil => exact hcurrent
  | cons call calls ih =>
      rw [StoreCall.frames_cons] at hcalls
      exact ih (isNewAmong_after hcurrent hcalls.left) hcalls.right

end Slot

/-! ## Runs in step -/

/-- Two displays show the same frame, or each the frame of its own run. -/
inductive Mirrors (early late : FrameStamp) : Option Frame → Option Frame → Prop where
  | same {current : Option Frame} : Mirrors early late current current
  | own {frame : Frame} : frame.stamp = early →
      Mirrors early late (some frame) (some (frame.restamp late))

namespace Mirrors

variable {early late : FrameStamp} {slot slot' : Slot}

theorem of_eq {current current' : Option Frame} (h : current' = current) :
    Mirrors early late current current' := h ▸ .same

theorem restamp_eq {current current' : Option Frame} (h : Mirrors early late current current')
    (stamp : FrameStamp) : current.map (·.restamp stamp) = current'.map (·.restamp stamp) := by
  cases h <;> rfl

theorem after {call : StoreCall} (h : Mirrors early late slot.current slot'.current)
    (hearly : early.IsNewAmong call.frame?.toList) (hlate : late.IsNewAmong call.frame?.toList) :
    Mirrors early late (slot.after call).current (slot'.after call).current := by
  generalize hcurrent : slot.current = current at h
  generalize hcurrent' : slot'.current = current' at h
  cases h with
  | same => exact .of_eq (Slot.current_after_congr (hcurrent'.trans hcurrent.symm) call)
  | own hstamp =>
      rename_i frame
      cases call with
      | publish other =>
          have hid : ¬ frame.stamp.id = other.stamp.id := by
            rw [hstamp]
            exact fun hid => hearly other (by simp [StoreCall.frame?]) hid.symm
          have hid' : ¬ late.id = other.stamp.id :=
            fun hid => hlate other (by simp [StoreCall.frame?]) hid.symm
          -- Both displays show the same valid time, so the other frame replaces both or none.
          by_cases hnewer : other.isNewerThan frame = true
          · have hnewer' : other.isNewerThan (frame.restamp late) = true := hnewer
            simp only [Slot.after, Slot.offer, hcurrent, hcurrent', Frame.stamp_restamp, if_neg hid,
              if_neg hid', if_pos hnewer, if_pos hnewer']
            exact .same
          · have hnewer' : ¬ other.isNewerThan (frame.restamp late) = true := hnewer
            simp only [Slot.after, Slot.offer, hcurrent, hcurrent', Frame.stamp_restamp, if_neg hid,
              if_neg hid', if_neg hnewer, if_neg hnewer', Slot.afterOffer, Slot.settle]
            exact .own hstamp
      | beginUpdate | markBuilt | recordFailure | rejectStale =>
          simp only [Slot.after, Slot.begin, Slot.markBuilt, Slot.fail, Slot.settle, hcurrent,
            hcurrent']
          exact .own hstamp

theorem afterAll {calls : List StoreCall} (h : Mirrors early late slot.current slot'.current)
    (hearly : early.IsNewAmong (StoreCall.frames calls))
    (hlate : late.IsNewAmong (StoreCall.frames calls)) :
    Mirrors early late (slot.afterAll calls).current (slot'.afterAll calls).current := by
  induction calls generalizing slot slot' with
  | nil => exact h
  | cons call calls ih =>
      rw [StoreCall.frames_cons] at hearly hlate
      exact ih (h.after hearly.left hlate.left) hearly.right hlate.right

end Mirrors

/-- Two displays show the same frame, and none of a run. -/
structure Untouched (early late : FrameStamp) (slot slot' : Slot) : Prop where
  same : slot'.current = slot.current
  early : early.IsNewAmong slot.current.toList
  late : late.IsNewAmong slot.current.toList

namespace Untouched

variable {early late : FrameStamp} {slot slot' : Slot}

theorem afterAll {calls : List StoreCall} (h : Untouched early late slot slot')
    (hearly : early.IsNewAmong (StoreCall.frames calls))
    (hlate : late.IsNewAmong (StoreCall.frames calls)) :
    Untouched early late (slot.afterAll calls) (slot'.afterAll calls) where
  same := Slot.current_afterAll_congr h.same calls
  early := Slot.isNewAmong_afterAll h.early hearly
  late := Slot.isNewAmong_afterAll h.late hlate

theorem offer_restamp {frame : Frame} (h : Untouched early late slot slot')
    (hstamp : frame.stamp = early) : slot'.offer (frame.restamp late) = slot.offer frame := by
  rw [Slot.offer_congr h.same]
  cases hcurrent : slot.current with
  | none => simp only [Slot.offer, hcurrent]
  | some current =>
      have hid : ¬ current.stamp.id = frame.stamp.id := by
        rw [hstamp]
        exact h.early current (by simp [hcurrent])
      have hid' : ¬ current.stamp.id = (frame.restamp late).stamp.id :=
        h.late current (by simp [hcurrent])
      simp only [Slot.offer, hcurrent, if_neg hid, if_neg hid']
      rfl

theorem after_publish {frame : Frame} (h : Untouched early late slot slot')
    (hstamp : frame.stamp = early) :
    Mirrors early late (slot.after (.publish frame)).current
      (slot'.after (.publish (frame.restamp late))).current := by
  simp only [Slot.after, h.offer_restamp hstamp]
  cases slot.offer frame with
  | accepted superseded => exact .own hstamp
  | unchanged | stale => exact .of_eq h.same

end Untouched

/-- Two runs of an update are in the same phase, with frames that differ in their stamps only. -/
inductive Lockstep (early late : FrameStamp) (slot slot' : Slot) : Phase → Phase → Prop where
  | built {frame : Frame} : frame.stamp = early → Untouched early late slot slot' →
      Lockstep early late slot slot' (.built frame) (.built (frame.restamp late))
  | publishing {frame : Frame} : frame.stamp = early → Untouched early late slot slot' →
      Lockstep early late slot slot' (.publishing frame) (.publishing (frame.restamp late))
  | failing {error : UpdateError} : error.isStale = false → Untouched early late slot slot' →
      Lockstep early late slot slot' (.failing error) (.failing error)
  | finished {result : Except UpdateError PublishOutcome} {event event' : Option Event} :
      Mirrors early late slot.current slot'.current →
      Lockstep early late slot slot' (.finished result event) (.finished result event')

theorem Ends.result_eq {layer : LayerId} {slot slot' : Slot} {frame frame' : Frame}
    {result result' : Except UpdateError PublishOutcome} {event event' : Event}
    (h : Ends layer slot (.publish frame) result event)
    (h' : Ends layer slot' (.publish frame') result' event')
    (hoffer : slot'.offer frame' = slot.offer frame) (htime : frame'.validTime = frame.validTime) :
    result' = result := by
  cases h <;> cases h' <;> simp_all

namespace Lockstep

variable (scheduler : Scheduler) {layer : LayerId} {early late : FrameStamp} {slot slot' : Slot}
  {phase phase' : Phase} {store store' : FrameStore}

theorem afterAll {calls : List StoreCall} (h : Lockstep early late slot slot' phase phase')
    (hearly : early.IsNewAmong (StoreCall.frames calls))
    (hlate : late.IsNewAmong (StoreCall.frames calls)) :
    Lockstep early late (slot.afterAll calls) (slot'.afterAll calls) phase phase' := by
  cases h with
  | built hstamp hslots => exact .built hstamp (hslots.afterAll hearly hlate)
  | publishing hstamp hslots => exact .publishing hstamp (hslots.afterAll hearly hlate)
  | failing herror hslots => exact .failing herror (hslots.afterAll hearly hlate)
  | finished hcurrent => exact .finished (hcurrent.afterAll hearly hlate)

theorem mirrors (h : Lockstep early late slot slot' phase phase') :
    Mirrors early late slot.current slot'.current := by
  cases h with
  | finished hcurrent => exact hcurrent
  | built _ hslots | publishing _ hslots | failing _ hslots => exact .of_eq hslots.same

theorem finished_iff (h : Lockstep early late slot slot' phase phase')
    (result : Except UpdateError PublishOutcome) :
    (∃ event, phase = .finished result event) ↔ ∃ event, phase' = .finished result event := by
  cases h <;> simp

theorem turn {turn : Turn} (h : Lockstep early late slot slot' phase phase')
    (hslot : (store.calls turn.others).get? layer = some slot)
    (hslot' : (store'.calls turn.others).get? layer = some slot') :
    ∃ next next', (scheduler.turn layer turn (phase, store)).2.get? layer = some next ∧
      (scheduler.turn layer turn (phase', store')).2.get? layer = some next' ∧
      Lockstep early late next next' (scheduler.turn layer turn (phase, store)).1
        (scheduler.turn layer turn (phase', store')).1 := by
  refine ⟨_, _, scheduler.slot_turn layer phase hslot, scheduler.slot_turn layer phase' hslot', ?_⟩
  cases h with
  | finished hcurrent =>
      rw [scheduler.turn_finished, scheduler.turn_finished]
      exact .finished hcurrent
  | built hstamp hslots =>
      rw [scheduler.turn_built layer _ hslot, scheduler.turn_built layer _ hslot']
      exact .publishing hstamp ⟨hslots.same, hslots.early, hslots.late⟩
  | failing herror hslots =>
      rw [scheduler.turn_failing layer herror hslot, scheduler.turn_failing layer herror hslot']
      exact .finished (.of_eq hslots.same)
  | publishing hstamp hslots =>
      obtain ⟨result, event, hend, hends⟩ := scheduler.turn_publishing layer _ hslot
      obtain ⟨result', event', hend', hends'⟩ := scheduler.turn_publishing layer _ hslot'
      obtain rfl := hends.result_eq hends' (hslots.offer_restamp hstamp) rfl
      rw [hend, hend']
      exact .finished (hslots.after_publish hstamp)

theorem turns {turns : List Turn} (h : Lockstep early late slot slot' phase phase')
    (hslot : store.get? layer = some slot) (hslot' : store'.get? layer = some slot')
    (hearly : early.IsNewAmong (FrameStore.submitted layer (turns.flatMap (·.others))))
    (hlate : late.IsNewAmong (FrameStore.submitted layer (turns.flatMap (·.others)))) :
    ∃ last last', (scheduler.turns layer turns (phase, store)).2.get? layer = some last ∧
      (scheduler.turns layer turns (phase', store')).2.get? layer = some last' ∧
      Lockstep early late last last' (scheduler.turns layer turns (phase, store)).1
        (scheduler.turns layer turns (phase', store')).1 := by
  induction turns generalizing phase phase' store store' slot slot' with
  | nil => exact ⟨slot, slot', hslot, hslot', h⟩
  | cons turn turns ih =>
      rw [List.flatMap_cons, FrameStore.submitted_append] at hearly hlate
      have hothers := h.afterAll hearly.left hlate.left
      obtain ⟨next, next', hnext, hnext', hlockstep⟩ :=
        hothers.turn scheduler (FrameStore.get?_calls_of_slot hslot turn.others)
          (FrameStore.get?_calls_of_slot hslot' turn.others)
      exact ih hlockstep hnext hnext' hearly.right hlate.right

end Lockstep

/-! ## A run that publishes nothing -/

/-- A frame stays behind the current one of a layer, and an update that offers it ends with one of
some faults. -/
structure Overtakes (layer : LayerId) (stamp : FrameStamp) (faults : UpdateError → Prop)
    (current frame : Frame) : Prop where
  stamp_eq : frame.stamp = stamp
  id_ne : current.stamp.id ≠ stamp.id
  le : frame.validTime ≤ current.validTime
  faults : ∀ later, current.validTime ≤ later → faults (.stale layer frame.validTime later)

/-- An update is going to end with one of some faults, and not to touch the display. -/
inductive Hopeless (layer : LayerId) (stamp : FrameStamp) (faults : UpdateError → Prop)
    (slot : Slot) : Phase → Prop where
  | late {candidate current : Instant} : faults (.stale layer candidate current) →
      Hopeless layer stamp faults slot (.late candidate current)
  | failing {error : UpdateError} : error.isStale = false → faults error →
      Hopeless layer stamp faults slot (.failing error)
  | built {frame current : Frame} : slot.current = some current →
      Overtakes layer stamp faults current frame → Hopeless layer stamp faults slot (.built frame)
  | publishing {frame current : Frame} : slot.current = some current →
      Overtakes layer stamp faults current frame →
      Hopeless layer stamp faults slot (.publishing frame)
  | finished {error : UpdateError} {event : Option Event} : faults error →
      Hopeless layer stamp faults slot (.finished (.error error) event)

namespace Overtakes

variable {layer : LayerId} {stamp : FrameStamp} {faults : UpdateError → Prop} {slot : Slot}
  {current frame : Frame}

theorem offer (h : Overtakes layer stamp faults current frame)
    (hcurrent : slot.current = some current) : slot.offer frame = .stale current.validTime := by
  have hid : ¬ current.stamp.id = frame.stamp.id := h.stamp_eq ▸ h.id_ne
  have hnewer : ¬ frame.isNewerThan current = true :=
    fun hnewer => Int.not_lt.2 h.le (of_decide_eq_true hnewer)
  simp only [Slot.offer, hcurrent, if_neg hid, if_neg hnewer]

theorem after {call : StoreCall} (h : Overtakes layer stamp faults current frame)
    (hcurrent : slot.current = some current) (hcall : stamp.IsNewAmong call.frame?.toList) :
    ∃ next, (slot.after call).current = some next ∧ Overtakes layer stamp faults next frame := by
  rcases slot.current_after call with hsame | ⟨next, rfl, hnext, hnewer⟩
  · exact ⟨current, hsame.trans hcurrent, h⟩
  · have hlt := hnewer current hcurrent
    have hle : current.validTime ≤ next.validTime := Int.le_of_lt hlt
    refine ⟨next, hnext, h.stamp_eq, hcall next (by simp [StoreCall.frame?]),
      Int.le_trans h.le hle, ?_⟩
    exact fun later hlater => h.faults later (Int.le_trans hle hlater)

theorem afterAll {calls : List StoreCall} (h : Overtakes layer stamp faults current frame)
    (hcurrent : slot.current = some current)
    (hcalls : stamp.IsNewAmong (StoreCall.frames calls)) :
    ∃ next, (slot.afterAll calls).current = some next ∧
      Overtakes layer stamp faults next frame := by
  induction calls generalizing slot current with
  | nil => exact ⟨current, hcurrent, h⟩
  | cons call calls ih =>
      rw [StoreCall.frames_cons] at hcalls
      obtain ⟨next, hnext, hovertakes⟩ := h.after hcurrent hcalls.left
      exact ih hovertakes hnext hcalls.right

end Overtakes

namespace Hopeless

variable (scheduler : Scheduler) {layer : LayerId} {stamp : FrameStamp}
  {faults : UpdateError → Prop} {slot : Slot} {phase : Phase} {store : FrameStore}

theorem afterAll {calls : List StoreCall} (h : Hopeless layer stamp faults slot phase)
    (hcalls : stamp.IsNewAmong (StoreCall.frames calls)) :
    Hopeless layer stamp faults (slot.afterAll calls) phase := by
  cases h with
  | late hfault => exact .late hfault
  | failing herror hfault => exact .failing herror hfault
  | finished hfault => exact .finished hfault
  | built hcurrent hframe =>
      obtain ⟨next, hnext, hovertakes⟩ := hframe.afterAll hcurrent hcalls
      exact .built hnext hovertakes
  | publishing hcurrent hframe =>
      obtain ⟨next, hnext, hovertakes⟩ := hframe.afterAll hcurrent hcalls
      exact .publishing hnext hovertakes

theorem turn {turn : Turn} (h : Hopeless layer stamp faults slot phase)
    (hslot : (store.calls turn.others).get? layer = some slot) :
    ∃ next, (scheduler.turn layer turn (phase, store)).2.get? layer = some next ∧
      next.current = slot.current ∧
      Hopeless layer stamp faults next (scheduler.turn layer turn (phase, store)).1 := by
  refine ⟨_, scheduler.slot_turn layer phase hslot, ?_⟩
  cases h with
  | finished hfault =>
      rw [scheduler.turn_finished]
      exact ⟨rfl, .finished hfault⟩
  | late hfault =>
      rw [scheduler.turn_late layer _ _ hslot]
      exact ⟨rfl, .finished hfault⟩
  | failing herror hfault =>
      rw [scheduler.turn_failing layer herror hslot]
      exact ⟨rfl, .finished hfault⟩
  | built hcurrent hframe =>
      rw [scheduler.turn_built layer _ hslot]
      exact ⟨rfl, .publishing hcurrent hframe⟩
  | publishing hcurrent hframe =>
      rename_i frame current
      have hoffer := hframe.offer hcurrent
      obtain ⟨result, event, hend, hends⟩ := scheduler.turn_publishing layer frame hslot
      rw [hend]
      have hresult : result = .error (.stale layer frame.validTime current.validTime) := by
        cases hends <;> simp_all
      refine ⟨?_, ?_⟩
      · simp only [Phase.call?, Option.toList_some, Slot.afterAll_cons, Slot.afterAll_nil,
          Slot.after, hoffer]
        rfl
      · rw [hresult]
        exact .finished (hframe.faults _ (Int.le_refl _))

/-- In the end the display is as the calls of others alone make it. -/
theorem turns {turns : List Turn} (h : Hopeless layer stamp faults slot phase)
    (hslot : store.get? layer = some slot)
    (hnew : stamp.IsNewAmong (FrameStore.submitted layer (turns.flatMap (·.others)))) :
    ∃ last, (scheduler.turns layer turns (phase, store)).2.get? layer = some last ∧
      last.current =
        (slot.afterAll (FrameStore.callsOf layer (turns.flatMap (·.others)))).current ∧
      Hopeless layer stamp faults last (scheduler.turns layer turns (phase, store)).1 := by
  induction turns generalizing phase store slot with
  | nil => exact ⟨slot, hslot, rfl, h⟩
  | cons turn turns ih =>
      rw [List.flatMap_cons, FrameStore.submitted_append] at hnew
      have hothers := h.afterAll hnew.left
      obtain ⟨next, hnext, hcurrent, hhopeless⟩ :=
        hothers.turn scheduler (FrameStore.get?_calls_of_slot hslot turn.others)
      obtain ⟨last, hlast, hend, hrest⟩ := ih hhopeless hnext hnew.right
      refine ⟨last, hlast, ?_, hrest⟩
      rw [hend, Slot.current_afterAll_congr hcurrent, List.flatMap_cons,
        FrameStore.callsOf_append, Slot.afterAll_append]

theorem isFrameless (h : Hopeless layer stamp faults slot phase) : phase.IsFrameless := by
  intro outcome event hphase
  rw [hphase] at h
  cases h

theorem ends {turns : List Turn} (h : Hopeless layer stamp faults slot phase)
    (hphase : phase.isActive = true) (hturns : phase.stepsLeft ≤ turns.length)
    (hslot : store.get? layer = some slot)
    (hnew : stamp.IsNewAmong (FrameStore.submitted layer (turns.flatMap (·.others)))) :
    ∃ error event, (scheduler.turns layer turns (phase, store)).1 =
      .finished (.error error) event ∧ faults error := by
  obtain ⟨last, -, -, hlast⟩ := h.turns scheduler hslot hnew
  obtain ⟨result, event, -, -, -, -, hend, -⟩ :=
    scheduler.turns_settle layer turns hslot hphase hturns
  rw [hend] at hlast ⊢
  cases hlast with
  | finished hfault => exact ⟨_, _, rfl, hfault⟩

end Hopeless

end WeatherRadar.Pipeline
