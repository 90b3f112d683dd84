import WeatherRadar.Proofs.Pipeline.Turns
/-!
# Every update settles once

Whatever other updates do in between, an update begins once, ends once and emits one event that
tells of its end.  It leaves the number of updates under way as it was, and the display of its layer
too unless a frame is published (`update_settles_once`).
-/

namespace WeatherRadar.Pipeline

open WeatherRadar.Geo WeatherRadar.Level3 WeatherRadar.Render

/-! ## What an update does to its layer -/

def lastErrorAfter (result : Except UpdateError PublishOutcome) (before : Option UpdateError) :
    Option UpdateError :=
  match result with
  | .ok (.published _) => none
  | .ok .unchanged => before
  | .error error => if error.isStale then before else some error

/-- An event tells of the end of an update of a layer: of the same kind as the result, and with
the same facts. -/
def Event.Tells (layer : LayerId) (event : Event) (result : Except UpdateError PublishOutcome) :
    Prop :=
  match event, result with
  | .published named _ _ superseded, .ok (.published replaced) =>
    named = layer ∧ superseded = replaced
  | .unchanged named _, .ok .unchanged => named = layer
  | .stale named candidate current, .error error =>
    named = layer ∧ error = .stale layer candidate current
  | .failed named told, .error error => named = layer ∧ told = error ∧ error.isStale = false
  | _, _ => False

/-- What a call of an update with a result changes in the slot of its layer. -/
structure Effect (result : Except UpdateError PublishOutcome) (call : StoreCall)
    (before after : Slot) : Prop where
  /-- The call that begins the update adds one to the updates under way, and the one that ends it
  takes one away. -/
  inFlight : after.status.inFlight =
    if call.isFinishing then before.status.inFlight - 1
    else if call.isBeginning then before.status.inFlight + 1
    else before.status.inFlight
  /-- Only the call that ends the update touches the last error. -/
  lastError : after.status.lastError =
    if call.isFinishing then lastErrorAfter result before.status.lastError
    else before.status.lastError
  /-- Unless a frame is published, the display stays as it is. -/
  kept : (∀ superseded, result ≠ .ok (.published superseded)) →
    after.current = before.current ∧ after.generation = before.generation ∧
      after.status.publishedCount = before.status.publishedCount

/-- The calls of an update that has a result and emits an event, each with the store that it
finds. -/
structure Settles (layer : LayerId) (result : Except UpdateError PublishOutcome) (event : Event)
    (calls : List (FrameStore × StoreCall)) : Prop where
  /-- The update begins once and ends once, and only notes a built frame in between. -/
  once : ∃ first marks last, calls = first :: marks ++ [last] ∧ first.2 = .beginUpdate ∧
    (∀ entry ∈ marks, entry.2 = .markBuilt) ∧ last.2.isFinishing = true
  effects : ∀ entry ∈ calls, ∃ before after, entry.1.get? layer = some before ∧
    (entry.1.call layer entry.2).2.get? layer = some after ∧ Effect result entry.2 before after
  tells : event.Tells layer result

namespace Ends

variable {layer : LayerId} {slot : Slot} {call : StoreCall}
  {result : Except UpdateError PublishOutcome} {event : Event}

theorem tells (h : Ends layer slot call result event) : event.Tells layer result := by
  cases h with
  | published _ => exact ⟨rfl, rfl⟩
  | unchanged _ => exact rfl
  | overtaken _ => exact ⟨rfl, rfl⟩
  | late => exact ⟨rfl, rfl⟩
  | failed herror => exact ⟨rfl, rfl, herror⟩

theorem effect (h : Ends layer slot call result event) :
    Effect result call slot (slot.after call) where
  inFlight := slot.inFlight_after call
  lastError := by
    rw [if_pos h.isFinishing]
    cases h with
    | published hoffer => simp [Slot.after, Slot.afterOffer, hoffer, Slot.accept, lastErrorAfter]
    | unchanged hoffer => simp [Slot.after, Slot.afterOffer, hoffer, Slot.settle, lastErrorAfter]
    | overtaken hoffer =>
        simp [Slot.after, Slot.afterOffer, hoffer, Slot.settle, lastErrorAfter, UpdateError.isStale]
    | late => simp [Slot.after, Slot.settle, lastErrorAfter, UpdateError.isStale]
    | failed herror => simp [Slot.after, Slot.fail, lastErrorAfter, herror]
  kept hresult := by
    cases h with
    | published hoffer => exact absurd rfl (hresult _)
    | unchanged hoffer => simp [Slot.after, Slot.afterOffer, hoffer, Slot.settle]
    | overtaken hoffer => simp [Slot.after, Slot.afterOffer, hoffer, Slot.settle]
    | late => simp [Slot.after, Slot.settle]
    | failed herror => simp [Slot.after, Slot.fail, Slot.settle]

end Ends

theorem effect_beginUpdate (result : Except UpdateError PublishOutcome) (slot : Slot) :
    Effect result .beginUpdate slot (slot.after .beginUpdate) :=
  ⟨rfl, rfl, fun _ => ⟨rfl, rfl, rfl⟩⟩

theorem effect_markBuilt (result : Except UpdateError PublishOutcome) (slot : Slot) :
    Effect result .markBuilt slot (slot.after .markBuilt) :=
  ⟨rfl, rfl, fun _ => ⟨rfl, rfl, rfl⟩⟩

namespace Scheduler

variable (scheduler : Scheduler) (layer : LayerId)

theorem isActive_start {store : FrameStore} {slot : Slot} (hslot : store.get? layer = some slot)
    (response : Response) :
    ((scheduler.start store layer).1.receive response).isActive = true := by
  simp only [start, FrameStore.beginUpdate, FrameStore.update_of_slot hslot]
  cases scheduler.sites.lookup layer.site with
  | error error => rfl
  | ok site => exact Phase.isActive_receive_fetching site response

theorem start_of_not_contains {store : FrameStore} (hslot : store.get? layer = none) :
    scheduler.start store layer = (.finished (.error (.unknownLayer layer)) none, store) := by
  simp only [start, FrameStore.beginUpdate, FrameStore.update_of_not_contains hslot]

/-- Beginning an update is a call like any other, whether the layer is configured or not. -/
theorem store_start (store : FrameStore) :
    (scheduler.start store layer).2 = (store.call layer .beginUpdate).2 := by
  cases hslot : store.get? layer with
  | none => rw [start_of_not_contains scheduler layer hslot, FrameStore.call_of_not_contains hslot]
  | some slot =>
      simp only [start, FrameStore.call, FrameStore.beginUpdate,
        FrameStore.update_of_slot hslot, FrameStore.call.changed]
      cases scheduler.sites.lookup layer.site <;> rfl

theorem slot_start {store : FrameStore} {slot : Slot} (hslot : store.get? layer = some slot) :
    (scheduler.start store layer).2.get? layer = some (slot.after .beginUpdate) := by
  rw [store_start, (FrameStore.call_of_slot hslot _).2, if_pos rfl]

theorem finish_eq_turns (stamp : FrameStamp) {phase : Phase} {store : FrameStore}
    {result : Except UpdateError PublishOutcome} {event : Option Event}
    (hend : (scheduler.turns layer (List.replicate phase.stepsLeft ⟨[], stamp, false⟩)
      (phase, store)).1 = .finished result event) :
    scheduler.finish layer stamp phase store =
      scheduler.turns layer (List.replicate 4 ⟨[], stamp, false⟩) (phase, store) := by
  have hsteps : 4 = phase.stepsLeft + (4 - phase.stepsLeft) := by
    have hle := phase.stepsLeft_le
    omega
  rw [finish, run_eq_turns, hsteps, ← List.replicate_append_replicate, turns_append]
  generalize scheduler.turns layer (List.replicate phase.stepsLeft ⟨[], stamp, false⟩)
    (phase, store) = state at hend ⊢
  obtain ⟨phase', store'⟩ := state
  dsimp only at hend
  rw [hend, (scheduler.turns_finished layer _ result event store').1]
  have hnone : (List.replicate (4 - phase.stepsLeft) (⟨[], stamp, false⟩ : Turn)).flatMap
      (·.others) = [] := by
    simp
  rw [hnone, FrameStore.calls_nil]

/-- A whole update is one among others that make no calls. -/
theorem update_eq_updateAmid (store : FrameStore) (response : Response) (stamp : FrameStamp) :
    scheduler.update store layer response stamp =
      scheduler.updateAmid layer store response (List.replicate 4 ⟨[], stamp, false⟩) := by
  cases hslot : store.get? layer with
  | none =>
      simp only [update, updateAmid, scheduler.start_of_not_contains layer hslot]
      exact scheduler.finish_eq_turns layer stamp rfl
  | some slot =>
      have hactive := scheduler.isActive_start layer hslot response
      have hbegun := scheduler.slot_start layer hslot
      obtain ⟨result, event, -, -, -, -, hend, -⟩ := scheduler.turns_settle layer
        (List.replicate ((scheduler.start store layer).1.receive response).stepsLeft
          ⟨[], stamp, false⟩) hbegun hactive (by simp)
      exact scheduler.finish_eq_turns layer stamp hend

/-- What an update does in turns with others, from its beginning to its end. -/
structure SettlesOnce (store : FrameStore) (response : Response) (turns : List Turn) : Prop where
  /-- The store changes by the calls of others and of the update, and in no other way. -/
  store_eq : (scheduler.updateAmid layer store response turns).2 =
    store.calls (scheduler.updateCourse layer store response turns)
  /-- An update of a configured layer returns a result, emits one event that tells of it, and
  begins and ends once. -/
  settles : store.contains layer = true → ∃ result event,
    (scheduler.updateAmid layer store response turns).1 = .finished result (some event) ∧
      Settles layer result event (scheduler.updateCalls layer store response turns)
  /-- It leaves the number of updates under way as the others make it. -/
  inFlight : ∀ slot count, store.get? layer = some slot → slot.status.inFlight = count →
    StoreCall.Balanced count (FrameStore.callsOf layer (turns.flatMap (·.others))) →
    ∃ slot', (scheduler.updateAmid layer store response turns).2.get? layer = some slot' ∧
      slot'.status.inFlight =
        count + StoreCall.begun (FrameStore.callsOf layer (turns.flatMap (·.others))) -
          StoreCall.ended (FrameStore.callsOf layer (turns.flatMap (·.others)))
  /-- An update of a layer that is not configured says so, emits nothing and changes nothing. -/
  unknown : store.contains layer = false →
    scheduler.updateAmid layer store response turns =
      (.finished (.error (.unknownLayer layer)) none, store.calls (turns.flatMap (·.others)))

theorem updateAmid_store_eq (store : FrameStore) (response : Response) (turns : List Turn) :
    (scheduler.updateAmid layer store response turns).2 =
      store.calls (scheduler.updateCourse layer store response turns) := by
  simp only [updateAmid, updateCourse, FrameStore.calls_cons]
  rw [store_turns, store_start]

theorem updateAmid_settles {store : FrameStore} {slot : Slot} (hslot : store.get? layer = some slot)
    (response : Response) {turns : List Turn} (hturns : 4 ≤ turns.length) :
    ∃ result event,
      (scheduler.updateAmid layer store response turns).1 = .finished result (some event) ∧
        Settles layer result event (scheduler.updateCalls layer store response turns) := by
  have hactive := scheduler.isActive_start layer hslot response
  have hbegun := scheduler.slot_start layer hslot
  obtain ⟨result, event, marks, found, last, lastSlot, hend, hcalls, hmarks, hfound, hends⟩ :=
    scheduler.turns_settle layer turns hbegun hactive
      (Nat.le_trans (Phase.stepsLeft_le _) hturns)
  refine ⟨result, event, hend, ?_⟩
  have hall : scheduler.updateCalls layer store response turns =
      (store, .beginUpdate) :: marks ++ [(found, last)] := by
    simp only [updateCalls, hcalls, List.cons_append]
  have heffect : ∀ {found : FrameStore} {call : StoreCall} {before : Slot},
      found.get? layer = some before → Effect result call before (before.after call) →
      ∃ before after, found.get? layer = some before ∧
        (found.call layer call).2.get? layer = some after ∧ Effect result call before after := by
    intro found call before hbefore heffect
    refine ⟨before, _, hbefore, ?_, heffect⟩
    rw [(FrameStore.call_of_slot hbefore call).2, if_pos rfl]
  constructor
  · exact ⟨_, marks, _, hall, rfl, fun entry hentry => (hmarks entry hentry).1, hends.isFinishing⟩
  · intro entry hentry
    rw [hall, List.mem_append, List.mem_cons, List.mem_singleton] at hentry
    rcases hentry with (rfl | hmark) | rfl
    · exact heffect hslot (effect_beginUpdate result slot)
    · obtain ⟨hcall, before, hbefore⟩ := hmarks entry hmark
      rw [hcall]
      exact heffect hbefore (effect_markBuilt result before)
    · exact heffect hfound hends.effect
  · exact hends.tells

/-- An update ends once and takes back what it added, however its steps fall between those of
others. -/
theorem update_settles_once (store : FrameStore) (response : Response) {turns : List Turn}
    (hturns : 4 ≤ turns.length) :
    (∀ stamp, scheduler.update store layer response stamp =
        scheduler.updateAmid layer store response (List.replicate 4 ⟨[], stamp, false⟩)) ∧
      scheduler.SettlesOnce layer store response turns := by
  refine ⟨scheduler.update_eq_updateAmid layer store response, ?_⟩
  constructor
  · exact scheduler.updateAmid_store_eq layer store response turns
  · intro hcontains
    obtain ⟨slot, hslot⟩ := (store.contains_iff layer).1 hcontains
    exact scheduler.updateAmid_settles layer hslot response hturns
  · intro slot count hslot hcount hothers
    have hactive := scheduler.isActive_start layer hslot response
    have hadded : (slot.after .beginUpdate).status.inFlight = count + 1 := by
      rw [← hcount]
      rfl
    obtain ⟨slot', hslot', hinFlight⟩ := scheduler.turns_inFlight layer turns
      (scheduler.slot_start layer hslot) hactive hadded hothers
    obtain ⟨result, event, hend, -⟩ := scheduler.updateAmid_settles layer hslot response hturns
    simp only [updateAmid] at hend
    refine ⟨slot', hslot', ?_⟩
    rw [hinFlight, hend]
    rfl
  · intro hcontains
    have hslot : store.get? layer = none := by
      simpa [FrameStore.contains] using hcontains
    simp only [updateAmid, scheduler.start_of_not_contains layer hslot]
    exact (scheduler.turns_finished layer turns _ _ store).1

/-- An update of a site that the catalog lacks, while another update of the layer begins and
fails. -/
theorem update_settles_once_unknown_site :
    let scheduler : Scheduler := ⟨.empty, .empty, {}, 60, 2⟩
    let layer : LayerId := ⟨"KTLX", 94⟩
    let store := FrameStore.ofLayers [layer]
    let turns : List Turn := [⟨[(layer, .beginUpdate)], ⟨1, ⟨60⟩⟩, false⟩,
      ⟨[(layer, .recordFailure .workerGone ⟨61⟩)], ⟨2, ⟨61⟩⟩, false⟩, ⟨[], ⟨3, ⟨62⟩⟩, true⟩,
      ⟨[], ⟨4, ⟨63⟩⟩, false⟩]
    4 ≤ turns.length ∧ store.contains layer = true ∧
      scheduler.SettlesOnce layer store (.ok []) turns := by
  intro scheduler layer store turns
  have hturns : 4 ≤ turns.length := by decide
  have hcontains : store.contains layer = true := by decide
  exact ⟨hturns, hcontains, (scheduler.update_settles_once layer store (.ok []) hturns).2⟩

end Scheduler

end WeatherRadar.Pipeline
