import WeatherRadar.Pipeline.Replay
import WeatherRadar.Proofs.Pipeline.LayersApart
/-!
# Replays are rounds

A replay updates its layers one after another.  This is one of the orders in which a round can go,
and the answers that its updates take are the fates of their layers (`updateAll_isRound`).
-/

namespace WeatherRadar.Pipeline

open WeatherRadar.Render

namespace Scheduler

variable {scheduler : Scheduler} {layer : LayerId} {store : FrameStore} {slot : Slot}

/-! ## A whole update as steps of a round -/

/-- As long as an update alone has not ended, the frame of its layer stays. -/
theorem aloneFor_cases (hslot : store.get? layer = some slot) (fate : Fate) (stamp : FrameStamp)
    (count : Nat) :
    (∃ result event, (scheduler.aloneFor layer store fate stamp count).1 = .finished result event) ∨
      (scheduler.aloneFor layer store fate stamp count).1.isActive = true ∧
        ∃ found, (scheduler.aloneFor layer store fate stamp count).2.get? layer = some found ∧
          found.current = slot.current := by
  induction count with
  | zero =>
      exact .inr ⟨scheduler.isActive_start layer hslot fate.response, _,
        scheduler.slot_start layer hslot, rfl⟩
  | succ count ih =>
      rw [aloneFor_succ]
      generalize scheduler.aloneFor layer store fate stamp count = state at ih ⊢
      obtain ⟨phase, store'⟩ := state
      rcases ih with ⟨result, event, hend⟩ | ⟨hactive, found, hfound, hcurrent⟩
      · obtain rfl : phase = .finished result event := hend
        exact .inl ⟨result, event, by rw [turn_finished]⟩
      · have hslot' : (store'.calls (fate.turn stamp).others).get? layer = some found := hfound
        rcases (scheduler.next_turn layer hactive hslot').progress with
          ⟨hstill, -, hmark⟩ | ⟨-, result, event, hend, -⟩
        · refine .inr ⟨hstill, _, scheduler.slot_turn layer phase hslot', ?_⟩
          cases hcall : phase.call? (fate.turn stamp).stamp with
          | none => exact hcurrent
          | some call =>
              rw [hmark call hcall]
              exact hcurrent
        · exact .inl ⟨result, some event, hend⟩

variable {fates : LayerId → Fate} {first : Round} {count : Nat} {queue : List LayerId}
  {ended : List Ending}

theorem Run.received {phase : Phase}
    (hrun : scheduler.Run fates first count ⟨store, queue, [(layer, phase)], ended⟩) :
    ∃ more, scheduler.Run fates first more
      ⟨store, queue, [(layer, phase.receive (fates layer).response)], ended⟩ := by
  cases phase with
  | fetching site => exact ⟨_, hrun.step (.answered [] [])⟩
  | _ => exact ⟨_, hrun⟩

theorem Run.aloneFor {stamp : FrameStamp} (hslot : store.get? layer = some slot)
    (hstamp : stamp.IsNewAmong slot.current.toList)
    (hrun : scheduler.Run fates first count ⟨(scheduler.start store layer).2, queue,
      [(layer, (scheduler.start store layer).1)], ended⟩) (turns : Nat) :
    ∃ more, scheduler.Run fates first more
      ⟨(scheduler.aloneFor layer store (fates layer) stamp turns).2, queue,
        [(layer, (scheduler.aloneFor layer store (fates layer) stamp turns).1)], ended⟩ := by
  induction turns with
  | zero => exact hrun.received
  | succ turns ih =>
      obtain ⟨more, hmore⟩ := ih
      rcases scheduler.aloneFor_cases hslot (fates layer) stamp turns with
        ⟨result, event, hend⟩ | ⟨hactive, found, hfound, hcurrent⟩
      · -- The update has ended, so its further turns alone are no steps of the round.
        rw [scheduler.aloneFor_add_of_finished layer hend 1]
        exact ⟨more, hmore⟩
      · rw [aloneFor_succ]
        refine ⟨more + 1, hmore.step (.turns [] [] hactive ?_)⟩
        rw [FrameStore.currentFrame?_of_slot hfound, hcurrent]
        exact hstamp

/-- A round may take the steps of one update without any in between. -/
theorem Run.alone {stamp : FrameStamp} (hworkers : 0 < scheduler.workers)
    (hslot : store.get? layer = some slot) (hstamp : stamp.IsNewAmong slot.current.toList)
    (hrun : scheduler.Run fates first count ⟨store, layer :: queue, [], ended⟩) :
    ∃ more result event,
      (scheduler.alone layer store (fates layer) stamp).1 = .finished result (some event) ∧
      scheduler.Run fates first more ⟨(scheduler.alone layer store (fates layer) stamp).2, queue,
        [], ended ++ [⟨layer, result, some event⟩]⟩ := by
  obtain ⟨result, event, hend⟩ := scheduler.alone_ends layer hslot (fates layer) stamp
  obtain ⟨more, hmore⟩ := (hrun.step (.begins hworkers)).aloneFor hslot hstamp 4
  change scheduler.Run fates first more ⟨(scheduler.alone layer store (fates layer) stamp).2, queue,
    [(layer, (scheduler.alone layer store (fates layer) stamp).1)], ended⟩ at hmore
  rw [hend] at hmore
  exact ⟨more + 1, result, event, hend, hmore.step (.ends [] [])⟩

theorem get?_alone_of_ne (scheduler : Scheduler) {other : LayerId} (hother : other ≠ layer)
    (store : FrameStore) (fate : Fate) (stamp : FrameStamp) :
    (scheduler.alone layer store fate stamp).2.get? other = store.get? other := by
  have hturns : ∀ count,
      (scheduler.aloneFor layer store fate stamp count).2.get? other = store.get? other := by
    intro count
    induction count with
    | zero => exact scheduler.get?_start_of_ne hother store
    | succ count ih =>
        rw [aloneFor_succ, ← ih]
        exact scheduler.get?_turn_of_ne hother fate stamp _ _
  exact hturns 4

end Scheduler

/-! ## The layers of a store -/

namespace FrameStore

variable {store : FrameStore} {layer : LayerId}

theorem perm_layers (store : FrameStore) : store.layers.Perm (store.slots.map Prod.fst) :=
  List.mergeSort_perm _ _

theorem nodup_layers (store : FrameStore) : store.layers.Nodup :=
  store.perm_layers.nodup_iff.2 store.layers_nodup

theorem contains_of_mem_layers (hlayer : layer ∈ store.layers) : store.contains layer = true := by
  obtain ⟨entry, hentry, hkey⟩ := List.mem_map.1 (store.perm_layers.mem_iff.1 hlayer)
  rw [contains, get?, Option.isSome_map, List.find?_isSome]
  exact ⟨entry, hentry, decide_eq_true hkey⟩

end FrameStore

/-! ## The updates of a replay -/

namespace Replay

variable (scheduler : Scheduler) (replay : Replay) (layer : LayerId)

/-- A replay begins an update and gives it the next answer for its site, if it asks for one. -/
theorem start_eq :
    (replay.start scheduler layer).1 =
        (scheduler.begun layer replay.store (replay.take layer).1).1 ∧
      (replay.start scheduler layer).2.store =
        (scheduler.begun layer replay.store (replay.take layer).1).2 ∧
      (replay.start scheduler layer).2.events = replay.events ∧
      (replay.start scheduler layer).2.ended = replay.ended := by
  simp only [start, Scheduler.begun]
  generalize scheduler.start replay.store layer = begun
  obtain ⟨phase, store⟩ := begun
  cases phase with
  | fetching site =>
      simp only [Phase.isFetching, if_true, take]
      cases replay.responses.lookup layer.site <;> exact ⟨rfl, rfl, rfl, rfl⟩
  | _ => exact ⟨rfl, rfl, rfl, rfl⟩

/-- An update of a replay goes as the update alone. -/
theorem update_eq {slot : Slot} (hslot : replay.store.get? layer = some slot) :
    ∃ result event,
      (scheduler.alone layer replay.store ⟨(replay.take layer).1, false⟩ ⟨replay.ended, ⟨0⟩⟩).1 =
        .finished result (some event) ∧
      (replay.update scheduler layer).1 = some result ∧
      (replay.update scheduler layer).2.store = (scheduler.alone layer replay.store
        ⟨(replay.take layer).1, false⟩ ⟨replay.ended, ⟨0⟩⟩).2 ∧
      (replay.update scheduler layer).2.events = replay.events ++ [event] ∧
      (replay.update scheduler layer).2.ended = replay.ended + 1 := by
  obtain ⟨hphase, hstore, hevents, hended⟩ := replay.start_eq scheduler layer
  obtain ⟨result, event, hend⟩ := scheduler.alone_ends layer hslot ⟨(replay.take layer).1, false⟩
    ⟨replay.ended, ⟨0⟩⟩
  have hfinish : scheduler.finish layer ⟨replay.ended, ⟨0⟩⟩ (replay.start scheduler layer).1
      (replay.start scheduler layer).2.store = scheduler.alone layer replay.store
        ⟨(replay.take layer).1, false⟩ ⟨replay.ended, ⟨0⟩⟩ := by
    rw [scheduler.alone_eq_update, hphase, hstore]
    rfl
  refine ⟨result, event, hend, ?_⟩
  simp only [update, finish, hended, hfinish]
  generalize scheduler.alone layer replay.store ⟨(replay.take layer).1, false⟩
    ⟨replay.ended, ⟨0⟩⟩ = state at hend ⊢
  obtain ⟨phase, store⟩ := state
  obtain rfl : phase = .finished result (some event) := hend
  exact ⟨rfl, rfl, by rw [hevents]; rfl, rfl⟩

/-- The answers that updates of some layers take, one after another. -/
def fates : List LayerId → Replay → LayerId → Fate
  | [], _, layer => ⟨.error (.notFound layer.site layer.product), false⟩
  | first :: rest, replay, layer =>
    if layer = first then ⟨(replay.take first).1, false⟩
    else fates rest (replay.update scheduler first).2 layer

def updates (layers : List LayerId) (state : List (LayerId × Option
    (Except UpdateError PublishOutcome)) × Replay) :
    List (LayerId × Option (Except UpdateError PublishOutcome)) × Replay :=
  layers.foldl (fun (results, replay) layer =>
    let (result, replay) := replay.update scheduler layer
    (results ++ [(layer, result)], replay)) state

/-- The frames of some layers have ids that no later update gives. -/
def IsPast (replay : Replay) (layers : List LayerId) : Prop :=
  ∀ layer ∈ layers, ∀ frame, replay.store.currentFrame? layer = some frame →
    frame.stamp.id < replay.ended

variable {scheduler replay layer} {layers : List LayerId}

theorem IsPast.isNewAmong {slot : Slot} (h : replay.IsPast layers) (hlayer : layer ∈ layers)
    (hslot : replay.store.get? layer = some slot) :
    (⟨replay.ended, ⟨0⟩⟩ : FrameStamp).IsNewAmong slot.current.toList := by
  intro frame hframe
  have hcurrent : replay.store.currentFrame? layer = some frame := by
    rw [FrameStore.currentFrame?_of_slot hslot]
    exact Option.mem_toList.1 hframe
  exact Nat.ne_of_lt (h layer hlayer frame hcurrent)

theorem get?_update_of_ne {slot : Slot} (hslot : replay.store.get? layer = some slot)
    {other : LayerId} (hother : other ≠ layer) :
    (replay.update scheduler layer).2.store.get? other = replay.store.get? other := by
  obtain ⟨-, -, -, -, hstore, -⟩ := replay.update_eq scheduler layer hslot
  rw [hstore]
  exact scheduler.get?_alone_of_ne hother _ _ _

theorem IsPast.update {slot : Slot} (h : replay.IsPast layers)
    (hslot : replay.store.get? layer = some slot) (hlayer : layer ∉ layers) :
    (replay.update scheduler layer).2.IsPast layers := by
  intro other hother frame hframe
  have hne : other ≠ layer := fun heq => hlayer (heq ▸ hother)
  obtain ⟨-, -, -, -, -, -, hended⟩ := replay.update_eq scheduler layer hslot
  rw [FrameStore.currentFrame?, get?_update_of_ne hslot hne] at hframe
  rw [hended]
  exact Nat.lt_succ_of_lt (h other hother frame hframe)

theorem update_isRun (hworkers : 0 < scheduler.workers) {fates : LayerId → Fate} {first : Round}
    {queue : List LayerId} {count : Nat} {ended : List Ending} {slot : Slot}
    (hslot : replay.store.get? layer = some slot)
    (hstamp : (⟨replay.ended, ⟨0⟩⟩ : FrameStamp).IsNewAmong slot.current.toList)
    (hfate : fates layer = ⟨(replay.take layer).1, false⟩)
    (hrun : scheduler.Run fates first count ⟨replay.store, layer :: queue, [], ended⟩) :
    ∃ more result event,
      scheduler.Run fates first more ⟨(replay.update scheduler layer).2.store, queue, [],
        ended ++ [⟨layer, result, some event⟩]⟩ ∧
      (replay.update scheduler layer).1 = some result ∧
      (replay.update scheduler layer).2.events = replay.events ++ [event] := by
  obtain ⟨more, result, event, hend, hmore⟩ := hrun.alone hworkers hslot hstamp
  obtain ⟨result', event', hend', hresult, hstore, hevents, -⟩ :=
    replay.update_eq scheduler layer hslot
  rw [hfate] at hend hmore
  obtain ⟨rfl, hevent⟩ := Phase.finished.inj (hend'.symm.trans hend)
  obtain rfl := Option.some.inj hevent
  rw [← hstore] at hmore
  exact ⟨more, result', event', hmore, hresult, hevents⟩

/-- Updates of some layers one after another, as steps of a round that has not begun any of
them. -/
theorem updates_isRun (hworkers : 0 < scheduler.workers) {fates : LayerId → Fate} {first : Round}
    (rest : List LayerId) (replay : Replay)
    (results : List (LayerId × Option (Except UpdateError PublishOutcome))) {count : Nat}
    {ended : List Ending} (hnodup : rest.Nodup)
    (hconfigured : ∀ layer ∈ rest, replay.store.contains layer = true) (hpast : replay.IsPast rest)
    (hfates : ∀ layer ∈ rest, fates layer = Replay.fates scheduler rest replay layer)
    (hrun : scheduler.Run fates first count ⟨replay.store, rest, [], ended⟩) :
    ∃ more told,
      scheduler.Run fates first more
        ⟨(updates scheduler rest (results, replay)).2.store, [], [], ended ++ told⟩ ∧
      (updates scheduler rest (results, replay)).1 =
        results ++ told.map (fun ending => (ending.layer, some ending.result)) ∧
      (updates scheduler rest (results, replay)).2.events =
        replay.events ++ told.flatMap (·.event.toList) := by
  induction rest generalizing replay results count ended with
  | nil =>
      exact ⟨count, [], by rwa [List.append_nil], (List.append_nil _).symm,
        (List.append_nil _).symm⟩
  | cons layer rest ih =>
      obtain ⟨hlayer, hrest⟩ := List.nodup_cons.1 hnodup
      have hmem : layer ∈ layer :: rest := List.mem_cons_self
      have hne : ∀ other ∈ rest, other ≠ layer := fun other hother heq => hlayer (heq ▸ hother)
      obtain ⟨slot, hslot⟩ := (replay.store.contains_iff layer).1 (hconfigured layer hmem)
      have hfate : fates layer = ⟨(replay.take layer).1, false⟩ := by
        rw [hfates layer hmem, Replay.fates, if_pos rfl]
      obtain ⟨more, result, event, hmore, hresult, hevents⟩ :=
        update_isRun hworkers hslot (hpast.isNewAmong hmem hslot) hfate hrun
      have hconfigured' : ∀ other ∈ rest,
          (replay.update scheduler layer).2.store.contains other = true := by
        intro other hother
        rw [FrameStore.contains, get?_update_of_ne hslot (hne other hother)]
        exact hconfigured other (List.mem_cons_of_mem _ hother)
      have hpast' : (replay.update scheduler layer).2.IsPast rest :=
        IsPast.update (fun other hother => hpast other (List.mem_cons_of_mem _ hother)) hslot hlayer
      have hfates' : ∀ other ∈ rest,
          fates other = Replay.fates scheduler rest (replay.update scheduler layer).2 other := by
        intro other hother
        rw [hfates other (List.mem_cons_of_mem _ hother), Replay.fates, if_neg (hne other hother)]
      obtain ⟨all, told, hall, hresults, htold⟩ := ih (replay.update scheduler layer).2
        (results ++ [(layer, (replay.update scheduler layer).1)]) hrest hconfigured' hpast' hfates'
        hmore
      refine ⟨all, ⟨layer, result, some event⟩ :: told, ?_, ?_, ?_⟩
      · rw [List.append_cons]
        exact hall
      · rw [List.map_cons, List.append_cons, ← hresult]
        exact hresults
      · rw [List.flatMap_cons, ← List.append_assoc, Option.toList_some, ← hevents]
        exact htold

/-- The updates of a replay of all layers are a round of these layers, with the answers that they
take for their fates. -/
theorem updateAll_isRound (hworkers : 0 < scheduler.workers)
    (hpast : replay.IsPast replay.store.layers) :
    ∃ count round, scheduler.Run (Replay.fates scheduler replay.store.layers replay)
        (.ofLayers replay.store replay.store.layers) count round ∧ round.IsOver ∧
      (replay.updateAll scheduler).2.store = round.store ∧
      (replay.updateAll scheduler).1 =
        round.results.map (fun entry => (entry.1, some entry.2)) ∧
      (replay.updateAll scheduler).2.events =
        replay.events ++ round.ended.flatMap (·.event.toList) := by
  obtain ⟨count, told, hrun, hresults, hevents⟩ := updates_isRun hworkers replay.store.layers replay
    [] replay.store.nodup_layers (fun _ => FrameStore.contains_of_mem_layers) hpast
    (fun _ _ => rfl) .start
  refine ⟨count, _, hrun, ⟨rfl, rfl⟩, rfl, ?_, hevents⟩
  rw [Round.results, List.map_map]
  exact hresults

end Replay

end WeatherRadar.Pipeline
