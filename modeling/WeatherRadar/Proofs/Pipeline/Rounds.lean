import Mathlib.Algebra.Ring.Nat
import Mathlib.Data.List.Nodup
import WeatherRadar.Proofs.Pipeline.Alone
/-!
# Rounds of updates

A round updates several layers at once, as many as there are workers, and their steps come in any
order.  No step of one layer touches the slot of another, so each update stays in step with one that
runs alone (`Run.runsApart`), and with every step the round comes nearer to its end
(`Step.stepsLeft_lt`).
-/

namespace WeatherRadar.Pipeline

open WeatherRadar.Render

/-! ## Rounds -/

structure Ending where
  layer : LayerId
  result : Except UpdateError PublishOutcome
  event : Option Event

/-- Updates of several layers on their way. -/
structure Round where
  store : FrameStore
  /-- The layers whose updates have not begun, the next one first. -/
  queue : List LayerId
  running : List (LayerId × Phase)
  /-- The updates that have ended, the first one first. -/
  ended : List Ending

namespace Round

def ofLayers (store : FrameStore) (layers : List LayerId) : Round := ⟨store, layers, [], []⟩

def IsOver (round : Round) : Prop := round.queue = [] ∧ round.running = []

def results (round : Round) : List (LayerId × Except UpdateError PublishOutcome) :=
  round.ended.map fun ending => (ending.layer, ending.result)

end Round

namespace Scheduler

/-- A step of a round in which every layer has its fate.  A stamp in a step is new to the layer
whose frame may take it. -/
inductive Step (scheduler : Scheduler) (fates : LayerId → Fate) : Round → Round → Prop where
  /-- The next update begins as soon as a worker is free. -/
  | begins {store : FrameStore} {layer : LayerId} {queue : List LayerId}
      {running : List (LayerId × Phase)} {ended : List Ending} :
      running.length < scheduler.workers →
      Step scheduler fates ⟨store, layer :: queue, running, ended⟩
        ⟨(scheduler.start store layer).2, queue,
          running ++ [(layer, (scheduler.start store layer).1)], ended⟩
  | answered {store : FrameStore} {queue : List LayerId} (before after : List (LayerId × Phase))
      {layer : LayerId} {site : Site} {ended : List Ending} :
      Step scheduler fates ⟨store, queue, before ++ (layer, .fetching site) :: after, ended⟩
        ⟨store, queue,
          before ++ (layer, (Phase.fetching site).receive (fates layer).response) :: after, ended⟩
  | turns {store : FrameStore} {queue : List LayerId} (before after : List (LayerId × Phase))
      {layer : LayerId} {phase : Phase} {stamp : FrameStamp} {ended : List Ending} :
      phase.isActive = true → stamp.IsNewAmong (store.currentFrame? layer).toList →
      Step scheduler fates ⟨store, queue, before ++ (layer, phase) :: after, ended⟩
        ⟨(scheduler.turn layer ((fates layer).turn stamp) (phase, store)).2, queue,
          before ++ (layer, (scheduler.turn layer ((fates layer).turn stamp) (phase, store)).1) ::
            after, ended⟩
  | ends {store : FrameStore} {queue : List LayerId} (before after : List (LayerId × Phase))
      {layer : LayerId} {result : Except UpdateError PublishOutcome} {event : Option Event}
      {ended : List Ending} :
      Step scheduler fates ⟨store, queue, before ++ (layer, .finished result event) :: after, ended⟩
        ⟨store, queue, before ++ after, ended ++ [⟨layer, result, event⟩]⟩

/-- Some steps of a round, in any order that there can be. -/
inductive Run (scheduler : Scheduler) (fates : LayerId → Fate) (start : Round) :
    Nat → Round → Prop where
  | start : Run scheduler fates start 0 start
  | step {count : Nat} {round next : Round} : Run scheduler fates start count round →
      Step scheduler fates round next → Run scheduler fates start (count + 1) next

end Scheduler

/-! ## Steps of other layers -/

namespace Scheduler

variable (scheduler : Scheduler) {layer other : LayerId}

theorem get?_start_of_ne (hother : other ≠ layer) (store : FrameStore) :
    (scheduler.start store layer).2.get? other = store.get? other := by
  rw [store_start, FrameStore.get?_call, if_neg hother]

theorem get?_turn_of_ne (hother : other ≠ layer) (fate : Fate) (stamp : FrameStamp) (phase : Phase)
    (store : FrameStore) :
    (scheduler.turn layer (fate.turn stamp) (phase, store)).2.get? other = store.get? other := by
  rw [store_turn, Fate.turn, FrameStore.calls_nil]
  cases phase.call? stamp with
  | none => rfl
  | some call =>
      rw [Option.toList_some, List.map_singleton, FrameStore.calls_cons, FrameStore.calls_nil,
        FrameStore.get?_call, if_neg hother]

/-- How an update begins depends on nothing in the store but that its layer is configured. -/
theorem start_congr {store store' : FrameStore} {slot slot' : Slot}
    (hslot : store.get? layer = some slot) (hslot' : store'.get? layer = some slot') :
    (scheduler.start store layer).1 = (scheduler.start store' layer).1 := by
  simp only [start, FrameStore.beginUpdate, FrameStore.update_of_slot hslot,
    FrameStore.update_of_slot hslot']
  cases scheduler.sites.lookup layer.site <;> rfl

end Scheduler

/-! ## In step with updates alone -/

/-- An update that has begun is as far as some turns take one alone. -/
def Follows (scheduler : Scheduler) (start : FrameStore) (fate : Fate) (layer : LayerId)
    (store : FrameStore) (phase : Phase) : Prop :=
  ∃ slot, store.get? layer = some slot ∧
    ∀ own : FrameStamp, own.IsNewAmong (start.currentFrame? layer).toList →
      ∃ count slot', (scheduler.aloneFor layer start fate own count).2.get? layer = some slot' ∧
        AsAlone layer own slot slot' (phase.receive fate.response)
          (scheduler.aloneFor layer start fate own count).1

/-- The layers of a round wait with the slots that they had, or follow their updates alone. -/
structure Tracks (scheduler : Scheduler) (start : FrameStore) (fates : LayerId → Fate)
    (layers : List LayerId) (store : FrameStore) (queue : List LayerId)
    (begun : List (LayerId × Phase)) : Prop where
  layers : (queue ++ begun.map Prod.fst).Perm layers
  queued : ∀ layer ∈ queue, store.get? layer = start.get? layer
  begun : ∀ layer phase, (layer, phase) ∈ begun →
    Follows scheduler start (fates layer) layer store phase

/-- The updates that have begun, those that have ended among them. -/
def Round.begun (round : Round) : List (LayerId × Phase) :=
  round.running ++ round.ended.map fun ending =>
    (ending.layer, .finished ending.result ending.event)

theorem Follows.congr {scheduler : Scheduler} {start store store' : FrameStore} {fate : Fate}
    {layer : LayerId} {phase : Phase} (h : Follows scheduler start fate layer store phase)
    (hslot : store'.get? layer = store.get? layer) :
    Follows scheduler start fate layer store' phase := by
  obtain ⟨slot, hfound, hfollows⟩ := h
  exact ⟨slot, hslot.trans hfound, hfollows⟩

theorem follows_start {scheduler : Scheduler} {start store : FrameStore} {layer : LayerId}
    {slot : Slot} (hstart : start.get? layer = some slot) (hslot : store.get? layer = some slot)
    (fate : Fate) : Follows scheduler start fate layer (scheduler.start store layer).2
      (scheduler.start store layer).1 := by
  refine ⟨_, scheduler.slot_start layer hslot, ?_⟩
  intro own hown
  refine ⟨0, _, scheduler.slot_start layer hstart, ?_⟩
  rw [scheduler.start_congr hslot hstart]
  rw [FrameStore.currentFrame?_of_slot hstart] at hown
  have hbegun : (scheduler.aloneFor layer start fate own 0).1 =
      (scheduler.start start layer).1.receive fate.response := rfl
  rw [hbegun]
  simp only [Scheduler.start, FrameStore.beginUpdate, FrameStore.update_of_slot hstart]
  cases scheduler.sites.lookup layer.site with
  | error error => exact .failing rfl
  | ok site =>
      cases fate.response with
      | error error => exact .failing rfl
      | ok bytes => exact .reading hown

theorem Follows.receive {scheduler : Scheduler} {start store : FrameStore} {fate : Fate}
    {layer : LayerId} {phase : Phase} (h : Follows scheduler start fate layer store phase) :
    Follows scheduler start fate layer store (phase.receive fate.response) := by
  have hreceived : (phase.receive fate.response).receive fate.response =
      phase.receive fate.response := by
    cases phase with
    | fetching site => cases fate.response <;> rfl
    | _ => rfl
  rw [Follows, hreceived]
  exact h

theorem Follows.turn {scheduler : Scheduler} {start store : FrameStore} {fate : Fate}
    {layer : LayerId} {phase : Phase} (h : Follows scheduler start fate layer store phase)
    (hactive : phase.isActive = true) {stamp : FrameStamp}
    (hstamp : stamp.IsNewAmong (store.currentFrame? layer).toList) :
    let turned := scheduler.turn layer (fate.turn stamp) (phase, store)
    Follows scheduler start fate layer turned.2 turned.1 := by
  intro turned
  obtain ⟨slot, hslot, hfollows⟩ := h
  have hreceived : phase.receive fate.response = phase := by
    cases phase with
    | fetching site => cases hactive
    | _ => rfl
  rw [hreceived] at hfollows
  rw [FrameStore.currentFrame?_of_slot hslot] at hstamp
  have hfound : (store.calls (fate.turn stamp).others).get? layer = some slot := hslot
  have hafter := scheduler.slot_turn layer phase hfound
  refine ⟨_, hafter, ?_⟩
  intro own hown
  obtain ⟨count, slot', hslot', hasAlone⟩ := hfollows own hown
  have hfound' : ((scheduler.aloneFor layer start fate own count).2.calls
    (fate.turn own).others).get? layer = some slot' := hslot'
  obtain ⟨next, next', hnext, hnext', hturned⟩ :=
    AsAlone.turn scheduler hasAlone hfound hfound' hstamp rfl
  obtain rfl := Option.some.inj (hnext.symm.trans hafter)
  rw [← hturned.receive_eq fate.response] at hturned
  refine ⟨count + 1, next', ?_, ?_⟩
  · rw [scheduler.aloneFor_succ]
    exact hnext'
  · rw [scheduler.aloneFor_succ]
    exact hturned

theorem exists_isNewAmong (current : Option Frame) :
    ∃ stamp : FrameStamp, stamp.IsNewAmong current.toList := by
  cases current with
  | none => exact ⟨blankStamp, fun frame hframe => by cases hframe⟩
  | some current =>
      refine ⟨⟨current.stamp.id + 1, blankStamp.builtAt⟩, fun frame hframe => ?_⟩
      obtain rfl : frame = current := by simpa using hframe
      exact Nat.ne_of_lt (Nat.lt_succ_self _)

/-- An update waits for the source, goes on, or has ended and told so. -/
theorem Follows.phase_cases {scheduler : Scheduler} {start store : FrameStore} {fate : Fate}
    {layer : LayerId} {phase : Phase} (h : Follows scheduler start fate layer store phase) :
    (∃ site, phase = .fetching site) ∨ phase.isActive = true ∨
      ∃ result event, phase = .finished result (some event) := by
  obtain ⟨slot, -, hfollows⟩ := h
  obtain ⟨own, hown⟩ := exists_isNewAmong (start.currentFrame? layer)
  obtain ⟨count, slot', -, hasAlone⟩ := hfollows own hown
  cases phase with
  | fetching site => exact .inl ⟨site, rfl⟩
  | _ => exact .inr hasAlone.isActive_or_finished

namespace Tracks

variable {scheduler : Scheduler} {start store store' : FrameStore} {fates : LayerId → Fate}
  {layers queue : List LayerId} {begun begun' : List (LayerId × Phase)} {layer : LayerId}
  {phase phase' : Phase}

theorem perm (h : Tracks scheduler start fates layers store queue begun)
    (hperm : begun'.Perm begun) : Tracks scheduler start fates layers store queue begun' where
  layers := ((hperm.map Prod.fst).append_left queue).trans h.layers
  queued := h.queued
  begun layer phase hmem := h.begun layer phase (hperm.mem_iff.1 hmem)

/-- What happens to one layer leaves the others as they are. -/
theorem of_others (hlayers : layers.Nodup)
    (hperm : (queue ++ layer :: begun.map Prod.fst).Perm layers)
    (hqueued : ∀ layer ∈ queue, store.get? layer = start.get? layer)
    (hbegun : ∀ layer phase, (layer, phase) ∈ begun →
      Follows scheduler start (fates layer) layer store phase)
    (hothers : ∀ other, other ≠ layer → store'.get? other = store.get? other)
    (hfollows : Follows scheduler start (fates layer) layer store' phase) :
    Tracks scheduler start fates layers store' queue ((layer, phase) :: begun) := by
  have hnodup := hperm.nodup_iff.2 hlayers
  rw [List.nodup_middle, List.nodup_cons, List.mem_append, not_or] at hnodup
  obtain ⟨⟨hnotQueued, hnotBegun⟩, -⟩ := hnodup
  constructor
  · exact hperm
  · intro other hother
    rw [hothers other (fun heq => hnotQueued (heq ▸ hother))]
    exact hqueued other hother
  · intro other found hmem
    rcases List.mem_cons.1 hmem with hown | hrest
    · obtain ⟨rfl, rfl⟩ := Prod.mk.inj hown
      exact hfollows
    · have hne : other ≠ layer := fun heq => hnotBegun (heq ▸ List.mem_map_of_mem hrest)
      exact (hbegun other found hrest).congr (hothers other hne)

theorem changes (h : Tracks scheduler start fates layers store queue ((layer, phase) :: begun))
    (hlayers : layers.Nodup)
    (hothers : ∀ other, other ≠ layer → store'.get? other = store.get? other)
    (hfollows : Follows scheduler start (fates layer) layer store' phase') :
    Tracks scheduler start fates layers store' queue ((layer, phase') :: begun) :=
  of_others hlayers h.layers h.queued
    (fun other found hrest => h.begun other found (List.mem_cons_of_mem _ hrest)) hothers hfollows

theorem begins (h : Tracks scheduler start fates layers store (layer :: queue) begun)
    (hlayers : layers.Nodup) (hconfigured : ∀ layer ∈ layers, start.contains layer = true) :
    Tracks scheduler start fates layers (scheduler.start store layer).2 queue
      ((layer, (scheduler.start store layer).1) :: begun) := by
  have hmem : layer ∈ layers := h.layers.mem_iff.1 List.mem_cons_self
  obtain ⟨slot, hslot⟩ := (start.contains_iff layer).1 (hconfigured layer hmem)
  have hfound : store.get? layer = some slot := (h.queued layer List.mem_cons_self).trans hslot
  exact of_others hlayers (List.perm_middle.trans h.layers)
    (fun other hother => h.queued other (List.mem_cons_of_mem _ hother)) h.begun
    (fun other hother => scheduler.get?_start_of_ne hother store)
    (follows_start hslot hfound (fates layer))

end Tracks

namespace Scheduler

variable {scheduler : Scheduler} {start : FrameStore} {fates : LayerId → Fate}
  {layers : List LayerId} {round next : Round}

/-- The layers of a round are in step with updates alone. -/
def RunsApart (scheduler : Scheduler) (start : FrameStore) (fates : LayerId → Fate)
    (layers : List LayerId) (round : Round) : Prop :=
  Tracks scheduler start fates layers round.store round.queue round.begun

theorem runsApart_ofLayers (scheduler : Scheduler) (start : FrameStore) (fates : LayerId → Fate)
    (layers : List LayerId) :
    scheduler.RunsApart start fates layers (.ofLayers start layers) where
  layers := by simp [Round.ofLayers, Round.begun]
  queued layer _ := rfl
  begun layer phase hmem := by simp [Round.ofLayers, Round.begun] at hmem

theorem Step.runsApart (hstep : scheduler.Step fates round next) (hlayers : layers.Nodup)
    (hconfigured : ∀ layer ∈ layers, start.contains layer = true)
    (h : scheduler.RunsApart start fates layers round) :
    scheduler.RunsApart start fates layers next := by
  -- The layer that moves is brought to the front, where one lemma says that the others stay.
  cases hstep with
  | begins _ =>
      refine (Tracks.begins h hlayers hconfigured).perm ?_
      simp only [Round.begun, List.append_assoc]
      exact List.perm_middle
  | answered =>
      simp only [RunsApart, Round.begun, List.append_assoc, List.cons_append] at h ⊢
      have hown := h.perm List.perm_middle.symm
      refine (hown.changes hlayers (fun _ _ => rfl) ?_).perm List.perm_middle
      exact (hown.begun _ _ List.mem_cons_self).receive
  | turns _ _ hactive hstamp =>
      simp only [RunsApart, Round.begun, List.append_assoc, List.cons_append] at h ⊢
      have hown := h.perm List.perm_middle.symm
      refine (hown.changes hlayers (fun other hother =>
        scheduler.get?_turn_of_ne hother _ _ _ _) ?_).perm List.perm_middle
      exact (hown.begun _ _ List.mem_cons_self).turn hactive hstamp
  | ends =>
      refine Tracks.perm h ?_
      -- The update goes from those that run to those that have ended, and no slot changes.
      simp only [Round.begun, List.map_append, List.map_singleton, List.append_assoc,
        List.cons_append]
      refine List.Perm.append_left _ ?_
      rw [← List.append_assoc]
      exact List.perm_append_singleton _ _

theorem Run.runsApart {first : Round} {count : Nat} (hrun : scheduler.Run fates first count round)
    (hlayers : layers.Nodup) (hconfigured : ∀ layer ∈ layers, start.contains layer = true)
    (h : scheduler.RunsApart start fates layers first) :
    scheduler.RunsApart start fates layers round := by
  induction hrun with
  | start => exact h
  | step _ hstep ih => exact hstep.runsApart hlayers hconfigured ih

end Scheduler

/-! ## Rounds end -/

namespace Phase

/-- The greatest number of steps that a round takes with an update from a phase on. -/
def roundSteps : Phase → Nat
  | fetching _ => 6
  | finished _ _ => 1
  | phase => phase.stepsLeft + 1

theorem roundSteps_of_isActive {phase : Phase} (h : phase.isActive = true) :
    phase.roundSteps = phase.stepsLeft + 1 := by
  cases phase <;> first | rfl | cases h

theorem roundSteps_receive_lt (site : Site) (response : Response) :
    ((fetching site).receive response).roundSteps < (fetching site).roundSteps := by
  cases response <;> simp [receive, roundSteps, stepsLeft]

end Phase

/-- The greatest number of steps that a round takes to its end. -/
def Round.stepsLeft (round : Round) : Nat :=
  7 * round.queue.length + (round.running.map (·.2.roundSteps)).sum

namespace Scheduler

variable {scheduler : Scheduler} {start : FrameStore} {fates : LayerId → Fate}
  {layers : List LayerId} {round next : Round}

theorem roundSteps_start_le (scheduler : Scheduler) (store : FrameStore) (layer : LayerId) :
    (scheduler.start store layer).1.roundSteps ≤ 6 := by
  simp only [Scheduler.start]
  cases store.beginUpdate layer with
  | error error => simp [Phase.roundSteps]
  | ok begun =>
      cases scheduler.sites.lookup layer.site <;> simp [Phase.roundSteps, Phase.stepsLeft]

theorem roundSteps_turn_lt (scheduler : Scheduler) {layer : LayerId} {turn : Turn} {phase : Phase}
    {store : FrameStore} {slot : Slot} (hactive : phase.isActive = true)
    (hslot : (store.calls turn.others).get? layer = some slot) :
    (scheduler.turn layer turn (phase, store)).1.roundSteps < phase.roundSteps := by
  have hnext := scheduler.next_turn layer hactive hslot
  rw [Phase.roundSteps_of_isActive hactive]
  rcases hnext.progress with ⟨hstill, hless, -⟩ | ⟨-, result, event, hend, -⟩
  · rw [Phase.roundSteps_of_isActive hstill]
    omega
  · have hsteps := Phase.one_le_stepsLeft hactive
    rw [hend, Phase.roundSteps]
    omega

theorem RunsApart.follows (h : scheduler.RunsApart start fates layers round) {layer : LayerId}
    {phase : Phase} (hrunning : (layer, phase) ∈ round.running) :
    Follows scheduler start (fates layer) layer round.store phase :=
  h.begun layer phase (List.mem_append_left _ hrunning)

theorem Step.stepsLeft_lt (hstep : scheduler.Step fates round next)
    (h : scheduler.RunsApart start fates layers round) : next.stepsLeft < round.stepsLeft := by
  cases hstep with
  | @begins store layer queue running ended _ =>
      have hstart := roundSteps_start_le scheduler store layer
      simp only [Round.stepsLeft, List.map_append, List.sum_append, List.map_singleton,
        List.sum_singleton, List.length_cons]
      omega
  | @answered store queue before after layer site ended =>
      have hanswer := Phase.roundSteps_receive_lt site (fates layer).response
      simp only [Round.stepsLeft, List.map_append, List.sum_append, List.map_cons, List.sum_cons]
      omega
  | @turns store queue before after layer phase stamp ended hactive _ =>
      obtain ⟨slot, hslot, -⟩ := h.follows (List.mem_append_right before List.mem_cons_self)
      have hfound : (store.calls ((fates layer).turn stamp).others).get? layer = some slot := hslot
      have hturn := scheduler.roundSteps_turn_lt hactive hfound
      simp only [Round.stepsLeft, List.map_append, List.sum_append, List.map_cons, List.sum_cons]
      omega
  | ends =>
      simp only [Round.stepsLeft, List.map_append, List.sum_append, List.map_cons, List.sum_cons,
        Phase.roundSteps]
      omega

theorem Run.count_add_stepsLeft_le {first : Round} {count : Nat}
    (hrun : scheduler.Run fates first count round) (hlayers : layers.Nodup)
    (hconfigured : ∀ layer ∈ layers, start.contains layer = true)
    (h : scheduler.RunsApart start fates layers first) :
    count + round.stepsLeft ≤ first.stepsLeft := by
  induction hrun with
  | start => omega
  | step hrun hstep ih =>
      have hless := hstep.stepsLeft_lt (hrun.runsApart hlayers hconfigured h)
      omega

/-- A round that is not over can go on. -/
theorem RunsApart.isOver_or_step (h : scheduler.RunsApart start fates layers round)
    (hworkers : 0 < scheduler.workers) :
    round.IsOver ∨ ∃ next, scheduler.Step fates round next := by
  obtain ⟨store, queue, running, ended⟩ := round
  cases running with
  | nil =>
      cases queue with
      | nil => exact .inl ⟨rfl, rfl⟩
      | cons layer queue => exact .inr ⟨_, .begins hworkers⟩
  | cons entry running =>
      obtain ⟨layer, phase⟩ := entry
      refine .inr ?_
      rcases (h.follows List.mem_cons_self).phase_cases with
        ⟨site, rfl⟩ | hactive | ⟨result, event, rfl⟩
      · exact ⟨_, .answered [] running⟩
      · obtain ⟨stamp, hstamp⟩ := exists_isNewAmong (store.currentFrame? layer)
        exact ⟨_, .turns [] running hactive hstamp⟩
      · exact ⟨_, .ends [] running⟩

end Scheduler

end WeatherRadar.Pipeline
