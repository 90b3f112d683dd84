import WeatherRadar.Proofs.Pipeline.Rounds
import WeatherRadar.Proofs.Render.VertexBudget
/-!
# Layers that are updated at once

Whatever becomes of the others, a layer comes to the same in a round as if its update had run alone
from the same store: the same result, the same event, and the same slot, up to the ids of frames and
the times of the clock (`layers_stay_apart`).  A round can always be brought to its end
(`LayersApart.exists_isOver`).
-/

namespace WeatherRadar.Pipeline

open WeatherRadar.Geo WeatherRadar.Level3 WeatherRadar.Render

theorem Settings.workers_pos {settings : Settings} (h : settings.fault? = none) :
    0 < settings.workers := by
  rw [Settings.fault?] at h
  split at h
  · cases h
  · rename_i hworkers
    exact Nat.pos_of_ne_zero fun hzero => hworkers (beq_iff_eq.2 hzero)

/-! ## What a layer comes to -/

/-- What was returned and told of a layer and what the store holds for it, up to the ids of frames
and the times of the clock. -/
structure Outcome where
  results : List (Except UpdateError PublishOutcome)
  events : List Event
  slot : Option Slot

def outcomeOf (layer : LayerId) (endings : List Ending) (store : FrameStore) : Outcome where
  results := (endings.filter (·.layer = layer)).map (·.result)
  events := ((endings.flatMap (·.event.toList)).filter (·.layer = layer)).map Event.unstamped
  slot := (store.get? layer).map Slot.unstamped

def Round.outcome (round : Round) (layer : LayerId) : Outcome :=
  outcomeOf layer round.ended round.store

def Phase.endings (layer : LayerId) : Phase → List Ending
  | finished result event => [⟨layer, result, event⟩]
  | _ => []

/-- What a layer comes to if it alone is updated. -/
def Scheduler.outcomeAlone (scheduler : Scheduler) (layer : LayerId) (store : FrameStore)
    (fate : Fate) (stamp : FrameStamp) : Outcome :=
  outcomeOf layer ((scheduler.alone layer store fate stamp).1.endings layer)
    (scheduler.alone layer store fate stamp).2

/-- An update that has ended has come to what the update alone comes to. -/
theorem Follows.finished {scheduler : Scheduler} {start store : FrameStore} {fate : Fate}
    {layer : LayerId} {result : Except UpdateError PublishOutcome} {told : Option Event}
    (h : Follows scheduler start fate layer store (.finished result told)) {slot : Slot}
    (hstart : start.get? layer = some slot) {own : FrameStamp}
    (hown : own.IsNewAmong (start.currentFrame? layer).toList) :
    ∃ event event', told = some event ∧ event.layer = layer ∧
      (scheduler.alone layer start fate own).1 = .finished result (some event') ∧
      event.unstamped = event'.unstamped ∧
      (store.get? layer).map Slot.unstamped =
        ((scheduler.alone layer start fate own).2.get? layer).map Slot.unstamped := by
  obtain ⟨last, hlast, hfollows⟩ := h
  obtain ⟨count, slot', hslot', hasAlone⟩ := hfollows own hown
  change AsAlone layer own last slot' (.finished result told) _ at hasAlone
  generalize hphase : (scheduler.aloneFor layer start fate own count).1 = phase at hasAlone
  cases hasAlone with
  | finished hslots hlayer hevents =>
      have hend := scheduler.aloneFor_eq_alone layer hstart hphase
      rw [hend] at hphase hslot'
      refine ⟨_, _, rfl, hlayer, hphase, hevents, ?_⟩
      rw [hlast, hslot', Option.map_some, Option.map_some, hslots]

/-- An update has told of its end, and of its own. -/
def Ending.IsTold (ending : Ending) : Prop :=
  ∃ event, ending.event = some event ∧ event.layer = ending.layer

section Endings

variable {endings : List Ending} {layer : LayerId}

theorem filter_endings (hnodup : (endings.map (·.layer)).Nodup) {ending : Ending}
    (hmem : ending ∈ endings) :
    endings.filter (·.layer = ending.layer) = [ending] := by
  induction endings with
  | nil => cases hmem
  | cons first endings ih =>
      rw [List.map_cons, List.nodup_cons, List.mem_map] at hnodup
      obtain ⟨hfirst, hrest⟩ := hnodup
      rcases List.mem_cons.1 hmem with rfl | hlater
      · have hnone : endings.filter (·.layer = ending.layer) = [] := by
          rw [List.filter_eq_nil_iff]
          intro other hother hsame
          exact hfirst ⟨other, hother, of_decide_eq_true hsame⟩
        rw [List.filter_cons_of_pos (by simp), hnone]
      · have hne : ¬ first.layer = ending.layer := fun heq => hfirst ⟨ending, hlater, heq.symm⟩
        rw [List.filter_cons_of_neg (by simp [hne])]
        exact ih hrest hlater

theorem filter_events (htold : ∀ ending ∈ endings, ending.IsTold) :
    (endings.flatMap (·.event.toList)).filter (·.layer = layer) =
      (endings.filter (·.layer = layer)).flatMap (·.event.toList) := by
  induction endings with
  | nil => rfl
  | cons first endings ih =>
      obtain ⟨event, hevent, hlayer⟩ := htold first List.mem_cons_self
      rw [List.flatMap_cons, List.filter_append,
        ih fun other hother => htold other (List.mem_cons_of_mem _ hother), hevent]
      by_cases hown : first.layer = layer
      · simp [hown, hlayer, hevent]
      · simp [hown, hlayer]

theorem outcomeOf_eq (hnodup : (endings.map (·.layer)).Nodup)
    (htold : ∀ ending ∈ endings, ending.IsTold) {result : Except UpdateError PublishOutcome}
    {event : Event} (hmem : ⟨layer, result, some event⟩ ∈ endings) (store : FrameStore) :
    outcomeOf layer endings store =
      ⟨[result], [event.unstamped], (store.get? layer).map Slot.unstamped⟩ := by
  have hown := filter_endings hnodup hmem
  rw [outcomeOf, filter_events htold, hown]
  rfl

end Endings

namespace Scheduler

variable {scheduler : Scheduler} {start : FrameStore} {fates : LayerId → Fate}
  {layers : List LayerId} {round : Round}

theorem RunsApart.isTold (h : scheduler.RunsApart start fates layers round)
    (hconfigured : ∀ layer ∈ layers, start.contains layer = true) :
    ∀ ending ∈ round.ended, ending.IsTold := by
  intro ending hending
  have hbegun : (ending.layer, Phase.finished ending.result ending.event) ∈ round.begun :=
    List.mem_append_right _ (List.mem_map_of_mem hending)
  have hlayer : ending.layer ∈ layers :=
    h.layers.mem_iff.1 (List.mem_append_right _ (List.mem_map_of_mem hbegun))
  obtain ⟨slot, hslot⟩ := (start.contains_iff _).1 (hconfigured _ hlayer)
  obtain ⟨own, hown⟩ := exists_isNewAmong (start.currentFrame? ending.layer)
  obtain ⟨event, -, htold, hown, -⟩ := (h.begun _ _ hbegun).finished hslot hown
  exact ⟨event, htold, hown⟩

theorem RunsApart.perm_of_isOver (h : scheduler.RunsApart start fates layers round)
    (hover : round.IsOver) : (round.ended.map (·.layer)).Perm layers := by
  have hperm := h.layers
  rw [Round.begun, hover.1, hover.2, List.nil_append, List.nil_append, List.map_map] at hperm
  exact hperm

/-- At the end of a round a layer has come to what it comes to alone. -/
theorem RunsApart.outcome_eq (h : scheduler.RunsApart start fates layers round)
    (hlayers : layers.Nodup) (hconfigured : ∀ layer ∈ layers, start.contains layer = true)
    (hover : round.IsOver) {layer : LayerId} (hlayer : layer ∈ layers) {own : FrameStamp}
    (hown : own.IsNewAmong (start.currentFrame? layer).toList) :
    (∃ result event slot, round.outcome layer = ⟨[result], [event], some slot⟩) ∧
      round.outcome layer = scheduler.outcomeAlone layer start (fates layer) own := by
  have hperm := h.perm_of_isOver hover
  -- The one end of the layer in the round is compared with the end of its update alone.
  obtain ⟨⟨named, result, told⟩, hending, hnamed⟩ := List.mem_map.1 (hperm.mem_iff.2 hlayer)
  obtain rfl : named = layer := hnamed
  have hbegun : (named, Phase.finished result told) ∈ round.begun :=
    List.mem_append_right _ (List.mem_map.2 ⟨_, hending, rfl⟩)
  have hfollows := h.begun _ _ hbegun
  obtain ⟨slot, hslot⟩ := (start.contains_iff _).1 (hconfigured _ hlayer)
  obtain ⟨event, event', rfl, htold, hend, hevents, hslots⟩ := hfollows.finished hslot hown
  have hround : round.outcome named =
      ⟨[result], [event.unstamped], (round.store.get? named).map Slot.unstamped⟩ :=
    outcomeOf_eq (hperm.nodup_iff.2 hlayers) (h.isTold hconfigured) hending round.store
  have htold' : event'.layer = named := by
    rw [← htold, ← event.layer_unstamped, hevents, event'.layer_unstamped]
  have halone : scheduler.outcomeAlone named start (fates named) own = ⟨[result],
      [event'.unstamped],
      ((scheduler.alone named start (fates named) own).2.get? named).map Slot.unstamped⟩ := by
    have hsingle : ([⟨named, result, some event'⟩].map Ending.layer).Nodup :=
      List.nodup_singleton named
    rw [outcomeAlone, hend]
    refine outcomeOf_eq hsingle ?_ (List.mem_singleton_self _) _
    intro ending hmem
    obtain rfl := List.mem_singleton.1 hmem
    exact ⟨event', rfl, htold'⟩
  refine ⟨?_, ?_⟩
  · obtain ⟨last, hlast, -⟩ := hfollows
    rw [hround, hlast]
    exact ⟨_, _, _, rfl⟩
  · rw [hround, halone, hevents, hslots]

/-! ## Layers stay apart -/

/-- How updates of several layers at once go. -/
structure LayersApart (scheduler : Scheduler) (start : FrameStore) (layers : List LayerId)
    (fates : LayerId → Fate) : Prop where
  /-- A round ends, and does not stop before its end. -/
  ends : ∀ count round, scheduler.Run fates (.ofLayers start layers) count round →
    count ≤ 7 * layers.length ∧ (round.IsOver ∨ ∃ next, scheduler.Step fates round next)
  /-- At its end every layer has one result. -/
  once : ∀ count round, scheduler.Run fates (.ofLayers start layers) count round → round.IsOver →
    (round.results.map Prod.fst).Perm layers ∧ ∀ layer ∈ layers,
      ∃ result event slot, round.outcome layer = ⟨[result], [event], some slot⟩
  /-- An update alone is a whole update of the scheduler, as long as no worker stops. -/
  whole : ∀ layer response stamp, scheduler.alone layer start ⟨response, false⟩ stamp =
    scheduler.update start layer response stamp
  /-- A layer comes to the same as if it alone were updated. -/
  alone : ∀ count round, scheduler.Run fates (.ofLayers start layers) count round →
    round.IsOver → ∀ layer ∈ layers, ∀ stamp : FrameStamp,
      stamp.IsNewAmong (start.currentFrame? layer).toList →
      round.outcome layer = scheduler.outcomeAlone layer start (fates layer) stamp
  /-- Whatever happens to other layers makes no difference. -/
  unaffected : ∀ count round, scheduler.Run fates (.ofLayers start layers) count round →
    round.IsOver → ∀ others count' round',
      scheduler.Run others (.ofLayers start layers) count' round' → round'.IsOver →
      ∀ layer ∈ layers, others layer = fates layer → round'.outcome layer = round.outcome layer

/-- A round can be brought to its end. -/
theorem LayersApart.exists_isOver (h : scheduler.LayersApart start layers fates) :
    ∃ count round, scheduler.Run fates (.ofLayers start layers) count round ∧ round.IsOver := by
  by_contra hnever
  -- Otherwise there are runs of any length.
  have hrun : ∀ count, ∃ round, scheduler.Run fates (.ofLayers start layers) count round := by
    intro count
    induction count with
    | zero => exact ⟨_, .start⟩
    | succ count ih =>
        obtain ⟨round, hrun⟩ := ih
        rcases (h.ends count round hrun).2 with hover | ⟨next, hstep⟩
        · exact absurd ⟨count, round, hrun, hover⟩ hnever
        · exact ⟨next, hrun.step hstep⟩
  obtain ⟨round, hlong⟩ := hrun (7 * layers.length + 1)
  have hshort := (h.ends _ round hlong).1
  omega

/-- The result of a layer is the one of its update alone. -/
theorem LayersApart.results_eq (h : scheduler.LayersApart start layers fates) {count : Nat}
    (hrun : scheduler.Run fates (.ofLayers start layers) count round) (hover : round.IsOver)
    {layer : LayerId} (hlayer : layer ∈ layers) {stamp : FrameStamp}
    (hstamp : stamp.IsNewAmong (start.currentFrame? layer).toList)
    {result : Except UpdateError PublishOutcome} {event : Option Event}
    (halone : (scheduler.alone layer start (fates layer) stamp).1 = .finished result event) :
    (round.outcome layer).results = [result] := by
  have hresults : (scheduler.outcomeAlone layer start (fates layer) stamp).results = [result] := by
    simp [outcomeAlone, halone, Phase.endings, outcomeOf]
  rw [h.alone count round hrun hover layer hlayer stamp hstamp]
  exact hresults

/-- Two radials of three gates and one that was left out are published if their layer has no frame
yet. -/
theorem alone_publishes_droppedSample (scheduler : Scheduler) (hoptions : scheduler.options = {})
    {palette : Palette} (hpalette : scheduler.palettes.get? 94 = some palette)
    {store : FrameStore} {slot : Slot} {layer : LayerId} (hslot : store.get? layer = some slot)
    (hempty : slot.current = none) {site : Site}
    (hsite : scheduler.sites.lookup layer.site = .ok site) (hvalid : site.fault? = none)
    (stamp : FrameStamp) :
    ∃ event, (scheduler.alone layer store ⟨.ok droppedSample, false⟩ stamp).1 =
      .finished (.ok (.published none)) event := by
  have hplace : Georeference.ofSite site .wgs84 = .ok ⟨site, .wgs84⟩ := by
    rw [Georeference.ofSite, hvalid]
  obtain ⟨product, frame, -, hdecode, -, hbuild, -⟩ :=
    exists_mesh_droppedSample ⟨site, .wgs84⟩ stamp hpalette
  rw [← hoptions] at hbuild
  exact ⟨_, scheduler.alone_publishes layer hslot hempty hsite
    (scheduler.process_of_build layer hdecode hplace hbuild)⟩

/-- Updates of different layers at once do not interfere, in whatever order their steps come and
whatever goes wrong with any of them. -/
theorem layers_stay_apart {settings : Settings} (hsettings : settings.fault? = none)
    (scheduler : Scheduler) (hworkers : scheduler.workers = settings.workers)
    (start : FrameStore) {layers : List LayerId} (hlayers : layers.Nodup)
    (hconfigured : ∀ layer ∈ layers, start.contains layer = true) (fates : LayerId → Fate) :
    scheduler.LayersApart start layers fates := by
  have hsome : 0 < scheduler.workers := hworkers ▸ Settings.workers_pos hsettings
  have hapart : ∀ {fates : LayerId → Fate} {count : Nat} {round : Round},
      scheduler.Run fates (.ofLayers start layers) count round →
      scheduler.RunsApart start fates layers round := fun hrun =>
    hrun.runsApart hlayers hconfigured (runsApart_ofLayers scheduler start _ layers)
  constructor
  · intro count round hrun
    refine ⟨?_, (hapart hrun).isOver_or_step hsome⟩
    have hcount := hrun.count_add_stepsLeft_le hlayers hconfigured
      (runsApart_ofLayers scheduler start fates layers)
    have hall : (Round.ofLayers start layers).stepsLeft = 7 * layers.length := rfl
    omega
  · intro count round hrun hover
    refine ⟨?_, fun layer hlayer => ?_⟩
    · rw [Round.results, List.map_map]
      exact (hapart hrun).perm_of_isOver hover
    · obtain ⟨own, hown⟩ := exists_isNewAmong (start.currentFrame? layer)
      exact ((hapart hrun).outcome_eq hlayers hconfigured hover hlayer hown).1
  · exact fun layer response stamp => scheduler.alone_eq_update layer start response stamp
  · intro count round hrun hover layer hlayer stamp hstamp
    exact ((hapart hrun).outcome_eq hlayers hconfigured hover hlayer hstamp).2
  · intro count round hrun hover others count' round' hrun' hover' layer hlayer hsame
    obtain ⟨own, hown⟩ := exists_isNewAmong (start.currentFrame? layer)
    have hround := ((hapart hrun).outcome_eq hlayers hconfigured hover hlayer hown).2
    have hround' := ((hapart hrun').outcome_eq hlayers hconfigured hover' hlayer hown).2
    rw [hround', hsame, hround]

/-- A layer that is published beside one whose file is not there, one of an unknown site, and one
whose worker stops. -/
theorem layers_stay_apart_failures :
    let settings : Settings := { workers := 2 }
    let palettes : PaletteTable :=
      ⟨[(94, ⟨"Reflectivity", none, [⟨5.0, .opaqueColor 0 200 0, none⟩], standardRangeFolded⟩)]⟩
    let scheduler : Scheduler :=
      ⟨.standard, palettes, settings.buildOptions, settings.pollSeconds, settings.workers⟩
    let layers : List LayerId := [⟨"KFWS", 94⟩, ⟨"KTLX", 94⟩, ⟨"XXXX", 94⟩, ⟨"KVNX", 94⟩]
    let start := FrameStore.ofLayers layers
    let fates : LayerId → Fate := fun layer =>
      if layer.site = "KFWS" then ⟨.error (.notFound "KFWS" 94), false⟩
      else ⟨.ok droppedSample, layer.site = "KVNX"⟩
    settings.fault? = none ∧ scheduler.workers = settings.workers ∧ layers.Nodup ∧
      (∀ layer ∈ layers, start.contains layer = true) ∧
      scheduler.LayersApart start layers fates ∧
      ∃ count round, scheduler.Run fates (.ofLayers start layers) count round ∧ round.IsOver ∧
        (round.outcome ⟨"KFWS", 94⟩).results = [.error (.fetch (.notFound "KFWS" 94))] ∧
        (round.outcome ⟨"KTLX", 94⟩).results = [.ok (.published none)] ∧
        (round.outcome ⟨"XXXX", 94⟩).results = [.error (.site (.siteNotFound "XXXX"))] ∧
        (round.outcome ⟨"KVNX", 94⟩).results = [.error .workerGone] := by
  intro settings palettes scheduler layers start fates
  have hsettings : settings.fault? = none := by decide +kernel
  have hlayers : layers.Nodup := by decide
  have hconfigured : ∀ layer ∈ layers, start.contains layer = true := by decide
  have hapart := layers_stay_apart hsettings scheduler rfl start hlayers hconfigured fates
  obtain ⟨count, round, hrun, hover⟩ := hapart.exists_isOver
  -- No layer has a frame at the beginning, so that any stamp is new to it.
  have hslot : ∀ layer ∈ layers, start.get? layer = some {} :=
    fun layer hlayer => FrameStore.get?_ofLayers hlayer
  have hresults : ∀ layer ∈ layers, ∀ result event,
      (scheduler.alone layer start (fates layer) blankStamp).1 = .finished result event →
      (round.outcome layer).results = [result] := by
    intro layer hlayer result event
    refine hapart.results_eq hrun hover hlayer fun frame hframe => ?_
    rw [FrameStore.currentFrame?_of_slot (hslot layer hlayer)] at hframe
    cases hframe
  have hmissing : (⟨"KFWS", 94⟩ : LayerId) ∈ layers := by decide
  have hdrawn : (⟨"KTLX", 94⟩ : LayerId) ∈ layers := by decide
  have hunknown : (⟨"XXXX", 94⟩ : LayerId) ∈ layers := by decide
  have hstopped : (⟨"KVNX", 94⟩ : LayerId) ∈ layers := by decide
  have hfetch : (scheduler.start start ⟨"KFWS", 94⟩).1.receive (fates ⟨"KFWS", 94⟩).response =
      .failing (.fetch (.notFound "KFWS" 94)) := by
    have hsite : SiteCatalog.standard.lookup "KFWS" =
        .ok ⟨"KFWS", "Dallas/Ft. Worth, TX", 32.5730, -97.3031, 208.0⟩ := by decide +kernel
    rw [scheduler.phase_start _ (hslot _ hmissing), hsite]
    rfl
  have hsite : SiteCatalog.standard.lookup "KTLX" =
      .ok ⟨"KTLX", "Oklahoma City, OK", 35.3331, -97.2778, 370.0⟩ := by decide +kernel
  obtain ⟨event, hpublish⟩ := alone_publishes_droppedSample scheduler rfl rfl
    (hslot _ hdrawn) rfl hsite (by decide +kernel) blankStamp
  have hlookup : (scheduler.start start ⟨"XXXX", 94⟩).1.receive (fates ⟨"XXXX", 94⟩).response =
      .failing (.site (.siteNotFound "XXXX")) := by
    have hsite : SiteCatalog.standard.lookup "XXXX" = .error (.siteNotFound "XXXX") := by
      decide +kernel
    rw [scheduler.phase_start _ (hslot _ hunknown), hsite]
    rfl
  have hstop : SiteCatalog.standard.lookup "KVNX" =
      .ok ⟨"KVNX", "Vance AFB, OK", 36.7408, -98.1278, 369.0⟩ := by decide +kernel
  exact ⟨hsettings, rfl, hlayers, hconfigured, hapart, count, round, hrun, hover,
    hresults _ hmissing _ _ (scheduler.alone_fails _ rfl (hslot _ hmissing) hfetch),
    hresults _ hdrawn _ _ hpublish,
    hresults _ hunknown _ _ (scheduler.alone_fails _ rfl (hslot _ hunknown) hlookup),
    hresults _ hstopped _ _ (scheduler.alone_stops _ (hslot _ hstopped) hstop)⟩

end Scheduler

end WeatherRadar.Pipeline
