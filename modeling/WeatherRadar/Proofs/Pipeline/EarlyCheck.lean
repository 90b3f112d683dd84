import WeatherRadar.Proofs.Level3.RoundTrip
import WeatherRadar.Proofs.Pipeline.Comparison
/-!
# The early check for late products

A product that is not newer than the current frame is read but not drawn.  Two runs of one update
are compared: one with this check, and one that always draws and leaves the decision to the store.
If the product passes the check, the runs differ in nothing but the stamp of the frame
(`Lockstep`).  If it does not, neither run publishes anything, because the frame of the second run
stays behind the current one whatever others publish (`Hopeless`).
-/

namespace WeatherRadar.Render.Frame

open WeatherRadar.Geo WeatherRadar.Level3

theorem timestamp?_of_ingredients {product : Product Float} {palettes : PaletteTable}
    {found : Ingredients} (h : ingredients product palettes = .ok found) :
    product.header.timestamp? = some found.validTime := by
  simp only [ingredients, bind, Except.bind, pure, Except.pure, throw, throwThe,
    MonadExceptOf.throw] at h
  repeat' split at h
  all_goals cases h
  assumption

variable {product : Product Float} {georeference : Georeference} {palettes : PaletteTable}
  {options : BuildOptions}

theorem build_restamp (early late : FrameStamp) :
    build product georeference palettes options late =
      (build product georeference palettes options early).map (·.restamp late) := by
  simp only [build, bind, Except.bind]
  cases ingredients product palettes with
  | error error => rfl
  | ok found =>
      dsimp only
      split <;> rfl

theorem facts_of_build {stamp : FrameStamp} {frame : Frame}
    (h : build product georeference palettes options stamp = .ok frame) :
    frame.stamp = stamp ∧ product.header.timestamp? = some frame.validTime := by
  cases hfound : ingredients product palettes with
  | error error => simp [build, hfound, bind, Except.bind] at h
  | ok found =>
      simp only [build, hfound, bind, Except.bind] at h
      split at h
      · cases h
      · cases h
        exact ⟨rfl, timestamp?_of_ingredients hfound⟩

end WeatherRadar.Render.Frame

namespace WeatherRadar.Pipeline

open WeatherRadar.Geo WeatherRadar.Level3 WeatherRadar.Render

/-! ## Reading a file with and without the check -/

/-- The site or the contents of a product keep it from being drawn. -/
def UpdateError.IsDrawingFault (error : UpdateError) : Prop :=
  (∃ fault, error = .georeference fault) ∨ ∃ fault, error = .render fault

theorem UpdateError.IsDrawingFault.isStale {error : UpdateError} (h : error.IsDrawingFault) :
    error.isStale = false := by
  rcases h with ⟨fault, rfl⟩ | ⟨fault, rfl⟩ <;> rfl

theorem Phase.IsFrameless.finished_iff {phase phase' : Phase} (h : phase.IsFrameless)
    (h' : phase'.IsFrameless) (outcome : PublishOutcome) :
    (∃ event, phase = .finished (.ok outcome) event) ↔
      ∃ event, phase' = .finished (.ok outcome) event :=
  ⟨fun ⟨event, hend⟩ => absurd hend (h outcome event),
    fun ⟨event, hend⟩ => absurd hend (h' outcome event)⟩

theorem Phase.ofError_of_not_stale {error : UpdateError} (h : error.isStale = false) :
    Phase.ofError error = .failing error := by
  cases error with
  | stale named candidate current => cases h
  | _ => rfl

namespace Scheduler

variable (scheduler : Scheduler) (layer : LayerId) (site : Site) (bytes : List UInt8)

theorem buildFrame_restamp (product : Product Float) (early late : FrameStamp) :
    scheduler.buildFrame site product late =
      (scheduler.buildFrame site product early).map (·.restamp late) := by
  simp only [buildFrame, bind, Except.bind]
  cases Georeference.ofSite site .wgs84 with
  | error error => rfl
  | ok georeference =>
      simp only [mapError_ok]
      rw [Frame.build_restamp early late]
      cases Frame.build product georeference scheduler.palettes scheduler.options early <;> rfl

theorem facts_of_buildFrame {product : Product Float} {stamp : FrameStamp} {frame : Frame}
    (h : scheduler.buildFrame site product stamp = .ok frame) :
    frame.stamp = stamp ∧ product.header.timestamp? = some frame.validTime := by
  simp only [buildFrame, bind, Except.bind] at h
  split at h
  · cases h
  · rename_i georeference _
    cases hbuild : Frame.build product georeference scheduler.palettes scheduler.options stamp with
    | error error =>
        rw [hbuild] at h
        cases h
    | ok drawn =>
        rw [hbuild] at h
        cases h
        exact Frame.facts_of_build hbuild

theorem isDrawingFault_of_buildFrame {product : Product Float} {stamp : FrameStamp}
    {error : UpdateError} (h : scheduler.buildFrame site product stamp = .error error) :
    error.IsDrawingFault := by
  simp only [buildFrame, bind, Except.bind] at h
  cases hsite : Georeference.ofSite site .wgs84 with
  | error fault =>
      rw [hsite] at h
      cases h
      exact Or.inl ⟨fault, rfl⟩
  | ok georeference =>
      rw [hsite] at h
      simp only [mapError_ok] at h
      cases hbuild :
          Frame.build product georeference scheduler.palettes scheduler.options stamp with
      | ok frame =>
          rw [hbuild] at h
          cases h
      | error fault =>
          rw [hbuild] at h
          cases h
          exact Or.inr ⟨fault, rfl⟩

theorem requireNewer_cases (candidate current : Option Instant) :
    requireNewer layer candidate current = .ok () ∨
    ∃ time now, candidate = some time ∧ current = some now ∧ time ≤ now := by
  cases candidate with
  | none => exact Or.inl rfl
  | some time =>
      cases current with
      | none => exact Or.inl rfl
      | some now =>
          by_cases hle : time ≤ now
          · exact Or.inr ⟨time, now, rfl, rfl, hle⟩
          · exact Or.inl (by simp [requireNewer, hle])

theorem requireNewer_none (candidate : Option Instant) :
    requireNewer layer candidate none = .ok () := by
  cases candidate <;> rfl

/-- A product that the check lets pass is treated as without the check. -/
structure Passes (current : Option Instant) (early late : FrameStamp) : Prop where
  restamped : scheduler.process layer site bytes none late =
    (scheduler.process layer site bytes current early).map (·.restamp late)
  stamp : ∀ frame, scheduler.process layer site bytes current early = .ok frame →
    frame.stamp = early
  fault : ∀ error, scheduler.process layer site bytes current early = .error error →
    error.isStale = false

/-- A product that the check stops would be drawn with the time that the check has seen, if it can
be drawn at all. -/
structure Stops (candidate now : Instant) (early late : FrameStamp) : Prop where
  le : candidate ≤ now
  stopped : scheduler.process layer site bytes (some now) early =
    .error (.stale layer candidate now)
  drawn : ∀ frame, scheduler.process layer site bytes none late = .ok frame →
    frame.stamp = late ∧ frame.validTime = candidate
  fault : ∀ error, scheduler.process layer site bytes none late = .error error →
    error.IsDrawingFault

theorem process_of_fault {fault : Level3.Error}
    (hdecode : (decode bytes : Except Level3.Error (Product Float)) = .error fault)
    (current : Option Instant) (stamp : FrameStamp) :
    scheduler.process layer site bytes current stamp = .error (.decode fault) := by
  simp only [process, hdecode]
  rfl

theorem process_of_product {product : Product Float} (hdecode : decode bytes = .ok product)
    (current : Option Instant) (stamp : FrameStamp) :
    scheduler.process layer site bytes current stamp =
      (requireNewer layer product.header.timestamp? current).bind fun _ =>
        scheduler.buildFrame site product stamp := by
  simp only [process, hdecode]
  rfl

theorem process_unchecked {product : Product Float} (hdecode : decode bytes = .ok product)
    (stamp : FrameStamp) :
    scheduler.process layer site bytes none stamp = scheduler.buildFrame site product stamp := by
  rw [process_of_product scheduler layer site bytes hdecode, requireNewer_none]
  rfl

theorem passes_of_newer {product : Product Float} (hdecode : decode bytes = .ok product)
    {current : Option Instant}
    (hnewer : requireNewer layer product.header.timestamp? current = .ok ())
    (early late : FrameStamp) : scheduler.Passes layer site bytes current early late := by
  have hchecked : scheduler.process layer site bytes current early =
      scheduler.buildFrame site product early := by
    rw [process_of_product scheduler layer site bytes hdecode, hnewer]
    rfl
  constructor
  · rw [process_unchecked scheduler layer site bytes hdecode, hchecked]
    exact scheduler.buildFrame_restamp site product early late
  · intro frame hframe
    rw [hchecked] at hframe
    exact (scheduler.facts_of_buildFrame site hframe).1
  · intro error herror
    rw [hchecked] at herror
    exact (scheduler.isDrawingFault_of_buildFrame site herror).isStale

theorem stops_of_stale {product : Product Float} (hdecode : decode bytes = .ok product)
    {candidate now : Instant} (hcandidate : product.header.timestamp? = some candidate)
    (hle : candidate ≤ now) (early late : FrameStamp) :
    scheduler.Stops layer site bytes candidate now early late := by
  constructor
  · exact hle
  · rw [process_of_product scheduler layer site bytes hdecode, hcandidate]
    simp only [requireNewer, if_pos hle]
    rfl
  · intro frame hframe
    rw [process_unchecked scheduler layer site bytes hdecode] at hframe
    obtain ⟨hstamp, htime⟩ := scheduler.facts_of_buildFrame site hframe
    rw [hcandidate] at htime
    exact ⟨hstamp, (Option.some.inj htime).symm⟩
  · intro error herror
    rw [process_unchecked scheduler layer site bytes hdecode] at herror
    exact scheduler.isDrawingFault_of_buildFrame site herror

theorem passes_or_stops (current : Option Instant) (early late : FrameStamp) :
    scheduler.Passes layer site bytes current early late ∨
    ∃ candidate now, current = some now ∧
      scheduler.Stops layer site bytes candidate now early late := by
  cases hdecode : (decode bytes : Except Level3.Error (Product Float)) with
  | error fault =>
      have hprocess := scheduler.process_of_fault layer site bytes hdecode
      refine Or.inl ⟨?_, ?_, ?_⟩
      · rw [hprocess, hprocess]
        rfl
      · intro frame hframe
        rw [hprocess] at hframe
        cases hframe
      · intro error herror
        rw [hprocess] at herror
        cases herror
        rfl
  | ok product =>
      rcases requireNewer_cases layer product.header.timestamp? current with hnewer |
          ⟨candidate, now, hcandidate, rfl, hle⟩
      · exact Or.inl (scheduler.passes_of_newer layer site bytes hdecode hnewer early late)
      · exact Or.inr ⟨candidate, now, rfl,
          scheduler.stops_of_stale layer site bytes hdecode hcandidate hle early late⟩

/-- Where an update is when it has read its file and compared it with a valid time. -/
def afterReading (current : Option Instant) (stamp : FrameStamp) : Phase :=
  match scheduler.process layer site bytes current stamp with
  | .ok frame => .built frame
  | .error error => .ofError error

theorem isFrameless_afterReading (current : Option Instant) (stamp : FrameStamp) :
    (scheduler.afterReading layer site bytes current stamp).IsFrameless := by
  intro outcome event
  simp only [afterReading]
  split
  · simp
  · rename_i error _
    cases error <;> simp [Phase.ofError]

theorem step_reading (stamp : FrameStamp) (store : FrameStore) :
    scheduler.step layer stamp (.reading site bytes, store) =
      (scheduler.afterReading layer site bytes ((store.currentFrame? layer).map (·.validTime))
        stamp, store) := by
  simp only [step, afterReading]
  cases scheduler.process layer site bytes ((store.currentFrame? layer).map (·.validTime)) stamp <;>
    rfl

end Scheduler

/-! ## Layers that are not configured -/

namespace Scheduler

variable (scheduler : Scheduler) (layer : LayerId)

theorem turn_of_not_contains (turn : Turn) {phase : Phase} {store : FrameStore}
    (hstore : store.get? layer = none) (hphase : phase.IsFrameless) :
    (scheduler.turn layer turn (phase, store)).2.get? layer = none ∧
      (scheduler.turn layer turn (phase, store)).1.IsFrameless := by
  have hothers : (store.calls turn.others).get? layer = none := by
    rw [FrameStore.get?_calls, hstore, Option.map_none]
  refine ⟨by rw [store_turn, FrameStore.get?_calls, hothers, Option.map_none], ?_⟩
  have hupdate := FrameStore.update_of_not_contains hothers
  cases phase with
  | fetching site => simp [Scheduler.turn, Phase.isReading, step, Phase.IsFrameless]
  | finished result event => rwa [turn_finished]
  | reading site bytes =>
      simp only [Scheduler.turn, step_reading]
      split
      · simp [Phase.IsFrameless]
      · exact scheduler.isFrameless_afterReading layer site bytes _ _
  | built frame =>
      simp [Scheduler.turn, Phase.isReading, step, FrameStore.markBuilt, hupdate,
        Phase.IsFrameless]
  | publishing frame =>
      simp [Scheduler.turn, Phase.isReading, step, FrameStore.publish, hothers,
        Phase.IsFrameless]
  | late candidate current =>
      simp [Scheduler.turn, Phase.isReading, step, FrameStore.rejectStale, hupdate,
        Phase.IsFrameless]
  | failing error =>
      simp [Scheduler.turn, Phase.isReading, step, FrameStore.recordFailure, hupdate,
        Phase.IsFrameless]

theorem turns_of_not_contains (turns : List Turn) {phase : Phase} {store : FrameStore}
    (hstore : store.get? layer = none) (hphase : phase.IsFrameless) :
    (scheduler.turns layer turns (phase, store)).2.get? layer = none ∧
      (scheduler.turns layer turns (phase, store)).1.IsFrameless := by
  induction turns generalizing phase store with
  | nil => exact ⟨hstore, hphase⟩
  | cons turn turns ih =>
      obtain ⟨hnext, hframeless⟩ :=
        scheduler.turn_of_not_contains layer turn hstore hphase
      exact ih hnext hframeless

/-! ## The two runs -/

variable (site : Site) (bytes : List UInt8) (store : FrameStore) (turns : List Turn)

/-- An update that has its file, with the check of its product, and then its turns with others. -/
def checkedRun (stamp : FrameStamp) : Phase × FrameStore :=
  scheduler.turns layer turns (scheduler.step layer stamp (.reading site bytes, store))

def uncheckedRun (stamp : FrameStamp) : Phase × FrameStore :=
  scheduler.turns layer turns (scheduler.afterReading layer site bytes none stamp, store)

/-- The check spares the drawing of products, and changes nothing else. -/
structure CheckChangesNothing (early late : FrameStamp) : Prop where
  /-- The same frame is current afterwards, up to its stamp. -/
  current : ∀ stamp,
    ((scheduler.checkedRun layer site bytes store turns early).2.currentFrame? layer).map
        (·.restamp stamp) =
      ((scheduler.uncheckedRun layer site bytes store turns late).2.currentFrame? layer).map
        (·.restamp stamp)
  /-- Either both runs publish their frames, and in place of the same one, or none does. -/
  published : ∀ superseded,
    (∃ event, (scheduler.checkedRun layer site bytes store turns early).1 =
        .finished (.ok (.published superseded)) event) ↔
      ∃ event, (scheduler.uncheckedRun layer site bytes store turns late).1 =
        .finished (.ok (.published superseded)) event
  /-- An update that the check stops would have ended as late with the same time, or with a fault
  of the site or the drawing. -/
  stopped : ∀ named candidate now, scheduler.process layer site bytes
      ((store.currentFrame? layer).map (·.validTime)) early =
        .error (.stale named candidate now) → 3 ≤ turns.length →
    (∃ event, (scheduler.checkedRun layer site bytes store turns early).1 =
        .finished (.error (.stale layer candidate now)) event) ∧
      ∃ error event, (scheduler.uncheckedRun layer site bytes store turns late).1 =
        .finished (.error error) event ∧
        ((∃ later, now ≤ later ∧ error = .stale layer candidate later) ∨ error.IsDrawingFault)

variable {scheduler layer site bytes store turns} {early late : FrameStamp} {slot : Slot}

theorem Passes.lockstep {current : Option Instant}
    (h : scheduler.Passes layer site bytes current early late)
    (hearly : early.IsNewAmong slot.current.toList) (hlate : late.IsNewAmong slot.current.toList) :
    Lockstep early late slot slot (scheduler.afterReading layer site bytes current early)
      (scheduler.afterReading layer site bytes none late) := by
  simp only [afterReading, h.restamped]
  cases hprocess : scheduler.process layer site bytes current early with
  | ok frame => exact .built (h.stamp frame hprocess) ⟨rfl, hearly, hlate⟩
  | error error =>
      have herror := h.fault error hprocess
      simp only [Except.map, Phase.ofError_of_not_stale herror]
      exact .failing herror ⟨rfl, hearly, hlate⟩

theorem Stops.hopeless {candidate now : Instant}
    (h : scheduler.Stops layer site bytes candidate now early late) {current : Frame}
    (hslot : slot.current = some current) (hnow : current.validTime = now)
    (hlate : late.IsNewAmong slot.current.toList) :
    let phase := scheduler.afterReading layer site bytes none late
    Hopeless layer late
        (fun error => (∃ later, now ≤ later ∧ error = .stale layer candidate later) ∨
          error.IsDrawingFault) slot phase ∧
      phase.isActive = true ∧ phase.stepsLeft ≤ 3 := by
  simp only [afterReading]
  cases hprocess : scheduler.process layer site bytes none late with
  | ok frame =>
      obtain ⟨hstamp, htime⟩ := h.drawn frame hprocess
      refine ⟨.built hslot ⟨hstamp, hlate current (by simp [hslot]), ?_, ?_⟩, rfl, Nat.le_refl 3⟩
      · rw [htime, hnow]
        exact h.le
      · intro later hlater
        rw [hnow] at hlater
        rw [htime]
        exact Or.inl ⟨later, hlater, rfl⟩
  | error error =>
      have hfault := h.fault error hprocess
      have herror := hfault.isStale
      simp only [Phase.ofError_of_not_stale herror]
      exact ⟨.failing herror (Or.inr hfault), by simp [Phase.isActive, herror],
        by simp [Phase.stepsLeft]⟩

theorem changesNothing_of_passes (hslot : store.get? layer = some slot)
    (h : scheduler.Passes layer site bytes ((store.currentFrame? layer).map (·.validTime)) early
      late)
    (hearly : early.IsNewAmong ((store.currentFrame? layer).toList ++
      FrameStore.submitted layer (turns.flatMap (·.others))))
    (hlate : late.IsNewAmong ((store.currentFrame? layer).toList ++
      FrameStore.submitted layer (turns.flatMap (·.others)))) :
    scheduler.CheckChangesNothing layer site bytes store turns early late := by
  have hcurrent := FrameStore.currentFrame?_of_slot hslot
  have hstart := h.lockstep (hcurrent ▸ hearly.left) (hcurrent ▸ hlate.left)
  obtain ⟨last, last', hlast, hlast', hlockstep⟩ :=
    hstart.turns scheduler hslot hslot hearly.right hlate.right
  rw [← step_reading] at hlast hlockstep
  constructor
  · intro stamp
    rw [checkedRun, uncheckedRun, FrameStore.currentFrame?_of_slot hlast,
      FrameStore.currentFrame?_of_slot hlast']
    exact hlockstep.mirrors.restamp_eq stamp
  · intro superseded
    exact hlockstep.finished_iff _
  · intro named candidate now hstale
    cases h.fault _ hstale

theorem changesNothing_of_stops (hslot : store.get? layer = some slot) {current : Frame}
    (hcurrent : slot.current = some current) {candidate : Instant}
    (h : scheduler.Stops layer site bytes candidate current.validTime early late)
    (hlate : late.IsNewAmong ((store.currentFrame? layer).toList ++
      FrameStore.submitted layer (turns.flatMap (·.others)))) :
    scheduler.CheckChangesNothing layer site bytes store turns early late := by
  have hdisplay : store.currentFrame? layer = some current :=
    (FrameStore.currentFrame?_of_slot hslot).trans hcurrent
  have hstopped : scheduler.process layer site bytes
      ((store.currentFrame? layer).map (·.validTime)) early =
        .error (.stale layer candidate current.validTime) := by
    rw [hdisplay]
    exact h.stopped
  have hstep : scheduler.step layer early (.reading site bytes, store) =
      (.late candidate current.validTime, store) := by
    rw [step_reading, afterReading, hstopped]
    rfl
  have hchecked : Hopeless layer late (· = .stale layer candidate current.validTime) slot
      (.late candidate current.validTime) := .late rfl
  obtain ⟨hunchecked, hactive, hsteps⟩ := h.hopeless hcurrent rfl (by
    rw [hcurrent, ← hdisplay]
    exact hlate.left)
  obtain ⟨last, hlast, hshown, hend⟩ :=
    hchecked.turns scheduler hslot hlate.right
  obtain ⟨last', hlast', hshown', hend'⟩ :=
    hunchecked.turns scheduler hslot hlate.right
  rw [← hstep] at hlast hend
  constructor
  · intro stamp
    rw [checkedRun, uncheckedRun, FrameStore.currentFrame?_of_slot hlast,
      FrameStore.currentFrame?_of_slot hlast', hshown, hshown']
  · intro superseded
    exact hend.isFrameless.finished_iff hend'.isFrameless _
  · intro named time now hstale hturns
    rw [hstopped] at hstale
    cases hstale
    constructor
    · obtain ⟨error, event, hfinished, rfl⟩ := hchecked.ends scheduler rfl
        (Nat.le_trans (by decide : 2 ≤ 3) hturns) hslot hlate.right
      exact ⟨event, by rw [checkedRun, hstep, hfinished]⟩
    · exact hunchecked.ends scheduler hactive (Nat.le_trans hsteps hturns) hslot hlate.right

theorem changesNothing_of_not_contains (hstore : store.get? layer = none) :
    scheduler.CheckChangesNothing layer site bytes store turns early late := by
  have hdisplay : ∀ {store : FrameStore}, store.get? layer = none →
      store.currentFrame? layer = none := by
    intro store hstore
    simp [FrameStore.currentFrame?, hstore]
  obtain ⟨hlast, hend⟩ := scheduler.turns_of_not_contains layer turns hstore
    (scheduler.isFrameless_afterReading layer site bytes
      ((store.currentFrame? layer).map (·.validTime)) early)
  obtain ⟨hlast', hend'⟩ := scheduler.turns_of_not_contains layer turns hstore
    (scheduler.isFrameless_afterReading layer site bytes none late)
  rw [← step_reading] at hlast hend
  constructor
  · intro stamp
    rw [checkedRun, uncheckedRun, hdisplay hlast, hdisplay hlast']
  · intro superseded
    exact hend.finished_iff hend' _
  · intro named candidate now hstale
    rcases scheduler.passes_or_stops layer site bytes
        ((store.currentFrame? layer).map (·.validTime)) early late with hpasses |
        ⟨candidate, now, hnow, -⟩
    · cases hpasses.fault _ hstale
    · rw [hdisplay hstore] at hnow
      cases hnow

/-- The early check changes nothing about what a layer displays, whatever others do before the
update is done, if the ids of the two stamps are not in use. -/
theorem early_check_changes_nothing (scheduler : Scheduler) (layer : LayerId) (site : Site)
    (bytes : List UInt8) (store : FrameStore) (turns : List Turn) (early late : FrameStamp)
    (hearly : early.IsNewAmong ((store.currentFrame? layer).toList ++
      FrameStore.submitted layer (turns.flatMap (·.others))))
    (hlate : late.IsNewAmong ((store.currentFrame? layer).toList ++
      FrameStore.submitted layer (turns.flatMap (·.others)))) :
    scheduler.CheckChangesNothing layer site bytes store turns early late := by
  cases hslot : store.get? layer with
  | none => exact changesNothing_of_not_contains hslot
  | some slot =>
      rcases scheduler.passes_or_stops layer site bytes
          ((store.currentFrame? layer).map (·.validTime)) early late with hpasses |
          ⟨candidate, now, hnow, hstops⟩
      · exact changesNothing_of_passes hslot hpasses hearly hlate
      · obtain ⟨current, hcurrent, rfl⟩ := Option.map_eq_some_iff.1 hnow
        rw [FrameStore.currentFrame?_of_slot hslot] at hcurrent
        exact changesNothing_of_stops hslot hcurrent hstops hlate

/-- The scan that is displayed already comes again, and another update publishes a later one before
this one is done. -/
theorem early_check_changes_nothing_same_scan :
    let scheduler : Scheduler := ⟨.empty, .empty, {}, 60, 2⟩
    let layer : LayerId := ⟨"KTLX", 94⟩
    let site : Site := .unnamed "KTLX" 35.3331 (-97.2778) 370.0
    let bytes := sampleMessage.toBytes ++ sampleDescription.toBytes ++ sampleBlock
    let store := (FrameStore.ofLayers [layer]).calls [(layer, .beginUpdate),
      (layer, .publish (FrameStore.blankFrame 1 1641513660)), (layer, .beginUpdate)]
    let turns : List Turn := [⟨[(layer, .beginUpdate)], ⟨3, ⟨0⟩⟩, false⟩,
      ⟨[(layer, .publish (FrameStore.blankFrame 2 1641513960))], ⟨3, ⟨0⟩⟩, false⟩,
      ⟨[], ⟨3, ⟨0⟩⟩, false⟩]
    let early : FrameStamp := ⟨3, ⟨0⟩⟩
    let late : FrameStamp := ⟨4, ⟨5⟩⟩
    let frames := (store.currentFrame? layer).toList ++
      FrameStore.submitted layer (turns.flatMap (·.others))
    early.IsNewAmong frames ∧ late.IsNewAmong frames ∧ 3 ≤ turns.length ∧
      scheduler.process layer site bytes ((store.currentFrame? layer).map (·.validTime)) early =
        .error (.stale layer ⟨1641513660⟩ ⟨1641513660⟩) ∧
      scheduler.CheckChangesNothing layer site bytes store turns early late := by
  intro scheduler layer site bytes store turns early late frames
  have hframes : frames =
      [FrameStore.blankFrame 1 1641513660, FrameStore.blankFrame 2 1641513960] := rfl
  have hearly : early.IsNewAmong frames := by
    rw [hframes]
    simp [FrameStamp.IsNewAmong, FrameStore.blankFrame, early]
  have hlate : late.IsNewAmong frames := by
    rw [hframes]
    simp [FrameStamp.IsNewAmong, FrameStore.blankFrame, late]
  have htime : ((decode bytes : Except Level3.Error (Product Float)).toOption.any fun product =>
      decide (product.header.timestamp? = some ⟨1641513660⟩)) = true := by
    decide +kernel
  obtain ⟨product, hdecode, hproduct⟩ := exists_ok_of_any htime
  have hstops := scheduler.stops_of_stale layer site bytes hdecode (of_decide_eq_true hproduct)
    (Int.le_refl _) early late
  exact ⟨hearly, hlate, by decide, hstops.stopped,
    early_check_changes_nothing scheduler layer site bytes store turns early late hearly hlate⟩

end Scheduler

end WeatherRadar.Pipeline
