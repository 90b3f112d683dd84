import WeatherRadar.Level3.Reading
import WeatherRadar.Proofs.Pipeline.Calls
/-!
# The newest frame wins

Frames may be finished in any order.  Whatever calls come in between, the current frame of a layer
is the first one that was submitted among those with the greatest valid time, and it is replaced
only by a later one.  `Displays` is the invariant that one call keeps (`Displays.step`) and
therefore a whole course (`Displays.run`).
-/

namespace WeatherRadar.Pipeline

open WeatherRadar.Level3 WeatherRadar.Render

theorem instant_lt_iff {s t : Instant} : s < t ↔ s.seconds < t.seconds := Iff.rfl

theorem instant_le_iff {s t : Instant} : s ≤ t ↔ s.seconds ≤ t.seconds := Iff.rfl

/-! ## The first of the newest frames -/

/-- A frame is the first one among those with the greatest valid time. -/
def IsFirstNewest (frames : List Frame) (frame : Frame) : Prop :=
  ∃ earlier later, frames = earlier ++ frame :: later ∧
    (∀ f ∈ earlier, f.validTime < frame.validTime) ∧ ∀ f ∈ later, f.validTime ≤ frame.validTime

namespace IsFirstNewest

variable {frames : List Frame} {frame other : Frame}

theorem mem (h : IsFirstNewest frames frame) : frame ∈ frames := by
  obtain ⟨earlier, later, rfl, -, -⟩ := h
  simp

theorem le (h : IsFirstNewest frames frame) (hother : other ∈ frames) :
    other.validTime ≤ frame.validTime := by
  obtain ⟨earlier, later, rfl, hearlier, hlater⟩ := h
  rcases List.mem_append.1 hother with hmem | hmem
  · exact Int.le_of_lt (hearlier other hmem)
  · rcases List.mem_cons.1 hmem with rfl | hmem
    · exact Int.le_refl _
    · exact hlater other hmem

theorem concat (hnewer : ∀ f ∈ frames, f.validTime < frame.validTime) :
    IsFirstNewest (frames ++ [frame]) frame :=
  ⟨frames, [], rfl, hnewer, by simp⟩

theorem append {more : List Frame} (h : IsFirstNewest frames frame)
    (hmore : ∀ f ∈ more, f.validTime ≤ frame.validTime) :
    IsFirstNewest (frames ++ more) frame := by
  obtain ⟨earlier, later, rfl, hearlier, hlater⟩ := h
  refine ⟨earlier, later ++ more, by simp, hearlier, ?_⟩
  intro f hf
  rcases List.mem_append.1 hf with hmem | hmem
  · exact hlater f hmem
  · exact hmore f hmem

theorem unique (h : IsFirstNewest frames frame) (hother : IsFirstNewest frames other) :
    frame = other := by
  obtain ⟨earlier, later, hsplit, hearlier, hlater⟩ := h
  obtain ⟨earlier', later', hsplit', hearlier', hlater'⟩ := hother
  rw [hsplit] at hsplit'
  -- If the two stood at different places, the first would be both older and not older.
  rcases List.append_eq_append_iff.1 hsplit' with ⟨between, hbefore, hafter⟩ |
      ⟨between, hbefore, hafter⟩
  · cases between with
    | nil => simpa using (List.cons.inj hafter).1
    | cons f between =>
        obtain ⟨rfl, rfl⟩ := List.cons.inj hafter
        have hlt : frame.validTime < other.validTime := hearlier' frame (by simp [hbefore])
        have hle : other.validTime ≤ frame.validTime := hlater other (by simp)
        rw [instant_lt_iff] at hlt
        rw [instant_le_iff] at hle
        omega
  · cases between with
    | nil => simpa using ((List.cons.inj hafter).1).symm
    | cons f between =>
        obtain ⟨rfl, rfl⟩ := List.cons.inj hafter
        have hlt : other.validTime < frame.validTime := hearlier other (by simp [hbefore])
        have hle : frame.validTime ≤ other.validTime := hlater' frame (by simp)
        rw [instant_lt_iff] at hlt
        rw [instant_le_iff] at hle
        omega

theorem eq_of_perm {frames' : List Frame} (hperm : frames.Perm frames')
    (htimes : ∀ f ∈ frames, ∀ g ∈ frames, f.validTime = g.validTime → f = g)
    (h : IsFirstNewest frames frame) (hother : IsFirstNewest frames' other) : frame = other := by
  have hmem : other ∈ frames := hperm.mem_iff.2 hother.mem
  have hle : other.validTime ≤ frame.validTime := h.le hmem
  have hge : frame.validTime ≤ other.validTime := hother.le (hperm.mem_iff.1 h.mem)
  apply htimes frame h.mem other hmem
  rw [instant_le_iff] at hle hge
  cases hf : frame.validTime
  cases hg : other.validTime
  simp only [hf, hg] at hle hge
  congr
  omega

end IsFirstNewest

/-! ## Left-to-right maxima -/

/-- The number of times that are greater than all times before them. -/
def strictMaxima (times : List Instant) : Nat :=
  times.zipIdx.countP fun (time, place) => (times.take place).all (· < time)

theorem strictMaxima_concat (times : List Instant) (time : Instant) :
    strictMaxima (times ++ [time]) =
      strictMaxima times + if times.all (· < time) then 1 else 0 := by
  have hbefore : times.zipIdx.countP (fun (t, place) =>
        ((times ++ [time]).take place).all (· < t)) = strictMaxima times := by
    apply List.countP_congr
    rintro ⟨t, place⟩ hmem
    have hplace : place < times.length := (List.mem_zipIdx' hmem).1
    dsimp only
    rw [List.take_append_of_le_length (Nat.le_of_lt hplace)]
  rw [strictMaxima, List.zipIdx_append, List.countP_append, hbefore]
  simp [List.countP_cons]

/-! ## What a layer displays -/

def StoreCall.frames (calls : List StoreCall) : List Frame := calls.filterMap StoreCall.frame?

@[simp] theorem StoreCall.frames_nil : StoreCall.frames [] = [] := rfl

theorem StoreCall.frames_cons (call : StoreCall) (calls : List StoreCall) :
    StoreCall.frames (call :: calls) = call.frame?.toList ++ StoreCall.frames calls := by
  cases call <;> rfl

/-- A slot displays the first newest of some frames, and has counted the maxima among them. -/
structure Displays (slot : Slot) (frames : List Frame) : Prop where
  frames_nil : slot.current = none → frames = []
  newest : ∀ frame, slot.current = some frame → IsFirstNewest frames frame
  generation : slot.generation = strictMaxima (frames.map (·.validTime))

namespace Displays

variable {slot : Slot} {frames : List Frame}

theorem empty : Displays {} [] where
  frames_nil _ := rfl
  newest frame h := by cases h
  generation := rfl

theorem current_eq_some_iff (h : Displays slot frames) (frame : Frame) :
    slot.current = some frame ↔ IsFirstNewest frames frame := by
  constructor
  · exact h.newest frame
  · intro hnewest
    cases hcurrent : slot.current with
    | none =>
        have hmem := hnewest.mem
        simp [h.frames_nil hcurrent] at hmem
    | some current => rw [(h.newest current hcurrent).unique hnewest]

theorem of_current_eq {slot' : Slot} (h : Displays slot frames)
    (hcurrent : slot'.current = slot.current) (hgeneration : slot'.generation = slot.generation) :
    Displays slot' frames where
  frames_nil hnone := h.frames_nil (hcurrent ▸ hnone)
  newest frame hframe := h.newest frame (hcurrent ▸ hframe)
  generation := hgeneration.trans h.generation

theorem concat_of_le {slot' : Slot} {current frame : Frame} (h : Displays slot frames)
    (hslot : slot.current = some current) (hle : frame.validTime ≤ current.validTime)
    (hcurrent : slot'.current = slot.current) (hgeneration : slot'.generation = slot.generation) :
    Displays slot' (frames ++ [frame]) where
  frames_nil hnone := by simp [hcurrent, hslot] at hnone
  newest f hf := by
    obtain rfl : current = f := by simpa [hcurrent, hslot] using hf
    exact (h.newest current hslot).append (by simpa using hle)
  generation := by
    have hold : (frames.map (·.validTime)).all (· < frame.validTime) = false := by
      rw [List.all_eq_false]
      refine ⟨current.validTime, List.mem_map_of_mem (h.newest current hslot).mem, ?_⟩
      rw [decide_eq_true_iff, instant_lt_iff]
      rw [instant_le_iff] at hle
      omega
    rw [hgeneration, h.generation, List.map_append, List.map_singleton, strictMaxima_concat, hold]
    rfl

theorem concat_accepted {frame : Frame} (h : Displays slot frames)
    (hnewer : ∀ f ∈ frames, f.validTime < frame.validTime) :
    Displays (slot.accept frame) (frames ++ [frame]) where
  frames_nil hnone := by cases hnone
  newest f hf := by
    obtain rfl : frame = f := Option.some.inj hf
    exact IsFirstNewest.concat hnewer
  generation := by
    have hall : (frames.map (·.validTime)).all (· < frame.validTime) = true := by
      simpa using hnewer
    rw [List.map_append, List.map_singleton, strictMaxima_concat, hall, ← h.generation]
    rfl

/-- Offering a frame.  The test for the same frame comes before that for a later time, and decides
nothing else, because frames with one id are one frame. -/
theorem offer {frame : Frame} (h : Displays slot frames)
    (hids : ∀ f ∈ frames, f.stamp.id = frame.stamp.id → f = frame) :
    Displays (slot.after (.publish frame)) (frames ++ [frame]) := by
  cases hcurrent : slot.current with
  | none =>
      have hoffer : slot.offer frame = .accepted none := by simp [Slot.offer, hcurrent]
      simp only [Slot.after, hoffer]
      exact h.concat_accepted (by simp [h.frames_nil hcurrent])
  | some current =>
      have hnewest := h.newest current hcurrent
      by_cases hid : current.stamp.id = frame.stamp.id
      · have hoffer : slot.offer frame = .unchanged := by simp [Slot.offer, hcurrent, hid]
        have hsame : current = frame := hids current hnewest.mem hid
        simp only [Slot.after, hoffer]
        exact h.concat_of_le hcurrent (hsame ▸ Int.le_refl _) rfl rfl
      · by_cases hnewer : current.validTime < frame.validTime
        · have hoffer : slot.offer frame = .accepted (some current.stamp.id) := by
            simp [Slot.offer, hcurrent, hid, Frame.isNewerThan, hnewer]
          simp only [Slot.after, hoffer]
          apply h.concat_accepted
          intro f hf
          have hle := hnewest.le hf
          rw [instant_lt_iff] at hnewer ⊢
          rw [instant_le_iff] at hle
          omega
        · have hoffer : slot.offer frame = .stale current.validTime := by
            simp [Slot.offer, hcurrent, hid, Frame.isNewerThan, hnewer]
          simp only [Slot.after, hoffer]
          exact h.concat_of_le hcurrent (Int.not_lt.1 hnewer) rfl rfl

theorem step {call : StoreCall} (h : Displays slot frames)
    (hids : ∀ f ∈ frames, ∀ frame, call = .publish frame → f.stamp.id = frame.stamp.id →
      f = frame) :
    Displays (slot.after call) (frames ++ call.frame?.toList) := by
  cases call with
  | publish frame => exact h.offer fun f hf hid => hids f hf frame rfl hid
  | beginUpdate | markBuilt | recordFailure | rejectStale =>
      simp only [StoreCall.frame?, Option.toList_none, List.append_nil]
      exact h.of_current_eq rfl rfl

theorem run (calls : List StoreCall) (h : Displays slot frames)
    (hids : ∀ f ∈ frames ++ StoreCall.frames calls, ∀ g ∈ frames ++ StoreCall.frames calls,
      f.stamp.id = g.stamp.id → f = g) :
    Displays (slot.afterAll calls) (frames ++ StoreCall.frames calls) := by
  induction calls generalizing slot frames with
  | nil => simpa using h
  | cons call calls ih =>
      rw [StoreCall.frames_cons, ← List.append_assoc] at hids ⊢
      apply ih
      · apply h.step
        rintro f hf frame rfl hid
        exact hids f (by simp [hf]) frame (by simp [StoreCall.frame?]) hid
      · exact hids

/-- Where no two frames share a valid time, it does not matter in which order they came. -/
theorem current_eq_of_perm {slot' : Slot} {frames' : List Frame} (h : Displays slot frames)
    (hother : Displays slot' frames') (hperm : frames.Perm frames')
    (htimes : ∀ f ∈ frames, ∀ g ∈ frames, f.validTime = g.validTime → f = g) :
    slot.current = slot'.current := by
  cases hcurrent : slot.current with
  | none =>
      have hnil : frames' = [] := by
        rw [h.frames_nil hcurrent] at hperm
        exact hperm.symm.eq_nil
      cases hcurrent' : slot'.current with
      | none => rfl
      | some frame =>
          have hmem := (hother.newest frame hcurrent').mem
          rw [hnil] at hmem
          cases hmem
  | some frame =>
      have hnewest := h.newest frame hcurrent
      cases hcurrent' : slot'.current with
      | none =>
          have hmem := hperm.mem_iff.1 hnewest.mem
          rw [hother.frames_nil hcurrent'] at hmem
          cases hmem
      | some frame' =>
          rw [IsFirstNewest.eq_of_perm hperm htimes hnewest (hother.newest frame' hcurrent')]

end Displays

/-! ## Courses of calls on a store -/

namespace FrameStore

/-- The frames that a course submits for a layer, in order. -/
def submitted (layer : LayerId) (course : List (LayerId × StoreCall)) : List Frame :=
  StoreCall.frames (callsOf layer course)

theorem submitted_append (layer : LayerId) (course more : List (LayerId × StoreCall)) :
    submitted layer (course ++ more) = submitted layer course ++ submitted layer more := by
  simp [submitted, callsOf_append, StoreCall.frames]

/-- What a course shows of a layer: `start` is the store before it. -/
structure NewestWins (start : FrameStore) (layer : LayerId)
    (course : List (LayerId × StoreCall)) : Prop where
  /-- The current frame is the first submitted one among those with the greatest valid time. -/
  current : ∀ frame, (start.calls course).currentFrame? layer = some frame ↔
    IsFirstNewest (submitted layer course) frame
  /-- Only a layer without submitted frames displays none. -/
  shown : (start.calls course).currentFrame? layer = none → submitted layer course = []
  /-- Between any two moments the current frame stays or gives way to a later one. -/
  increasing : ∀ earlier middle later before, course = earlier ++ middle ++ later →
    (start.calls earlier).currentFrame? layer = some before →
    ∃ after, (start.calls (earlier ++ middle)).currentFrame? layer = some after ∧
      (after = before ∨ before.validTime < after.validTime)
  /-- The generation counts the left-to-right maxima of the submitted valid times. -/
  generation : ((start.calls course).get? layer).map (·.generation) =
    some (strictMaxima ((submitted layer course).map (·.validTime)))
  /-- A frame that is published names the one that it replaced. -/
  superseded : ∀ earlier frame later replaced,
    course = earlier ++ (layer, .publish frame) :: later →
    ((start.calls earlier).call layer (.publish frame)).1 = .ok (some (.published replaced)) →
    replaced = ((start.calls earlier).currentFrame? layer).map (·.stamp.id) ∧
      ((start.calls earlier).call layer (.publish frame)).2.currentFrame? layer = some frame
  /-- Where no two frames share a valid time, the order of the calls does not matter. -/
  order_free : ∀ other, (submitted layer course).Perm (submitted layer other) →
    (∀ f ∈ submitted layer course, ∀ g ∈ submitted layer course,
      f.validTime = g.validTime → f = g) →
    (start.calls other).currentFrame? layer = (start.calls course).currentFrame? layer

theorem displays_calls {start : FrameStore} {layer : LayerId}
    (hstart : start.get? layer = some {}) (course : List (LayerId × StoreCall))
    (hids : ∀ f ∈ submitted layer course, ∀ g ∈ submitted layer course,
      f.stamp.id = g.stamp.id → f = g) :
    ∃ slot, (start.calls course).get? layer = some slot ∧
      Displays slot (submitted layer course) := by
  refine ⟨_, get?_calls_of_slot hstart course, ?_⟩
  have hrun := Displays.empty.run (callsOf layer course)
  rw [List.nil_append] at hrun
  exact hrun hids

theorem currentFrame?_of_slot {store : FrameStore} {layer : LayerId} {slot : Slot}
    (hslot : store.get? layer = some slot) : store.currentFrame? layer = slot.current := by
  simp [currentFrame?, hslot]

theorem publish_superseded {store : FrameStore} {layer : LayerId} {slot : Slot} {frame : Frame}
    {replaced : Option Nat} (hslot : store.get? layer = some slot)
    (hreply : (store.call layer (.publish frame)).1 = .ok (some (.published replaced))) :
    replaced = slot.current.map (·.stamp.id) ∧
      (store.call layer (.publish frame)).2.currentFrame? layer = some frame := by
  rw [call_reply hslot] at hreply
  have hafter : (store.call layer (.publish frame)).2.get? layer =
      some (slot.after (.publish frame)) := by
    rw [get?_call, if_pos rfl, hslot]
    rfl
  rw [currentFrame?_of_slot hafter]
  simp only [Slot.reply, Slot.after] at hreply ⊢
  cases hoffer : slot.offer frame with
  | unchanged => simp [hoffer, Slot.replyToOffer] at hreply
  | stale current => simp [hoffer, Slot.replyToOffer] at hreply
  | accepted superseded =>
      obtain rfl : superseded = replaced := by simpa [hoffer, Slot.replyToOffer] using hreply
      refine ⟨?_, rfl⟩
      cases hcurrent : slot.current with
      | none => simpa [Slot.offer, hcurrent, eq_comm] using hoffer
      | some current =>
          simp only [Slot.offer, hcurrent] at hoffer
          split at hoffer
          · cases hoffer
          · split at hoffer
            · simpa [eq_comm] using hoffer
            · cases hoffer

theorem later_current {start : FrameStore} {layer : LayerId} (hstart : start.get? layer = some {})
    {earlier middle : List (LayerId × StoreCall)} {before : Frame}
    (hids : ∀ f ∈ submitted layer (earlier ++ middle),
      ∀ g ∈ submitted layer (earlier ++ middle), f.stamp.id = g.stamp.id → f = g)
    (hbefore : (start.calls earlier).currentFrame? layer = some before) :
    ∃ after, (start.calls (earlier ++ middle)).currentFrame? layer = some after ∧
      (after = before ∨ before.validTime < after.validTime) := by
  rw [submitted_append] at hids
  obtain ⟨slot, hslot, hdisplays⟩ := displays_calls hstart earlier fun f hf g hg =>
    hids f (List.mem_append_left _ hf) g (List.mem_append_left _ hg)
  obtain ⟨slot', hslot', hdisplays'⟩ := displays_calls hstart (earlier ++ middle)
    (by rwa [submitted_append])
  rw [currentFrame?_of_slot hslot] at hbefore
  rw [currentFrame?_of_slot hslot']
  have hfirst := hdisplays.newest before hbefore
  rw [submitted_append] at hdisplays'
  cases hafter : slot'.current with
  | none =>
      have hmem := hfirst.mem
      have hnil := hdisplays'.frames_nil hafter
      rw [(List.append_eq_nil_iff.1 hnil).1] at hmem
      cases hmem
  | some after =>
      have hnewest := hdisplays'.newest after hafter
      refine ⟨after, rfl, ?_⟩
      by_cases hlt : before.validTime < after.validTime
      · exact Or.inr hlt
      · left
        -- Nothing that came later is newer than `before`, so it is still the first newest frame.
        have hstill : IsFirstNewest (submitted layer earlier ++ submitted layer middle) before := by
          apply hfirst.append
          intro f hf
          have hle := hnewest.le (List.mem_append_right _ hf)
          rw [instant_lt_iff] at hlt
          rw [instant_le_iff] at hle ⊢
          omega
        exact hnewest.unique hstill

/-- The newest frame wins, whatever calls the layers of a new store receive and in whatever order,
as long as no two frames of the layer share an id. -/
theorem newest_frame_wins {layers : List LayerId} {layer : LayerId} (hlayer : layer ∈ layers)
    (course : List (LayerId × StoreCall))
    (hids : ∀ f ∈ submitted layer course, ∀ g ∈ submitted layer course,
      f.stamp.id = g.stamp.id → f = g) :
    NewestWins (ofLayers layers) layer course := by
  have hstart := get?_ofLayers hlayer
  obtain ⟨slot, hslot, hdisplays⟩ := displays_calls hstart course hids
  refine ⟨?_, ?_, ?_, ?_, ?_, ?_⟩
  · intro frame
    rw [currentFrame?_of_slot hslot]
    exact hdisplays.current_eq_some_iff frame
  · intro hnone
    rw [currentFrame?_of_slot hslot] at hnone
    exact hdisplays.frames_nil hnone
  · rintro earlier middle later before rfl hbefore
    apply later_current hstart ?_ hbefore
    rw [submitted_append] at hids
    exact fun f hf g hg => hids f (List.mem_append_left _ hf) g (List.mem_append_left _ hg)
  · rw [hslot, Option.map_some, hdisplays.generation]
  · rintro earlier frame later replaced - hreply
    have hearlier := get?_calls_of_slot hstart earlier
    rw [currentFrame?_of_slot hearlier]
    exact publish_superseded hearlier hreply
  · intro other hperm htimes
    obtain ⟨slot', hslot', hdisplays'⟩ := displays_calls hstart other fun f hf g hg =>
      hids f (hperm.mem_iff.2 hf) g (hperm.mem_iff.2 hg)
    rw [currentFrame?_of_slot hslot, currentFrame?_of_slot hslot']
    exact (hdisplays.current_eq_of_perm hdisplays' hperm htimes).symm

/-- A frame without wedges, for a time. -/
def blankFrame (id : Nat) (seconds : Int) : Frame where
  stamp := ⟨id, ⟨0⟩⟩
  header := .ofSections (.ofBytes []) (.fieldsOf []) none
  validTime := ⟨seconds⟩
  geometry := .mesh (.empty ⟨0, 0⟩)
  legend := ⟨"", none, [], none⟩
  droppedRadials := 0

/-- A late older frame between two offers of a newer one leaves the newer one current. -/
theorem newest_frame_wins_late :
    let layer : LayerId := ⟨"KTLX", 94⟩
    let course := [(layer, .beginUpdate), (layer, .publish (blankFrame 2 60)), (layer, .markBuilt),
      (layer, .publish (blankFrame 1 30)), (⟨"KFWS", 94⟩, .rejectStale ⟨0⟩ ⟨0⟩),
      (layer, .publish (blankFrame 2 60))]
    (∀ f ∈ submitted layer course, ∀ g ∈ submitted layer course,
      f.stamp.id = g.stamp.id → f = g) ∧
      NewestWins (ofLayers [layer]) layer course ∧
      ((ofLayers [layer]).calls course).currentFrame? layer = some (blankFrame 2 60) := by
  intro layer course
  have hsubmitted : submitted layer course =
      [blankFrame 2 60, blankFrame 1 30, blankFrame 2 60] := rfl
  have hids : ∀ f ∈ submitted layer course, ∀ g ∈ submitted layer course,
      f.stamp.id = g.stamp.id → f = g := by
    rw [hsubmitted]
    simp [blankFrame]
  have hwins := newest_frame_wins (List.mem_singleton_self layer) course hids
  refine ⟨hids, hwins, (hwins.current _).2 ?_⟩
  rw [hsubmitted]
  exact ⟨[], [blankFrame 1 30, blankFrame 2 60], rfl, by simp, by decide⟩

end FrameStore

end WeatherRadar.Pipeline
