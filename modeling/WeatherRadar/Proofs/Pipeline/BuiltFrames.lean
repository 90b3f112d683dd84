import WeatherRadar.Proofs.Pipeline.Bookkeeping
import WeatherRadar.Proofs.Pipeline.Interleaving
/-!
# Built frames

A layer shows a built frame from the call that notes one until an update of the layer begins, a
frame is published or no update is under way any more.  The state belongs to the layer and not to
the update that noted the frame: when that update ends without publishing and others are under way,
the state stays (`built_shows_last_note`).
-/

namespace WeatherRadar.Pipeline

open WeatherRadar.Render StoreCall

/-! ## Calls with their answers -/

/-- A call of an update, and the answer that it gets. -/
structure AnsweredCall extends UpdateCall where
  answer : Except UpdateError (Option PublishOutcome)

/-- Whether a call ends its update without a frame published. -/
def AnsweredCall.endsUnpublished (entry : AnsweredCall) : Bool :=
  entry.call.isFinishing && !isPublication entry.answer

/-- The calls of updates with the answers of a store that receives them. -/
def answered (store : FrameStore) : List UpdateCall → List AnsweredCall
  | [] => []
  | entry :: trace =>
    let (answer, store) := store.call entry.layer entry.call
    { entry with answer } :: answered store trace

/-- An update noted a built frame, and all that happened to its layer since then is that updates
ended without a frame published. -/
def NotedLast (layer : LayerId) (update : Nat) (history : List AnsweredCall) : Prop :=
  ∃ before note after, history = before ++ note :: after ∧ note.layer = layer ∧
    note.update = update ∧ note.call = .markBuilt ∧
    ∀ later ∈ after, later.layer = layer → later.endsUnpublished = true

variable {layer : LayerId} {update : Nat} {trace : List UpdateCall} {entry : UpdateCall}
  {history : List AnsweredCall}

theorem answered_concat (store : FrameStore) (trace : List UpdateCall) (entry : UpdateCall) :
    answered store (trace ++ [entry]) = answered store trace ++ [{ entry with
      answer := ((store.calls (courseOf trace)).call entry.layer entry.call).1 }] := by
  induction trace generalizing store with
  | nil => rfl
  | cons first trace ih =>
      simp only [List.cons_append, answered, ih]
      rfl

theorem notedLast_nil : ¬NotedLast layer update [] := by
  rintro ⟨before, note, after, hsplit, -⟩
  simp at hsplit

/-- A note becomes the last one, and the end of an update without a frame published leaves the last
one. -/
theorem notedLast_concat (last : AnsweredCall) :
    NotedLast layer update (history ++ [last]) ↔
      if last.layer = layer then
        last.call = .markBuilt ∧ last.update = update ∨
          last.endsUnpublished = true ∧ NotedLast layer update history
      else NotedLast layer update history := by
  have hkeep : (last.layer = layer → last.endsUnpublished = true) →
      NotedLast layer update history → NotedLast layer update (history ++ [last]) := by
    rintro hlast ⟨before, note, after, rfl, hlayer, hupdate, hcall, hafter⟩
    refine ⟨before, note, after ++ [last], by simp, hlayer, hupdate, hcall, ?_⟩
    intro later hlater
    rcases List.mem_append.1 hlater with hmem | hmem
    · exact hafter later hmem
    · rw [List.mem_singleton.1 hmem]
      exact hlast
  have hsplit : NotedLast layer update (history ++ [last]) →
      (last.layer = layer ∧ last.call = .markBuilt ∧ last.update = update) ∨
        (last.layer = layer → last.endsUnpublished = true) ∧ NotedLast layer update history := by
    rintro ⟨before, note, after, hhistory, hlayer, hupdate, hcall, hafter⟩
    rcases List.eq_nil_or_concat after with rfl | ⟨after, later, rfl⟩
    · obtain rfl := (List.append_inj' hhistory rfl).2 |> List.singleton_inj.1
      exact .inl ⟨hlayer, hcall, hupdate⟩
    · rw [List.concat_eq_append, ← List.cons_append, ← List.append_assoc] at hhistory
      obtain ⟨rfl, hlast⟩ := List.append_inj' hhistory rfl
      obtain rfl := List.singleton_inj.1 hlast
      rw [List.concat_eq_append] at hafter
      exact .inr ⟨hafter last (by simp), before, note, after, rfl, hlayer, hupdate, hcall,
        fun later hlater => hafter later (by simp [hlater])⟩
  split
  next hlayer =>
    constructor
    · intro h
      rcases hsplit h with ⟨-, hcall, hupdate⟩ | ⟨hends, hnoted⟩
      · exact .inl ⟨hcall, hupdate⟩
      · exact .inr ⟨hends hlayer, hnoted⟩
    · rintro (⟨hcall, hupdate⟩ | ⟨hends, hnoted⟩)
      · exact ⟨history, last, [], rfl, hlayer, hupdate, hcall, by simp⟩
      · exact hkeep (fun _ => hends) hnoted
  next hlayer =>
    constructor
    · intro h
      rcases hsplit h with ⟨hsame, -⟩ | ⟨-, hnoted⟩
      · exact absurd hsame hlayer
      · exact hnoted
    · exact hkeep fun hsame => absurd hsame hlayer

/-! ## The state of a slot -/

namespace Slot

theorem state_settle_eq_built_iff (slot : Slot) :
    slot.settle.status.state = .built ↔
      slot.settle.status.inFlight ≠ 0 ∧ slot.status.state = .built := by
  simp only [settle]
  split
  next hidle =>
    have hrests : slot.restingState ≠ .built := by
      unfold restingState
      split
      · decide
      · decide
    simp [hidle, hrests]
  next hbusy => simp [hbusy]

/-- A slot shows a built frame after the call that notes one, and after the end of an update that
publishes nothing if it did before and others are under way. -/
theorem state_after_eq_built_iff (slot : Slot) (layer : LayerId) (call : StoreCall) :
    (slot.after call).status.state = .built ↔ call = .markBuilt ∨
      (call.isFinishing = true ∧ isPublication (slot.reply layer call) = false) ∧
        (slot.after call).status.inFlight ≠ 0 ∧ slot.status.state = .built := by
  cases call with
  | beginUpdate => simp [after, begin, isFinishing]
  | markBuilt => simp [after, markBuilt]
  | recordFailure error now =>
      simpa [after, fail, isFinishing, reply, isPublication] using slot.state_settle_eq_built_iff
  | rejectStale candidate current =>
      simpa [after, isFinishing, reply, isPublication] using slot.state_settle_eq_built_iff
  | publish frame =>
      simp only [after, reply]
      cases slot.offer frame with
      | accepted superseded =>
          simp [afterOffer, accept, replyToOffer, isPublication]
      | unchanged =>
          simpa [afterOffer, isFinishing, replyToOffer, isPublication]
            using slot.state_settle_eq_built_iff
      | stale current =>
          simpa [afterOffer, isFinishing, replyToOffer, isPublication]
            using slot.state_settle_eq_built_iff

end Slot

/-! ## Interleaved updates -/

theorem NextCall.isUnderWay_of_note {before : List StoreCall} (h : NextCall before .markBuilt) :
    isUnderWay before = true := by
  cases h with
  | notes hopen => exact hopen
  | ends hopen _ => exact hopen

/-- An update noted a built frame, and it is under way or it ended without publishing the frame. -/
def KeptOrDropped (layer : LayerId) (update : Nat) (trace : List UpdateCall)
    (history : List AnsweredCall) : Prop :=
  .markBuilt ∈ callsBy layer update trace ∧ (update ∈ updatesUnderWay layer trace ∨
    ∃ last ∈ history, last.layer = layer ∧ last.update = update ∧ last.endsUnpublished = true)

/-- Calls of other layers and of other updates leave an update as it was. -/
theorem KeptOrDropped.concat (h : KeptOrDropped layer update trace history)
    (hother : ¬(entry.layer = layer ∧ entry.update = update)) (last : AnsweredCall) :
    KeptOrDropped layer update (trace ++ [entry]) (history ++ [last]) := by
  obtain ⟨hmem, hpending⟩ := h
  rw [KeptOrDropped, callsBy_concat, mem_updatesUnderWay_concat, if_neg hother, if_neg hother]
  refine ⟨hmem, hpending.imp_right ?_⟩
  rintro ⟨last, hlast, hown⟩
  exact ⟨last, List.mem_append_left _ hlast, hown⟩

theorem keptOrDropped_of_notedLast {store : FrameStore} (h : Interleaved trace)
    (hnoted : NotedLast layer update (answered store trace)) :
    KeptOrDropped layer update trace (answered store trace) := by
  induction trace using List.reverseRecOn with
  | nil => exact absurd hnoted notedLast_nil
  | append_singleton trace entry ih =>
      rw [answered_concat] at hnoted ⊢
      rw [notedLast_concat] at hnoted
      split at hnoted
      next hlayer =>
        rcases hnoted with ⟨hcall, hupdate⟩ | ⟨hends, hbefore⟩
        · have hnext := h.nextCall
          dsimp only at hlayer hcall hupdate
          rw [hlayer, hupdate, hcall] at hnext
          rw [KeptOrDropped, callsBy_concat, mem_updatesUnderWay_concat, if_pos ⟨hlayer, hupdate⟩,
            if_pos ⟨hlayer, hupdate⟩, hcall, isUnderWay_concat]
          exact ⟨List.mem_append_right _ (List.mem_singleton_self _), .inl hnext.isUnderWay_of_note⟩
        · by_cases hupdate : entry.update = update
          · obtain ⟨hmem, -⟩ := ih h.of_concat hbefore
            rw [KeptOrDropped, callsBy_concat, if_pos ⟨hlayer, hupdate⟩]
            exact ⟨List.mem_append_left _ hmem, .inr ⟨_, List.mem_append_right _
              (List.mem_singleton_self _), hlayer, hupdate, hends⟩⟩
          · exact (ih h.of_concat hbefore).concat (fun hown => hupdate hown.2) _
      next hlayer => exact (ih h.of_concat hnoted).concat (fun hown => hlayer hown.1) _

namespace FrameStore

theorem inFlight_eq_card {store : FrameStore} {slot : Slot} (hstore : store.get? layer = some {})
    (h : Interleaved trace) (hslot : (store.calls (courseOf trace)).get? layer = some slot) :
    slot.status.inFlight = (updatesUnderWay layer trace).card := by
  obtain ⟨slot', hslot', hcount, -⟩ := counts_and_rests hstore h
  rw [hslot] at hslot'
  exact Option.some.inj hslot' ▸ hcount

theorem state_eq_built_iff {store : FrameStore} (hstore : store.get? layer = some {})
    (h : Interleaved trace) :
    ∃ slot, (store.calls (courseOf trace)).get? layer = some slot ∧
      (slot.status.state = .built ↔ (updatesUnderWay layer trace).Nonempty ∧
        ∃ update, NotedLast layer update (answered store trace)) := by
  induction trace using List.reverseRecOn with
  | nil =>
      refine ⟨{}, hstore, ?_⟩
      simp [updatesUnderWay]
  | append_singleton trace entry ih =>
      obtain ⟨slot, hslot, hbuilt⟩ := ih h.of_concat
      have hafter : (store.calls (courseOf (trace ++ [entry]))).get? layer =
          if layer = entry.layer then some (slot.after entry.call) else some slot := by
        rw [courseOf_concat, calls_append, calls_cons, calls_nil, get?_call, hslot]
        rfl
      simp only [answered_concat, notedLast_concat]
      by_cases hlayer : entry.layer = layer
      · subst hlayer
        rw [if_pos rfl] at hafter
        refine ⟨_, hafter, ?_⟩
        have hanswer := call_reply hslot entry.call
        have hbusy : (updatesUnderWay entry.layer (trace ++ [entry])).Nonempty ↔
            (slot.after entry.call).status.inFlight ≠ 0 := by
          rw [inFlight_eq_card hstore h hafter, Finset.card_ne_zero]
        rw [slot.state_after_eq_built_iff entry.layer, hbusy, hanswer, hbuilt]
        simp only [if_true, AnsweredCall.endsUnpublished, Bool.and_eq_true, Bool.not_eq_true']
        constructor
        · rintro (hcall | ⟨hends, hopen, -, update, hnoted⟩)
          · have hnext := h.nextCall
            rw [hcall] at hnext
            refine ⟨hbusy.1 ⟨entry.update, ?_⟩, entry.update, .inl ⟨hcall, rfl⟩⟩
            rw [mem_updatesUnderWay_concat, if_pos ⟨rfl, rfl⟩, hcall, isUnderWay_concat]
            exact hnext.isUnderWay_of_note
          · exact ⟨hopen, update, .inr ⟨hends, hnoted⟩⟩
        · rintro ⟨hopen, update, ⟨hcall, -⟩ | ⟨hends, hnoted⟩⟩
          · exact .inl hcall
          · refine .inr ⟨hends, hopen, ?_, update, hnoted⟩
            rw [slot.inFlight_after, if_pos hends.1,
              inFlight_eq_card hstore h.of_concat hslot] at hopen
            exact Finset.card_pos.1 (by omega)
      · rw [if_neg (Ne.symm hlayer)] at hafter
        refine ⟨slot, hafter, ?_⟩
        simp only [if_neg hlayer, updatesUnderWay_of_other_layer hlayer]
        exact hbuilt

/-- What the state of a layer amid interleaved updates tells of built frames. -/
structure TellsNotes (layer : LayerId) (trace : List UpdateCall) (history : List AnsweredCall)
    (slot : Slot) : Prop where
  /-- It is that of a built frame exactly while updates are under way and, but for ends of updates
  without a frame published, the last that happened to the layer is the note of one. -/
  built_iff : slot.status.state = .built ↔
    (updatesUnderWay layer trace).Nonempty ∧ ∃ update, NotedLast layer update history
  /-- The update that noted the frame may have ended in the meantime. -/
  noted : ∀ update, NotedLast layer update history → KeptOrDropped layer update trace history
  /-- An update with a built frame is under way if none that noted one ended without publishing
  it. -/
  pending : slot.status.state = .built →
    (∀ last ∈ history, last.layer = layer → last.endsUnpublished = true →
      .markBuilt ∉ callsBy layer last.update trace) →
    ∃ update ∈ updatesUnderWay layer trace, .markBuilt ∈ callsBy layer update trace

/-- However the updates of the layers of a new store are interleaved, a layer that shows a built
frame shows the last note of one. -/
theorem built_shows_last_note {layers : List LayerId} (hlayer : layer ∈ layers)
    (htrace : Interleaved trace) :
    ∃ slot, ((ofLayers layers).calls (courseOf trace)).get? layer = some slot ∧
      TellsNotes layer trace (answered (ofLayers layers) trace) slot := by
  obtain ⟨slot, hslot, hbuilt⟩ := state_eq_built_iff (get?_ofLayers hlayer) htrace
  refine ⟨slot, hslot, hbuilt, fun update => keptOrDropped_of_notedLast htrace, ?_⟩
  intro hstate hpublished
  obtain ⟨-, update, hnoted⟩ := hbuilt.1 hstate
  obtain ⟨hmem, hopen | ⟨last, hlast, hown, rfl, hends⟩⟩ := keptOrDropped_of_notedLast htrace hnoted
  · exact ⟨update, hopen, hmem⟩
  · exact absurd hmem (hpublished last hlast hown hends)

/-- A frame is refused as stale while the layer has another update that still fetches: no built
frame is pending, and the layer shows one. -/
theorem built_shows_last_note_of_refused :
    let layer : LayerId := ⟨"KTLX", 94⟩
    let trace : List UpdateCall := [⟨layer, 0, .beginUpdate⟩, ⟨layer, 1, .beginUpdate⟩,
      ⟨layer, 2, .beginUpdate⟩, ⟨layer, 2, .markBuilt⟩, ⟨layer, 2, .publish (blankFrame 2 60)⟩,
      ⟨layer, 0, .markBuilt⟩, ⟨layer, 0, .publish (blankFrame 1 30)⟩]
    layer ∈ [layer] ∧ Interleaved trace ∧
      ∃ slot, ((ofLayers [layer]).calls (courseOf trace)).get? layer = some slot ∧
        TellsNotes layer trace (answered (ofLayers [layer]) trace) slot ∧
        slot.status.state = .built ∧
        ¬∃ update ∈ updatesUnderWay layer trace, .markBuilt ∈ callsBy layer update trace := by
  intro layer trace
  have hpublishes : ∀ frame, (StoreCall.publish frame).isFinishing = true := fun _ => rfl
  have htrace : Interleaved trace := by
    intro named update
    by_cases hnamed : layer = named
    · obtain _ | _ | _ | update := update
      · exact ⟨_, .built (hpublishes (blankFrame 1 30)), by simp [callsBy, trace, hnamed]⟩
      · exact ⟨_, .direct (hpublishes (blankFrame 1 30)), by simp [callsBy, trace, hnamed]⟩
      · exact ⟨_, .built (hpublishes (blankFrame 2 60)), by simp [callsBy, trace, hnamed]⟩
      · exact ⟨_, .direct (hpublishes (blankFrame 1 30)), by simp [callsBy, trace, hnamed]⟩
    · exact ⟨_, .direct (hpublishes (blankFrame 1 30)), by simp [callsBy, trace, hnamed]⟩
  have hlayer : layer ∈ [layer] := List.mem_singleton_self layer
  obtain ⟨slot, hslot, htells⟩ := built_shows_last_note hlayer htrace
  refine ⟨hlayer, htrace, slot, hslot, htells, ?_, ?_⟩
  · have hstate : (((ofLayers [layer]).calls (courseOf trace)).get? layer).map (·.status.state) =
        some .built := by decide
    rw [hslot] at hstate
    exact Option.some.inj hstate
  · rintro ⟨update, hopen, hnoted⟩
    rw [mem_updatesUnderWay] at hopen
    obtain _ | _ | _ | update := update
    · simp [callsBy, trace, isUnderWay, isBeginning, isFinishing] at hopen
    · simp [callsBy, trace] at hnoted
    · simp [callsBy, trace, isUnderWay, isBeginning, isFinishing] at hopen
    · simp [callsBy, trace] at hnoted

end FrameStore

end WeatherRadar.Pipeline
