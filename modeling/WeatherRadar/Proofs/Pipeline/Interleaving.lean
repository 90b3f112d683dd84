import Mathlib.Data.Finset.Card
import WeatherRadar.Proofs.Pipeline.InFlight
import WeatherRadar.Proofs.Pipeline.NewestFrame
/-!
# Interleaved updates

Many updates of many layers may be under way at once, each with its own calls in order.  A layer
counts its updates that began and did not end, and between them it rests: whenever none is under
way, its state says whether it has a frame, whatever the updates before came to
(`rests_between_updates`).
-/

namespace WeatherRadar.Pipeline

open WeatherRadar.Render StoreCall

/-! ## Updates and their calls -/

/-- The calls of a whole update: it begins, may note a built frame, and ends in one of three
ways. -/
inductive IsUpdate : List StoreCall → Prop where
  | direct {last : StoreCall} : last.isFinishing = true → IsUpdate [.beginUpdate, last]
  | built {last : StoreCall} : last.isFinishing = true →
      IsUpdate [.beginUpdate, .markBuilt, last]

/-- A call of one of many updates. -/
structure UpdateCall where
  layer : LayerId
  /-- The number of the update among those of its layer. -/
  update : Nat
  call : StoreCall

/-- The calls that updates make, without the updates. -/
def courseOf (trace : List UpdateCall) : List (LayerId × StoreCall) :=
  trace.map fun entry => (entry.layer, entry.call)

/-- The calls of one update of a layer. -/
def callsBy (layer : LayerId) (update : Nat) (trace : List UpdateCall) : List StoreCall :=
  (trace.filter fun entry => entry.layer = layer ∧ entry.update = update).map (·.call)

/-- Updates whose calls come in any order, but those of each in the order of an update.  The last
calls of some may be still to come. -/
def Interleaved (trace : List UpdateCall) : Prop :=
  ∀ layer update, ∃ whole, IsUpdate whole ∧ callsBy layer update trace <+: whole

/-- Whether an update that made some calls began and did not end. -/
def isUnderWay (calls : List StoreCall) : Bool :=
  calls.any isBeginning && !calls.any isFinishing

/-- The updates of a layer that are under way. -/
def updatesUnderWay (layer : LayerId) (trace : List UpdateCall) : Finset Nat :=
  (trace.map (·.update)).toFinset.filter fun update => isUnderWay (callsBy layer update trace)

variable {layer : LayerId} {update : Nat} {trace : List UpdateCall} {entry : UpdateCall}

theorem callsBy_concat (layer : LayerId) (update : Nat) (trace : List UpdateCall)
    (entry : UpdateCall) :
    callsBy layer update (trace ++ [entry]) =
      if entry.layer = layer ∧ entry.update = update then
        callsBy layer update trace ++ [entry.call]
      else callsBy layer update trace := by
  by_cases hown : entry.layer = layer ∧ entry.update = update <;>
    simp [callsBy, List.filter_append, hown]

theorem mem_updatesUnderWay :
    update ∈ updatesUnderWay layer trace ↔ isUnderWay (callsBy layer update trace) = true := by
  rw [updatesUnderWay, Finset.mem_filter, List.mem_toFinset, and_iff_right_iff_imp]
  intro hopen
  rw [isUnderWay, Bool.and_eq_true, List.any_eq_true] at hopen
  obtain ⟨⟨call, hcall, -⟩, -⟩ := hopen
  obtain ⟨entry, hentry, -⟩ := List.mem_map.1 hcall
  obtain ⟨hmem, hown⟩ := List.mem_filter.1 hentry
  rw [decide_eq_true_iff] at hown
  exact List.mem_map.2 ⟨entry, hmem, hown.2⟩

theorem Interleaved.of_concat (h : Interleaved (trace ++ [entry])) : Interleaved trace := by
  intro layer update
  obtain ⟨whole, hwhole, hbefore⟩ := h layer update
  refine ⟨whole, hwhole, List.IsPrefix.trans ?_ hbefore⟩
  rw [callsBy_concat]
  split
  · exact List.prefix_append _ _
  · exact List.prefix_refl _

/-! ## The next call of an update -/

/-- What an update did before it makes a call: nothing before it begins, and it is under way before
every other call. -/
inductive NextCall (before : List StoreCall) : StoreCall → Prop where
  | begins : before = [] → NextCall before .beginUpdate
  | notes : isUnderWay before = true → NextCall before .markBuilt
  | ends {last : StoreCall} : isUnderWay before = true → last.isFinishing = true →
      NextCall before last

theorem IsUpdate.nextCall {whole before : List StoreCall} {call : StoreCall}
    (h : IsUpdate whole) (hbefore : before ++ [call] <+: whole) : NextCall before call := by
  obtain ⟨rest, rfl⟩ := hbefore
  generalize hall : before ++ [call] ++ rest = all at h
  cases h with
  | direct hlast =>
      match before with
      | [] =>
          obtain ⟨rfl, -⟩ : call = .beginUpdate ∧ _ := by simpa using hall
          exact .begins rfl
      | [first] =>
          obtain ⟨rfl, rfl, -⟩ : first = .beginUpdate ∧ call = _ ∧ _ := by simpa using hall
          exact .ends rfl hlast
      | _ :: _ :: _ => simp at hall
  | built hlast =>
      match before with
      | [] =>
          obtain ⟨rfl, -⟩ : call = .beginUpdate ∧ _ := by simpa using hall
          exact .begins rfl
      | [first] =>
          obtain ⟨rfl, rfl, -⟩ : first = .beginUpdate ∧ call = .markBuilt ∧ _ := by
            simpa using hall
          exact .notes rfl
      | [first, second] =>
          obtain ⟨rfl, rfl, rfl, -⟩ :
              first = .beginUpdate ∧ second = .markBuilt ∧ call = _ ∧ _ := by simpa using hall
          exact .ends rfl hlast
      | _ :: _ :: _ :: _ => simp at hall

theorem Interleaved.nextCall (h : Interleaved (trace ++ [entry])) :
    NextCall (callsBy entry.layer entry.update trace) entry.call := by
  obtain ⟨whole, hwhole, hbefore⟩ := h entry.layer entry.update
  rw [callsBy_concat, if_pos ⟨rfl, rfl⟩] at hbefore
  exact hwhole.nextCall hbefore

/-! ## Counting updates -/

theorem isUnderWay_concat (calls : List StoreCall) (call : StoreCall) :
    isUnderWay (calls ++ [call]) = if call.isFinishing then false
      else if call.isBeginning then !calls.any isFinishing else isUnderWay calls := by
  cases call <;> simp [isUnderWay, isFinishing, isBeginning]

/-- A call puts its update among those under way or takes it out. -/
theorem mem_updatesUnderWay_concat {update : Nat} :
    update ∈ updatesUnderWay layer (trace ++ [entry]) ↔
      if entry.layer = layer ∧ entry.update = update then
        isUnderWay (callsBy layer update trace ++ [entry.call]) = true
      else update ∈ updatesUnderWay layer trace := by
  rw [mem_updatesUnderWay, callsBy_concat]
  split
  · rfl
  · rw [mem_updatesUnderWay]

theorem updatesUnderWay_of_other_layer (hlayer : entry.layer ≠ layer) :
    updatesUnderWay layer (trace ++ [entry]) = updatesUnderWay layer trace := by
  ext update
  rw [mem_updatesUnderWay_concat, if_neg fun h => hlayer h.1]

theorem updatesUnderWay_of_next (hlayer : entry.layer = layer)
    (hnext : NextCall (callsBy layer entry.update trace) entry.call) :
    (updatesUnderWay layer (trace ++ [entry])).card =
      if entry.call.isFinishing then (updatesUnderWay layer trace).card - 1
      else if entry.call.isBeginning then (updatesUnderWay layer trace).card + 1
      else (updatesUnderWay layer trace).card := by
  obtain ⟨named, update, call⟩ := entry
  obtain rfl : named = layer := hlayer
  dsimp only at hnext ⊢
  cases hnext with
  | begins hnone =>
      have hnew : update ∉ updatesUnderWay named trace := by
        rw [mem_updatesUnderWay, hnone]
        exact Bool.false_ne_true
      have hinsert : updatesUnderWay named (trace ++ [⟨named, update, .beginUpdate⟩]) =
          insert update (updatesUnderWay named trace) := by
        ext other
        rw [mem_updatesUnderWay_concat, Finset.mem_insert]
        by_cases hsame : update = other
        · subst hsame
          simp [hnone, isUnderWay, isBeginning, isFinishing]
        · simp [hsame, Ne.symm hsame]
      rw [hinsert, Finset.card_insert_of_notMem hnew]
      rfl
  | notes hopen =>
      have hsame : updatesUnderWay named (trace ++ [⟨named, update, .markBuilt⟩]) =
          updatesUnderWay named trace := by
        ext other
        rw [mem_updatesUnderWay_concat, isUnderWay_concat, mem_updatesUnderWay]
        simp [isFinishing, isBeginning]
      rw [hsame]
      rfl
  | ends hopen hlast =>
      have hold : update ∈ updatesUnderWay named trace := mem_updatesUnderWay.2 hopen
      have herase : updatesUnderWay named (trace ++ [⟨named, update, call⟩]) =
          (updatesUnderWay named trace).erase update := by
        ext other
        rw [mem_updatesUnderWay_concat, isUnderWay_concat, if_pos hlast, Finset.mem_erase]
        by_cases hsame : update = other
        · simp [hsame]
        · simp [hsame, Ne.symm hsame]
      rw [herase, Finset.card_erase_of_mem hold, if_pos hlast]

/-! ## Slots at rest -/

namespace Slot

/-- While no update is under way, the state says whether there is a frame. -/
def RestsWhenIdle (slot : Slot) : Prop :=
  slot.status.inFlight = 0 → slot.status.state = slot.restingState

/-- A slot rests after every call that leaves it idle, because the call that ends the last update
sets the state anew.  Only a built frame must not be noted while no update is under way. -/
theorem restsWhenIdle_after {slot : Slot} {call : StoreCall}
    (hmark : call = .markBuilt → slot.status.inFlight ≠ 0) : (slot.after call).RestsWhenIdle := by
  intro hidle
  cases call with
  | beginUpdate => exact absurd hidle (Nat.succ_ne_zero _)
  | markBuilt => exact absurd hidle (hmark rfl)
  | recordFailure error now => exact if_pos hidle
  | rejectStale candidate current => exact if_pos hidle
  | publish frame =>
      simp only [Slot.after] at hidle ⊢
      cases hoffer : slot.offer frame with
      | accepted superseded => rfl
      | unchanged =>
          rw [hoffer] at hidle
          exact if_pos hidle
      | stale current =>
          rw [hoffer] at hidle
          exact if_pos hidle

end Slot

/-! ## The slot of a layer amid its updates -/

namespace FrameStore

/-- What the slot of a layer tells of interleaved updates. -/
structure TellsUpdates (layer : LayerId) (trace : List UpdateCall) (slot : Slot) : Prop where
  /-- It counts the updates that began and did not end. -/
  inFlight : slot.status.inFlight = (updatesUnderWay layer trace).card
  /-- An update that ends is taken from a count that is not zero. -/
  counted : ∀ update last, last.isFinishing = true →
    Interleaved (trace ++ [⟨layer, update, last⟩]) → 1 ≤ slot.status.inFlight
  /-- While no update is under way, it shows its frame or is empty. -/
  idle : slot.status.inFlight = 0 →
    slot.status.state = if slot.current.isSome then .published else .empty

theorem courseOf_concat (trace : List UpdateCall) (entry : UpdateCall) :
    courseOf (trace ++ [entry]) = courseOf trace ++ [(entry.layer, entry.call)] := by
  simp [courseOf]

theorem one_le_card_of_next (hnext : NextCall (callsBy layer update trace) entry.call)
    (hfirst : entry.call.isBeginning = false) : 1 ≤ (updatesUnderWay layer trace).card := by
  have hopen : isUnderWay (callsBy layer update trace) = true := by
    generalize entry.call = call at hnext hfirst
    cases hnext with
    | begins hnone => cases hfirst
    | notes hopen => exact hopen
    | ends hopen hlast => exact hopen
  exact Finset.card_pos.2 ⟨update, mem_updatesUnderWay.2 hopen⟩

theorem counts_and_rests {store : FrameStore} (hstore : store.get? layer = some {})
    (h : Interleaved trace) :
    ∃ slot, (store.calls (courseOf trace)).get? layer = some slot ∧
      slot.status.inFlight = (updatesUnderWay layer trace).card ∧ slot.RestsWhenIdle := by
  induction trace using List.reverseRecOn with
  | nil => exact ⟨{}, hstore, rfl, fun _ => rfl⟩
  | append_singleton trace entry ih =>
      obtain ⟨slot, hslot, hcount, hrests⟩ := ih h.of_concat
      rw [courseOf_concat, calls_append, calls_cons, calls_nil, get?_call, hslot]
      by_cases hlayer : layer = entry.layer
      · subst hlayer
        rw [if_pos rfl]
        refine ⟨slot.after entry.call, rfl, ?_, Slot.restsWhenIdle_after ?_⟩
        · rw [Slot.inFlight_after, updatesUnderWay_of_next rfl h.nextCall, hcount]
        · intro hmark
          have hone := one_le_card_of_next h.nextCall (by rw [hmark]; rfl)
          omega
      · rw [if_neg hlayer]
        refine ⟨slot, rfl, ?_, hrests⟩
        rw [updatesUnderWay_of_other_layer (Ne.symm hlayer), hcount]

/-- However the updates of the layers of a new store are interleaved, each layer counts those that
began and did not end, never below zero, and it rests whenever there are none. -/
theorem rests_between_updates {layers : List LayerId} (hlayer : layer ∈ layers)
    (htrace : Interleaved trace) :
    ∃ slot, ((ofLayers layers).calls (courseOf trace)).get? layer = some slot ∧
      TellsUpdates layer trace slot := by
  obtain ⟨slot, hslot, hcount, hrests⟩ := counts_and_rests (get?_ofLayers hlayer) htrace
  refine ⟨slot, hslot, hcount, ?_, hrests⟩
  intro update last hlast hnext
  rw [hcount]
  apply one_le_card_of_next hnext.nextCall
  cases last <;> first | rfl | cases hlast

/-- Of two updates, one notes a frame and publishes it while the other one fails. -/
theorem rests_between_updates_of_two :
    let layer : LayerId := ⟨"KTLX", 94⟩
    let trace : List UpdateCall := [⟨layer, 0, .beginUpdate⟩, ⟨layer, 1, .beginUpdate⟩,
      ⟨layer, 1, .markBuilt⟩, ⟨layer, 0, .recordFailure .workerGone ⟨0⟩⟩,
      ⟨layer, 1, .publish (blankFrame 1 30)⟩]
    layer ∈ [layer] ∧ Interleaved trace ∧
      ∃ slot, ((ofLayers [layer]).calls (courseOf trace)).get? layer = some slot ∧
        TellsUpdates layer trace slot := by
  intro layer trace
  have hfails : (StoreCall.recordFailure .workerGone ⟨0⟩).isFinishing = true := rfl
  have hpublishes : (StoreCall.publish (blankFrame 1 30)).isFinishing = true := rfl
  have htrace : Interleaved trace := by
    intro named update
    by_cases hnamed : layer = named
    · match update with
      | 0 => exact ⟨_, .direct hfails, by simp [callsBy, trace, hnamed]⟩
      | 1 => exact ⟨_, .built hpublishes, by simp [callsBy, trace, hnamed]⟩
      | n + 2 => exact ⟨_, .direct hfails, by simp [callsBy, trace, hnamed]⟩
    · exact ⟨_, .direct hfails, by simp [callsBy, trace, hnamed]⟩
  have hlayer : layer ∈ [layer] := List.mem_singleton_self layer
  exact ⟨hlayer, htrace, rests_between_updates hlayer htrace⟩

end FrameStore

end WeatherRadar.Pipeline
