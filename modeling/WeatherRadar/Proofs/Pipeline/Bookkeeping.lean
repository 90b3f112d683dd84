import WeatherRadar.Proofs.Pipeline.Calls
/-!
# The books of the store

What a layer displays is written down three times: in its slot, as the current frame, in the
generation that subscribers watch, and in the status.  The three agree after every course of calls
(`bookkeeping_stays_consistent`), because only a call that publishes touches any of them, and that
call writes all of them (`InOrder.step`).
-/

namespace WeatherRadar.Pipeline

open WeatherRadar.Render

/-- Whether an answer says that the offered frame is current now. -/
def isPublication : Except UpdateError (Option PublishOutcome) → Bool
  | .ok (some (.published _)) => true
  | _ => false

/-! ## One slot -/

/-- What a slot tells of its frame, in all places. -/
structure Display where
  current : Option Frame
  generation : Nat
  publishedCount : Nat
  currentFrame : Option Nat
  validTime : Option Instant

namespace Slot

def display (slot : Slot) : Display where
  current := slot.current
  generation := slot.generation
  publishedCount := slot.status.publishedCount
  currentFrame := slot.status.currentFrame
  validTime := slot.status.validTime

/-- Generation and status of a slot fit its current frame, after so many publications. -/
structure InOrder (slot : Slot) (publications : Nat) : Prop where
  currentFrame : slot.status.currentFrame = slot.current.map (·.stamp.id)
  validTime : slot.status.validTime = slot.current.map (·.validTime)
  generation : slot.generation = publications
  publishedCount : slot.status.publishedCount = publications
  zero_iff : publications = 0 ↔ slot.current = none

variable {slot : Slot}

theorem inOrder_new : ({} : Slot).InOrder 0 := ⟨rfl, rfl, rfl, rfl, by simp⟩

theorem InOrder.of_display_eq {slot' : Slot} {n : Nat} (h : slot.InOrder n)
    (hdisplay : slot'.display = slot.display) : slot'.InOrder n := by
  simp only [display, Display.mk.injEq] at hdisplay
  obtain ⟨hcurrent, hgeneration, hcount, hframe, htime⟩ := hdisplay
  constructor
  · rw [hframe, hcurrent, h.currentFrame]
  · rw [htime, hcurrent, h.validTime]
  · rw [hgeneration, h.generation]
  · rw [hcount, h.publishedCount]
  · rw [hcurrent, h.zero_iff]

theorem InOrder.accept {n : Nat} (h : slot.InOrder n) (frame : Frame) :
    (slot.accept frame).InOrder (n + 1) where
  currentFrame := rfl
  validTime := rfl
  generation := congrArg (· + 1) h.generation
  publishedCount := congrArg (· + 1) h.publishedCount
  zero_iff := by simp [Slot.accept]

/-- A call that does not publish leaves the display as it is, and one that does accepts its
frame. -/
theorem after_cases (slot : Slot) (layer : LayerId) (call : StoreCall) :
    (isPublication (slot.reply layer call) = false ∧
      (slot.after call).display = slot.display) ∨
    ∃ frame, call = .publish frame ∧ isPublication (slot.reply layer call) = true ∧
      slot.after call = slot.accept frame := by
  cases call with
  | beginUpdate => exact .inl ⟨rfl, rfl⟩
  | markBuilt => exact .inl ⟨rfl, rfl⟩
  | recordFailure error now => exact .inl ⟨rfl, rfl⟩
  | rejectStale candidate current => exact .inl ⟨rfl, rfl⟩
  | publish frame =>
      rw [reply, after]
      cases slot.offer frame with
      | accepted superseded => exact .inr ⟨frame, rfl, rfl, rfl⟩
      | unchanged => exact .inl ⟨rfl, rfl⟩
      | stale current => exact .inl ⟨rfl, rfl⟩

theorem display_after {layer : LayerId} {call : StoreCall}
    (h : isPublication (slot.reply layer call) = false) :
    (slot.after call).display = slot.display := by
  rcases slot.after_cases layer call with ⟨-, hdisplay⟩ | ⟨frame, -, hpublished, -⟩
  · exact hdisplay
  · rw [h] at hpublished
    cases hpublished

theorem InOrder.step {n : Nat} (h : slot.InOrder n) (layer : LayerId) (call : StoreCall) :
    (slot.after call).InOrder (n + (isPublication (slot.reply layer call)).toNat) := by
  rcases slot.after_cases layer call with ⟨hreply, hdisplay⟩ | ⟨frame, -, hreply, hafter⟩
  · rw [hreply]
    exact h.of_display_eq hdisplay
  · rw [hreply, hafter]
    exact h.accept frame

end Slot

/-! ## Courses of calls -/

namespace FrameStore

/-- How often the answers to a course say that a frame of a layer was published. -/
def publications (layer : LayerId) : FrameStore → List (LayerId × StoreCall) → Nat
  | _, [] => 0
  | store, call :: course =>
    let (answer, store) := store.call call.1 call.2
    (if call.1 = layer then (isPublication answer).toNat else 0) +
      publications layer store course

theorem publications_cons (layer : LayerId) (store : FrameStore) (call : LayerId × StoreCall)
    (course : List (LayerId × StoreCall)) :
    publications layer store (call :: course) =
      (if call.1 = layer then (isPublication (store.call call.1 call.2).1).toNat else 0) +
        publications layer (store.call call.1 call.2).2 course := rfl

theorem inOrder_calls {store : FrameStore} {layer : LayerId} {slot : Slot} {n : Nat}
    (hslot : store.get? layer = some slot) (h : slot.InOrder n)
    (course : List (LayerId × StoreCall)) :
    ∃ slot', (store.calls course).get? layer = some slot' ∧
      slot'.InOrder (n + publications layer store course) := by
  induction course generalizing store slot n with
  | nil => exact ⟨slot, hslot, h⟩
  | cons call course ih =>
      rw [calls_cons, publications_cons, ← Nat.add_assoc]
      by_cases hlayer : call.1 = layer
      · obtain ⟨hanswer, hafter⟩ := call_of_slot (hlayer ▸ hslot) call.2
        rw [if_pos hlayer, hanswer]
        exact ih (by rw [hafter, if_pos hlayer.symm]) (h.step call.1 call.2)
      · rw [if_neg hlayer]
        exact ih (by rw [get?_call, if_neg (Ne.symm hlayer), hslot]) h

/-- The books of a new store after a course of calls, and what the next call may change. -/
structure KeepsBooks (layers : List LayerId) (course : List (LayerId × StoreCall))
    (store : FrameStore) : Prop where
  /-- Every configured layer has a slot in order. -/
  inOrder : ∀ layer ∈ layers, ∃ slot, store.get? layer = some slot ∧
    slot.InOrder (publications layer (ofLayers layers) course)
  /-- A call that does not publish leaves the display of every layer as it is. -/
  display : ∀ layer call, isPublication (store.call layer call).1 = false →
    ∀ other, ((store.call layer call).2.get? other).map Slot.display =
      (store.get? other).map Slot.display
  /-- A call for a layer leaves the slots of all others as they are. -/
  others : ∀ layer call, ∀ other, other ≠ layer →
    (store.call layer call).2.get? other = store.get? other
  /-- A call for a layer that is not configured fails and changes nothing. -/
  unknown : ∀ layer, layer ∉ layers → ∀ call,
    store.call layer call = (.error (.unknownLayer layer), store)

/-- Whatever calls a new store receives, what it says of a layer's frame agrees in all places, only
publications of the layer change it, and calls for unknown layers change nothing. -/
theorem bookkeeping_stays_consistent (layers : List LayerId)
    (course : List (LayerId × StoreCall)) :
    KeepsBooks layers course ((ofLayers layers).calls course) where
  inOrder layer hlayer := by
    obtain ⟨slot, hslot, horder⟩ := inOrder_calls (get?_ofLayers hlayer) Slot.inOrder_new course
    rw [Nat.zero_add] at horder
    exact ⟨slot, hslot, horder⟩
  display layer call hreply other := by
    rw [get?_call]
    by_cases hother : other = layer
    · rw [if_pos hother, Option.map_map, hother]
      cases hslot : ((ofLayers layers).calls course).get? layer with
      | none => rfl
      | some slot =>
          rw [call_reply hslot] at hreply
          exact congrArg some (Slot.display_after hreply)
    · rw [if_neg hother]
  others layer call other hother := by rw [get?_call, if_neg hother]
  unknown layer hlayer call := by
    apply call_of_not_contains
    rw [get?_calls, get?_ofLayers_eq_none hlayer, Option.map_none]

end FrameStore

end WeatherRadar.Pipeline
