import WeatherRadar.Pipeline.Store
/-!
# What calls do to slots

A call changes the slot of its own layer and no other one.  `Slot.after` says how the slot changes
and `Slot.reply` what the caller hears, without the table of slots around them.  The main
statements are `get?_call`, `call_reply` and, for whole courses of calls, `get?_calls`: the slot
of a layer after a course is the slot after those of its calls that name the layer.
-/

namespace WeatherRadar.Pipeline

open WeatherRadar.Render

/-! ## One call on one slot -/

namespace StoreCall

def frame? : StoreCall → Option Frame
  | publish frame => some frame
  | _ => none

def isFinishing : StoreCall → Bool
  | publish _ | recordFailure _ _ | rejectStale _ _ => true
  | beginUpdate | markBuilt => false

end StoreCall

namespace Slot

def afterOffer (slot : Slot) (frame : Frame) : Offer → Slot
  | .accepted _ => slot.accept frame
  | .unchanged | .stale _ => slot.settle

def after (slot : Slot) : StoreCall → Slot
  | .beginUpdate => slot.begin
  | .markBuilt => slot.markBuilt
  | .publish frame => slot.afterOffer frame (slot.offer frame)
  | .recordFailure error now => slot.fail error now
  | .rejectStale _ _ => slot.settle

def replyToOffer (layer : LayerId) (frame : Frame) :
    Offer → Except UpdateError (Option PublishOutcome)
  | .accepted superseded => .ok (some (.published superseded))
  | .unchanged => .ok (some .unchanged)
  | .stale current => .error (.stale layer frame.validTime current)

/-- The answer to a call for a layer that has the slot. -/
def reply (slot : Slot) (layer : LayerId) :
    StoreCall → Except UpdateError (Option PublishOutcome)
  | .beginUpdate | .markBuilt | .recordFailure _ _ => .ok none
  | .publish frame => replyToOffer layer frame (slot.offer frame)
  | .rejectStale candidate current => .error (.stale layer candidate current)

def afterAll (slot : Slot) (calls : List StoreCall) : Slot := calls.foldl after slot

@[simp] theorem afterAll_nil (slot : Slot) : slot.afterAll [] = slot := rfl

@[simp] theorem afterAll_cons (slot : Slot) (call : StoreCall) (calls : List StoreCall) :
    slot.afterAll (call :: calls) = (slot.after call).afterAll calls := rfl

end Slot

/-! ## One call on the store -/

namespace FrameStore

theorem mem_distinct {layers : List LayerId} {layer : LayerId} :
    layer ∈ distinct layers ↔ layer ∈ layers := by
  induction layers with
  | nil => simp [distinct]
  | cons first layers ih =>
      simp only [distinct, List.foldr_cons] at ih ⊢
      split
      · next hmem =>
          rw [List.mem_cons, ← ih]
          exact ⟨Or.inr, fun h => h.elim (fun heq => heq ▸ hmem) id⟩
      · rw [List.mem_cons, List.mem_cons, ih]

theorem get?_ofLayers {layers : List LayerId} {layer : LayerId} (hlayer : layer ∈ layers) :
    (ofLayers layers).get? layer = some {} := by
  simp only [get?, ofLayers, List.find?_map]
  cases hfind : (distinct layers).find? ((fun p : LayerId × Slot => decide (p.1 = layer)) ∘
      fun l => (l, {})) with
  | none =>
      have := List.find?_eq_none.1 hfind layer (mem_distinct.2 hlayer)
      simp at this
  | some l => rfl

theorem get?_ofLayers_eq_none {layers : List LayerId} {layer : LayerId} (hlayer : layer ∉ layers) :
    (ofLayers layers).get? layer = none := by
  have hfind : (distinct layers).find? ((fun p : LayerId × Slot => decide (p.1 = layer)) ∘
      fun l => (l, {})) = none := by
    rw [List.find?_eq_none]
    intro l hl hsame
    obtain rfl : l = layer := by simpa using hsame
    exact hlayer (mem_distinct.1 hl)
  simp only [get?, ofLayers, List.find?_map, hfind, Option.map_none]

@[simp] theorem get?_modify (store : FrameStore) (layer other : LayerId) (f : Slot → Slot) :
    (store.modify layer f).get? other =
      if other = layer then (store.get? other).map f else store.get? other := by
  simp only [get?, modify, List.find?_map]
  have hsame : ((fun p : LayerId × Slot => decide (p.1 = other)) ∘ fun p : LayerId × Slot =>
      (p.1, if p.1 = layer then f p.2 else p.2)) = fun p => decide (p.1 = other) := rfl
  rw [hsame]
  cases hfind : store.slots.find? fun p => decide (p.1 = other) with
  | none => simp
  | some p =>
      have hp : p.1 = other := by simpa using List.find?_some hfind
      by_cases hother : other = layer <;> simp [hp, hother]

theorem contains_iff (store : FrameStore) (layer : LayerId) :
    store.contains layer = true ↔ ∃ slot, store.get? layer = some slot := by
  simp [contains, Option.isSome_iff_exists]

theorem update_of_slot {store : FrameStore} {layer : LayerId} {slot : Slot}
    (hslot : store.get? layer = some slot) (f : Slot → Slot) :
    store.update layer f = .ok (store.modify layer f) := by
  simp [update, contains, hslot]

theorem update_of_not_contains {store : FrameStore} {layer : LayerId}
    (hslot : store.get? layer = none) (f : Slot → Slot) :
    store.update layer f = .error (.unknownLayer layer) := by
  simp [update, contains, hslot]

/-- A call for a layer that is not configured changes nothing and says so. -/
theorem call_of_not_contains {store : FrameStore} {layer : LayerId}
    (hslot : store.get? layer = none) (call : StoreCall) :
    store.call layer call = (.error (.unknownLayer layer), store) := by
  cases call with
  | beginUpdate =>
      simp [FrameStore.call, beginUpdate, update_of_not_contains hslot, call.changed]
  | markBuilt => simp [FrameStore.call, markBuilt, update_of_not_contains hslot, call.changed]
  | recordFailure error now =>
      simp [FrameStore.call, recordFailure, update_of_not_contains hslot, call.changed]
  | rejectStale candidate current =>
      simp [FrameStore.call, rejectStale, update_of_not_contains hslot]
  | publish frame => simp [FrameStore.call, publish, hslot, Except.map]

/-- A call for a configured layer changes its slot and answers as the slot says. -/
theorem call_of_slot {store : FrameStore} {layer : LayerId} {slot : Slot}
    (hslot : store.get? layer = some slot) (call : StoreCall) :
    (store.call layer call).1 = slot.reply layer call ∧
      ∀ other, (store.call layer call).2.get? other =
        if other = layer then some (slot.after call) else store.get? other := by
  have hmodify : ∀ (f : Slot → Slot) (other : LayerId),
      (store.modify layer f).get? other =
        if other = layer then some (f slot) else store.get? other := by
    intro f other
    rw [get?_modify]
    by_cases hother : other = layer
    · rw [if_pos hother, if_pos hother, hother, hslot]
      rfl
    · rw [if_neg hother, if_neg hother]
  have hupdate := update_of_slot hslot
  cases call with
  | beginUpdate =>
      simp only [FrameStore.call, beginUpdate, hupdate, call.changed]
      exact ⟨rfl, hmodify _⟩
  | markBuilt =>
      simp only [FrameStore.call, markBuilt, hupdate, call.changed]
      exact ⟨rfl, hmodify _⟩
  | recordFailure error now =>
      simp only [FrameStore.call, recordFailure, hupdate, call.changed]
      exact ⟨rfl, hmodify _⟩
  | rejectStale candidate current =>
      simp only [FrameStore.call, rejectStale, hupdate]
      exact ⟨rfl, hmodify _⟩
  | publish frame =>
      simp only [FrameStore.call, publish, hslot, Slot.reply, Slot.after]
      cases hoffer : slot.offer frame with
      | accepted superseded => exact ⟨rfl, hmodify _⟩
      | unchanged => exact ⟨rfl, hmodify _⟩
      | stale current =>
          simp only [rejectStale, hupdate]
          exact ⟨rfl, hmodify _⟩

theorem call_reply {store : FrameStore} {layer : LayerId} {slot : Slot}
    (hslot : store.get? layer = some slot) (call : StoreCall) :
    (store.call layer call).1 = slot.reply layer call := (call_of_slot hslot call).1

/-- The slot of a layer after a call: calls for other layers leave it alone. -/
theorem get?_call (store : FrameStore) (layer other : LayerId) (call : StoreCall) :
    (store.call layer call).2.get? other =
      if other = layer then (store.get? other).map (·.after call) else store.get? other := by
  cases hslot : store.get? layer with
  | none =>
      rw [call_of_not_contains hslot]
      by_cases hother : other = layer
      · rw [if_pos hother, hother, hslot]
        rfl
      · rw [if_neg hother]
  | some slot =>
      rw [(call_of_slot hslot call).2]
      by_cases hother : other = layer
      · rw [if_pos hother, if_pos hother, hother, hslot]
        rfl
      · rw [if_neg hother, if_neg hother]

/-! ## Courses of calls -/

def calls (store : FrameStore) (course : List (LayerId × StoreCall)) : FrameStore :=
  course.foldl (fun store call => (store.call call.1 call.2).2) store

@[simp] theorem calls_nil (store : FrameStore) : store.calls [] = store := rfl

@[simp] theorem calls_cons (store : FrameStore) (call : LayerId × StoreCall)
    (course : List (LayerId × StoreCall)) :
    store.calls (call :: course) = ((store.call call.1 call.2).2).calls course := rfl

theorem calls_append (store : FrameStore) (course more : List (LayerId × StoreCall)) :
    store.calls (course ++ more) = (store.calls course).calls more := by
  simp [calls, List.foldl_append]

/-- The calls of a course that name a layer. -/
def callsOf (layer : LayerId) (course : List (LayerId × StoreCall)) : List StoreCall :=
  course.filterMap fun call => if layer = call.1 then some call.2 else none

@[simp] theorem callsOf_nil (layer : LayerId) : callsOf layer [] = [] := rfl

theorem callsOf_cons (layer : LayerId) (call : LayerId × StoreCall)
    (course : List (LayerId × StoreCall)) :
    callsOf layer (call :: course) =
      if layer = call.1 then call.2 :: callsOf layer course else callsOf layer course := by
  by_cases hlayer : layer = call.1 <;> simp [callsOf, hlayer]

theorem callsOf_append (layer : LayerId) (course more : List (LayerId × StoreCall)) :
    callsOf layer (course ++ more) = callsOf layer course ++ callsOf layer more := by
  simp [callsOf]

/-- The slot of a layer after a course is the slot after the calls that name the layer. -/
theorem get?_calls (store : FrameStore) (layer : LayerId)
    (course : List (LayerId × StoreCall)) :
    (store.calls course).get? layer =
      (store.get? layer).map (·.afterAll (callsOf layer course)) := by
  induction course generalizing store with
  | nil => simp
  | cons call course ih =>
      rw [calls_cons, ih, get?_call, callsOf_cons]
      by_cases hlayer : layer = call.1
      · simp [hlayer, Option.map_map, Function.comp_def]
      · simp [hlayer]

theorem get?_calls_of_slot {store : FrameStore} {layer : LayerId} {slot : Slot}
    (hslot : store.get? layer = some slot) (course : List (LayerId × StoreCall)) :
    (store.calls course).get? layer = some (slot.afterAll (callsOf layer course)) := by
  rw [get?_calls, hslot, Option.map_some]

end FrameStore

end WeatherRadar.Pipeline
