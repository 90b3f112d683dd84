import WeatherRadar.Proofs.Pipeline.Calls
/-!
# Updates under way

A slot counts the updates that began and did not end.  As long as no update ends that was not
under way, the count never has to stop at zero and is what it was at first, plus the updates that
began, minus those that ended (`inFlight_afterAll`).
-/

namespace WeatherRadar.Pipeline

namespace StoreCall

def isBeginning : StoreCall → Bool
  | beginUpdate => true
  | _ => false

def begun (calls : List StoreCall) : Nat := calls.countP isBeginning

def ended (calls : List StoreCall) : Nat := calls.countP isFinishing

/-- The updates that are under way after some calls, if `count` were before. -/
def underWay (count : Nat) (calls : List StoreCall) : Nat := count + begun calls - ended calls

/-- Of `count` updates under way and those that calls begin, no more end than there are. -/
def Balanced (count : Nat) (calls : List StoreCall) : Prop :=
  ∀ before, before <+: calls → ended before ≤ count + begun before

theorem begun_append (calls more : List StoreCall) :
    begun (calls ++ more) = begun calls + begun more := List.countP_append

theorem ended_append (calls more : List StoreCall) :
    ended (calls ++ more) = ended calls + ended more := List.countP_append

theorem Balanced.ended_le {count : Nat} {calls : List StoreCall} (h : Balanced count calls) :
    ended calls ≤ count + begun calls := h calls (List.prefix_refl calls)

theorem Balanced.left {count : Nat} {calls more : List StoreCall}
    (h : Balanced count (calls ++ more)) : Balanced count calls :=
  fun before hbefore => h before (hbefore.trans (List.prefix_append calls more))

theorem Balanced.right {count : Nat} {calls more : List StoreCall}
    (h : Balanced count (calls ++ more)) :
    Balanced (underWay count calls) more := by
  intro before hbefore
  have hall := h (calls ++ before) ((List.prefix_append_right_inj calls).2 hbefore)
  have hcalls := h.left.ended_le
  rw [begun_append, ended_append] at hall
  rw [underWay]
  omega

theorem Balanced.underWay_append {count : Nat} {calls : List StoreCall} (h : Balanced count calls)
    (more : List StoreCall) :
    underWay count (calls ++ more) = underWay (underWay count calls) more := by
  have hcalls := h.ended_le
  rw [underWay, underWay, underWay, begun_append, ended_append]
  omega

end StoreCall

open StoreCall

namespace Slot

/-- Beginning adds one to the updates under way, ending takes one away. -/
theorem inFlight_after (slot : Slot) (call : StoreCall) :
    (slot.after call).status.inFlight =
      if call.isFinishing then slot.status.inFlight - 1
      else if call.isBeginning then slot.status.inFlight + 1
      else slot.status.inFlight := by
  cases call with
  | beginUpdate => rfl
  | markBuilt => rfl
  | recordFailure error now => rfl
  | rejectStale candidate current => rfl
  | publish frame =>
      simp only [after]
      cases slot.offer frame <;> rfl

/-- The count after balanced calls, on top of `more` updates that they leave alone. -/
theorem inFlight_afterAll {slot : Slot} {count more : Nat} {calls : List StoreCall}
    (hslot : slot.status.inFlight = count + more) (hcalls : Balanced count calls) :
    (slot.afterAll calls).status.inFlight = underWay count calls + more := by
  induction calls generalizing slot count with
  | nil => simpa [underWay, begun, ended] using hslot
  | cons call calls ih =>
      rw [← List.singleton_append] at hcalls ⊢
      have hfirst : ended [call] ≤ count + begun [call] := hcalls.left.ended_le
      have hstep : (slot.after call).status.inFlight = underWay count [call] + more := by
        rw [inFlight_after, hslot]
        cases call <;>
          simp [underWay, begun, ended, isBeginning, isFinishing] at hfirst ⊢ <;> omega
      rw [hcalls.left.underWay_append, List.singleton_append, afterAll_cons]
      exact ih hstep hcalls.right

end Slot

end WeatherRadar.Pipeline
