/-!
# Binary search

Where the members of an array that pass a test come before those that fail it, a search by halves
finds the place at which the first group ends.
-/

namespace WeatherRadar

/-- Where the members that pass a test end, if it is not before `low` nor behind `high`. -/
@[specialize] def partitionPointWithin {α : Type} (passes : α → Bool) (xs : Array α)
    (low high : Nat) (hhigh : high ≤ xs.size) : Nat :=
  if h : low < high then
    let middle := (low + high) / 2
    have hmiddle : middle < xs.size := by omega
    if passes xs[middle] then partitionPointWithin passes xs (middle + 1) high hhigh
    else partitionPointWithin passes xs low middle (Nat.le_of_lt hmiddle)
  else low
termination_by high - low

/-- The number of the members of an array that pass a test, if they come before those that
fail it. -/
@[inline] def partitionPoint {α : Type} (passes : α → Bool) (xs : Array α) : Nat :=
  partitionPointWithin passes xs 0 xs.size (Nat.le_refl _)

end WeatherRadar
