/-!
# Parts of texts

Finding a text inside another one and replacing all its occurrences.
-/

namespace WeatherRadar

variable {α : Type} [BEq α]

/-- Whether a pattern occurs in a list.  The empty pattern occurs everywhere. -/
def occursIn (pattern : List α) : List α → Bool
  | [] => pattern.isEmpty
  | x :: xs => pattern.isPrefixOf (x :: xs) || occursIn pattern xs

/-- A list with the occurrences of a pattern replaced, from left to right and without overlap. -/
def replaceAll (pattern replacement : List α) : List α → List α
  | [] => []
  | x :: xs =>
    if pattern.isPrefixOf (x :: xs) then
      replacement ++ replaceAll pattern replacement (xs.drop (pattern.length - 1))
    else x :: replaceAll pattern replacement xs
termination_by xs => xs.length

end WeatherRadar
