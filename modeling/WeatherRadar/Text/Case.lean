import WeatherRadar.Text.CaseData
/-!
# Upper and lower case

Case mapping of whole texts by the Unicode rules: a character may become several (`ß` is `SS` in
upper case), and a capital sigma at the end of a word becomes a final sigma.
-/

namespace WeatherRadar

namespace CaseData

/-- Maps a character by a table of runs and a table of expansions. -/
def map (runs : Array Run) (expansions : Array (Nat × List Nat)) (c : Char) : List Char :=
  match expansions.find? (·.1 == c.toNat) with
  | some (_, codes) => codes.map Char.ofNat
  | none =>
    match runs.find? fun run =>
        run.first ≤ c.toNat && c.toNat ≤ run.last && (c.toNat - run.first) % run.step == 0 with
    | some run => [Char.ofNat ((c.toNat : Int) + run.offset).toNat]
    | none => [c]

/-- Whether a character lies in one of the ranges. -/
def inRanges (ranges : Array (Nat × Nat)) (c : Char) : Bool :=
  ranges.any fun (first, last) => first ≤ c.toNat && c.toNat ≤ last

end CaseData

open CaseData

def upperChar (c : Char) : List Char :=
  if c.toNat < 128 then [c.toUpper] else CaseData.map upperRuns upperExpansions c

/-- The lower case of a character that is not a capital sigma. -/
def lowerChar (c : Char) : List Char :=
  if c.toNat < 128 then [c.toLower] else CaseData.map lowerRuns lowerExpansions c

def upperCase (s : String) : String := String.ofList (s.toList.flatMap upperChar)

/-- Whether the nearest character that case rules do not look past is a letter with case. -/
def facesCased (cs : List Char) : Bool :=
  match cs.dropWhile (inRanges ignorableRanges) with
  | [] => false
  | c :: _ => inRanges casedRanges c

/-- Lower case of the characters after `before`, which is in reverse order. -/
def lowerFrom (before : List Char) : List Char → List Char
  | [] => []
  | c :: cs =>
    let mapped :=
      if c == 'Σ' then
        if facesCased before && !facesCased cs then ['ς'] else ['σ']
      else lowerChar c
    mapped ++ lowerFrom (c :: before) cs

def lowerCase (s : String) : String := String.ofList (lowerFrom [] s.toList)

end WeatherRadar
