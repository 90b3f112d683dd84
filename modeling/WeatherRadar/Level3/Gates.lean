import WeatherRadar.Level3.Error
/-!
# Gates of a radial

The payload of a radial packs the data levels of its gates: a byte or two bytes for each gate, or
runs of equal levels.
-/

namespace WeatherRadar.Level3

/-- The data levels of the gates of a radial. -/
inductive GateLevels where
  | bytes (levels : Array UInt8)
  | words (levels : Array UInt16)
  deriving DecidableEq, Repr, Inhabited

namespace GateLevels

def size : GateLevels → Nat
  | bytes levels => levels.size
  | words levels => levels.size

def isEmpty (gates : GateLevels) : Bool := gates.size == 0

def get? : GateLevels → Nat → Option UInt16
  | bytes levels, gate => levels[gate]?.map UInt8.toUInt16
  | words levels, gate => levels[gate]?

def toList : GateLevels → List UInt16
  | bytes levels => levels.toList.map UInt8.toUInt16
  | words levels => levels.toList

def wordsOf : List UInt8 → List UInt16
  | high :: low :: rest => (high.toUInt16 * 256 + low.toUInt16) :: wordsOf rest
  | _ => []

def runLength (run : UInt8) : Nat := run.toNat / 16

def runLevel (run : UInt8) : UInt8 := run % 16

def expandRuns (runs : List UInt8) : List UInt8 :=
  runs.flatMap fun run => List.replicate (runLength run) (runLevel run)

def runTotal (runs : List UInt8) : Nat := runs.foldl (fun n run => n + runLength run) 0

/-- The levels that a payload spells, which must be as many as expected. -/
def expand (payload : List UInt8) (encoding : GateEncoding) (expected : Nat) :
    Except Error GateLevels :=
  match encoding with
  | .literal8 =>
    let levels := payload.toArray
    if levels.size == expected then .ok (bytes levels)
    else .error (.malformedRunLength expected levels.size)
  | .literal16 =>
    let actual := payload.length / 2
    if payload.length % 2 == 0 && actual == expected then .ok (words (wordsOf payload).toArray)
    else .error (.malformedRunLength expected actual)
  | .runLength4 =>
    let actual := runTotal payload
    if actual == expected then .ok (bytes (expandRuns payload).toArray)
    else .error (.malformedRunLength expected actual)

/-- Adds a level to runs whose last one comes first. -/
def pushLevel (runs : List UInt8) (level : UInt8) : List UInt8 :=
  match runs with
  | run :: rest =>
    if runLevel run == level && runLength run < 15 then (run + 16) :: rest
    else (16 + level) :: runs
  | [] => [16 + level]

/-- A list made even in length by a zero byte. -/
def padEven (bytes : List UInt8) : List UInt8 :=
  if bytes.length % 2 == 0 then bytes else bytes ++ [0]

/-- The runs of levels below 16, padded to an even number of bytes. -/
def packRuns (levels : List UInt8) : Except Error (List UInt8) :=
  match levels.find? (15 < ·) with
  | some level => .error (.encode (.level level))
  | none => .ok (padEven (levels.foldl pushLevel []).reverse)

end GateLevels

end WeatherRadar.Level3
