import WeatherRadar.Level3.ProductKind
/-!
# Data levels

Gates hold small numbers, the data levels.  Sixteen thresholds in the description of a product tell
what value each level stands for.
-/

namespace WeatherRadar.Level3

/-- What a gate says. -/
inductive DataValue where
  | value (v : Float32)
  /-- The echo is too weak to count. -/
  | belowThreshold
  | noData
  /-- The echo came from beyond the unambiguous range. -/
  | rangeFolded
  deriving Inhabited

/-- The number that a gate says, if it says one. -/
def DataValue.number? : DataValue → Option Float32
  | value v => some v
  | _ => none

/-- A remark on a threshold. -/
inductive Qualifier where
  | none
  | greater
  | less
  | plus
  deriving DecidableEq, Repr

/-- A threshold of a product with sixteen levels. -/
structure Threshold where
  value : DataValue
  qualifier : Qualifier

namespace Threshold

/-- What a threshold without a number stands for. -/
def special (magnitude : Nat) : DataValue :=
  if magnitude == 1 then .belowThreshold
  else if magnitude == 3 then .rangeFolded
  else .noData

/-- The value of a threshold with a number: flags tell its scale and its sign. -/
def scaled (flag : Nat → Bool) (magnitude : Nat) : Float32 :=
  let x := Float32.ofNat magnitude
  let x :=
    if flag 2 then x / 100.0
    else if flag 1 then x / 20.0
    else if flag 0 then x / 10.0
    else x
  if flag 3 then -x else x

/-- The threshold that two bytes spell: flags in the high one and a magnitude in the low one. -/
def ofWord (word : UInt16) : Threshold :=
  let magnitude := word.toNat % 256
  let flag (bit : Nat) : Bool := word.toNat.testBit (8 + bit)
  if flag 7 then ⟨special magnitude, .none⟩
  else
    ⟨.value (scaled flag magnitude),
      if flag 6 then .greater else if flag 5 then .less else if flag 4 then .plus else .none⟩

end Threshold

/-- The values of the data levels of a product, from level 0 on. -/
structure DataLevels where
  values : Array DataValue

namespace DataLevels

/-- A two's complement number of tenths. -/
def tenths (word : UInt16) : Float32 := word.toInt16.toFloat32 / 10.0

/-- The value of a level on a linear scale: the first two levels are not numbers. -/
def linearValue (least increment : Float32) : Nat → DataValue
  | 0 => .belowThreshold
  | 1 => .rangeFolded
  | n + 2 => .value (least + Float32.ofNat n * increment)

def ofThresholds (scheme : LevelScheme) (thresholds : Vector UInt16 16) : DataLevels :=
  match scheme with
  | .flagged => ⟨thresholds.toArray.map fun word => (Threshold.ofWord word).value⟩
  | .linear =>
    let count := min ((thresholds.getD 2 0).toNat + 2) 256
    let least := tenths (thresholds.getD 0 0)
    let increment := tenths (thresholds.getD 1 0)
    ⟨((List.range count).map (linearValue least increment)).toArray⟩

def size (levels : DataLevels) : Nat := levels.values.size

/-- The value of a data level; levels without one are no data. -/
def decode (levels : DataLevels) (level : UInt16) : DataValue :=
  levels.values.getD level.toNat .noData

end DataLevels

end WeatherRadar.Level3
