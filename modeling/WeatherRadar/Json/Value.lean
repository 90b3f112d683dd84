import WeatherRadar.Number.Reading
/-!
# JSON values

Values keep the order and repetition of object members and the digits of numbers, so that a reader
of settings can decide what a repeated member or a long number means.
-/

namespace WeatherRadar

/-- A number as written: digits before and after the point, and a signed exponent. -/
structure Numeral where
  negative : Bool
  whole : List Char
  fraction : List Char
  exponent : Option (Bool × List Char)
  deriving DecidableEq

/-- A JSON value.  Text is `none` when it holds half of a surrogate pair, which no text can. -/
inductive Json where
  | null
  | bool (value : Bool)
  | number (value : Numeral)
  | text (value : Option String)
  | array (items : List Json)
  | object (members : List (Option String × Json))

namespace Numeral

def ofInt (n : Int) : Numeral :=
  ⟨n < 0, Nat.toDigits 10 n.natAbs, [], none⟩

/-- An integer of at most 64 bits, if the number is written as one.  Negative zero is not. -/
def integer? (n : Numeral) : Option Int :=
  if !n.fraction.isEmpty || n.exponent.isSome then none
  else
    let value := decimalValue n.whole
    if n.negative then
      if value != 0 && value ≤ 0x8000000000000000 then some (-(value : Int)) else none
    else if value < 0x10000000000000000 then some value
    else none

/-- Digits taken into a 64-bit number as long as they fit, and how many are left over. -/
def significand (start : Nat) : List Char → Nat × Nat
  | [] => (start, 0)
  | c :: cs =>
    let next := start * 10 + decimalDigitValue c
    if next < 0x10000000000000000 then significand next cs else (start, cs.length + 1)

/-- A power of ten, infinite beyond the range. -/
def powerOfTen (n : Nat) : Float := Float.ofScientific 1 false n

/-- A number scaled down by steps of at most 308 powers of ten. -/
def scaleDown : Nat → Float → Nat → Float
  | 0, x, _ => x
  | steps + 1, x, n =>
    if n ≤ 308 then x / powerOfTen n
    else if x == 0.0 then x
    else scaleDown steps (x / powerOfTen 308) (n - 308)

/-- `significand * 10 ^ exponent` with one rounding for the product, none if it is too large. -/
def scaled? (significand : Nat) (exponent : Int) : Option Float :=
  let x := significand.toFloat
  if exponent < 0 then some (scaleDown 4 x (-exponent).toNat)
  else if significand == 0 then some x
  else if exponent > 308 then none
  else
    let y := x * powerOfTen exponent.toNat
    if y.isInf then none else some y

/-- The magnitude of a number.  At most 64 bits of digits count; digits past them only move the
point, and only those before it. -/
def magnitude? (n : Numeral) : Option Float :=
  let (head, dropped) := significand 0 n.whole
  let (digits, left) := significand head n.fraction
  let start : Int := dropped + left - n.fraction.length
  match n.exponent with
  | none => scaled? digits start
  | some (negative, ds) =>
    let power := decimalValue ds
    if power ≥ 0x80000000 then
      if digits != 0 && !negative then none else some 0.0
    else scaled? digits (start + if negative then -(power : Int) else power)

/-- The floating-point number that a numeral stands for, none when it is too large. -/
def float? (n : Numeral) : Option Float :=
  n.magnitude?.map fun x => if n.negative then -x else x

end Numeral

namespace Json

def ofFields (fields : List (String × Json)) : Json :=
  .object (fields.map fun (name, value) => (some name, value))

def ofString (s : String) : Json := .text (some s)

def ofInt (n : Int) : Json := .number (.ofInt n)

/-- The member of an object with a name, the last one if it is repeated. -/
def member? (name : String) : Json → Option Json
  | .object members => (members.reverse.find? (·.1 == some name)).map (·.2)
  | _ => none

def string? : Json → Option String
  | .text value => value
  | _ => none

def bool? : Json → Option Bool
  | .bool value => some value
  | _ => none

def integerWithin? (low high : Int) : Json → Option Int
  | .number n => n.integer?.filter fun i => low ≤ i && i ≤ high
  | _ => none

def float? : Json → Option Float
  | .number n => n.float?
  | _ => none

/-- The 32-bit number nearest to a number.  Whole numbers are rounded once. -/
def float32? : Json → Option Float32
  | .number n =>
    match n.integer? with
    | some (.ofNat i) => some (UInt64.ofNat i).toFloat32
    | some (.negSucc i) => some (-(UInt64.ofNat (i + 1)).toFloat32)
    | none => n.float?.map Float.toFloat32
  | _ => none

def int16? (json : Json) : Option Int16 :=
  (json.integerWithin? (-0x8000) 0x7FFF).map Int16.ofInt

/-- The items of a list, each read by `f`. -/
def list? {α : Type} (f : Json → Option α) : Json → Option (List α)
  | .array items => items.mapM f
  | _ => none

/-- Puts a value under a name, in place of one that is there. -/
def putEntry {α : Type} (entries : List (String × α)) (entry : String × α) :
    List (String × α) :=
  entries.filter (·.1 != entry.1) ++ [entry]

/-- The values of an object by their names, each read by `f`.  Of a repeated name the last value
counts, but every one must be readable. -/
def entries? {α : Type} (f : Json → Option α) : Json → Option (List (String × α))
  | .object members => do
    let read ← members.mapM fun (name, value) => do return (← name, ← f value)
    return read.foldl putEntry []
  | _ => none

end Json

end WeatherRadar
