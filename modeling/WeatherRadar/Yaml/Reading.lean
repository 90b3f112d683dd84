import WeatherRadar.Record
import WeatherRadar.Yaml.Node
/-!
# Values of YAML nodes

What a node stands for where a value of some kind is wanted.  Only plain scalars stand for numbers
and truth values; any scalar stands for a text.
-/

namespace WeatherRadar.Yaml

/-! ## Numbers -/

/-- The number that digits of a base spell. -/
def radixValue? (base : Nat) (ds : List Char) : Option Nat :=
  if ds.isEmpty then none
  else ds.foldlM (fun n c => do
    let d ← hexValue? c
    if d < base then some (n * base + d) else none) 0

/-- A natural number without a sign: decimal without leading zeros, or with a mark of its base. -/
def magnitude? : List Char → Option Nat
  | '0' :: 'x' :: ds => radixValue? 16 ds
  | '0' :: 'o' :: ds => radixValue? 8 ds
  | '0' :: 'b' :: ds => radixValue? 2 ds
  | '0' :: d :: ds => if (d :: ds).all isDecimalDigit then none else radixValue? 10 ('0' :: d :: ds)
  | ds => radixValue? 10 ds

/-- A number that is not negative, with an optional plus sign. -/
def positive? : List Char → Option Nat
  | '+' :: cs => magnitude? cs
  | cs => magnitude? cs

def negative? : List Char → Option Nat
  | '-' :: cs => magnitude? cs
  | _ => none

/-- A floating-point number.  Infinities and not-a-number begin with a point. -/
def floatOf? (text : String) : Option Float :=
  if [".inf", ".Inf", ".INF", "+.inf", "+.Inf", "+.INF"].contains text then some (1.0 / 0.0)
  else if ["-.inf", "-.Inf", "-.INF"].contains text then some (-1.0 / 0.0)
  else if [".nan", ".NaN", ".NAN"].contains text then some (0.0 / 0.0)
  else (readFloat? text.toList).filter Float.isFinite

def boolOf? (text : String) : Option Bool :=
  if ["true", "True", "TRUE"].contains text then some true
  else if ["false", "False", "FALSE"].contains text then some false
  else none

/-- Whether a plain text stands for nothing. -/
def isNullText (text : String) : Bool := ["", "~", "null", "Null", "NULL"].contains text

/-- Whether a text consists of digits after a leading zero, which is no number. -/
def isPaddedNumber (text : String) : Bool :=
  match (splitSign text.toList).2 with
  | '0' :: d :: ds => (d :: ds).all isDecimalDigit
  | _ => false

/-! ## Nodes -/

namespace Node

variable {α : Type}

def string? : Node → Option String
  | scalar _ text => some text
  | _ => none

def plain? : Node → Option String
  | scalar true text => some text
  | _ => none

def bool? (node : Node) : Option Bool := node.plain?.bind boolOf?

def float? (node : Node) : Option Float := node.plain?.bind floatOf?

/-- A natural number below `2 ^ 64`. -/
def natural? (node : Node) : Option Nat :=
  (node.plain?.bind fun text => positive? text.toList).filter (· < 0x10000000000000000)

def int16? (node : Node) : Option Int16 := do
  let text ← node.plain?
  match positive? text.toList, negative? text.toList with
  | some n, _ => if n < 0x8000 then some (Int16.ofInt n) else none
  | none, some n => if n ≤ 0x8000 then some (Int16.ofInt (-n)) else none
  | none, none => none

/-- A value that may be left out or null. -/
def nullable (f : Node → Option α) (node : Node) : Option (Option α) :=
  if node.plain?.any isNullText then some none else (f node).map some

/-- The items of a sequence, each read by `f`. -/
def list? (f : Node → Option α) : Node → Option (List α)
  | sequence items => items.mapM f
  | node => if node.isMissing then some [] else none

def record? (names : List String) : Node → Option (Record Node)
  | mapping entries =>
    Record.ofMembers? names (entries.map fun (key, value) => (key.string?, value))
  | node => if node.isMissing then Record.ofMembers? names [] else none

/-! ### Nodes whose kind decides -/

/-- Whether a plain text is an integer of more than 64 bits, which nothing can hold. -/
def isOversized (text : String) : Bool :=
  (positive? text.toList).any (fun n => Nat.pow 2 64 ≤ n && n < Nat.pow 2 128) ||
    (negative? text.toList).any (fun n => Nat.pow 2 63 < n && n ≤ Nat.pow 2 127)

/-- Whether a plain text stands for nothing else than itself. -/
def isWord (text : String) : Bool :=
  !(isNullText text || (boolOf? text).isSome || (positive? text.toList).isSome ||
    (negative? text.toList).isSome || (!isPaddedNumber text && (floatOf? text).isSome))

/-- The text of a scalar that stands for nothing else. -/
def word? : Node → Option String
  | scalar true text => if isWord text then some text else none
  | scalar false text => some text
  | _ => none

end Node

end WeatherRadar.Yaml
