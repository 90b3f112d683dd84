/-!
# Reading numbers

Readers for the number texts that settings and layer names hold: signed whole numbers with a
range, and floating-point numbers with every common spelling, correctly rounded.
-/

namespace WeatherRadar

@[inline] def isDecimalDigit (c : Char) : Bool := '0' ≤ c && c ≤ '9'

@[inline] def decimalDigitValue (c : Char) : Nat := c.toNat - '0'.toNat

def decimalValue (ds : List Char) : Nat :=
  ds.foldl (fun value c => value * 10 + decimalDigitValue c) 0

/-- Digits without a sign: at least one, and nothing else. -/
def readDigits? (cs : List Char) : Option Nat :=
  if cs.isEmpty || !cs.all isDecimalDigit then none else some (decimalValue cs)

/-- A natural number below `2 ^ bits` with an optional plus sign. -/
def readNatural? (bits : Nat) (cs : List Char) : Option Nat :=
  let ds := match cs with
    | '+' :: ds => ds
    | ds => ds
  (readDigits? ds).filter (· < Nat.pow 2 bits)

/-- A two's complement number of the given width with an optional sign. -/
def readInteger? (bits : Nat) (cs : List Char) : Option Int :=
  match cs with
  | '-' :: ds => (readDigits? ds).bind fun n => if n ≤ Nat.pow 2 (bits - 1) then some (-n) else none
  | ds => (readNatural? (bits - 1) ds).map Int.ofNat

/-- The floating-point number nearest to `mantissa * 10 ^ exponent`, infinite when it is too
large. -/
def floatOfDecimal (negative : Bool) (mantissa : Nat) (exponent : Int) : Float :=
  let leading := (Nat.toDigits 10 mantissa).length + exponent
  let magnitude : Float :=
    if mantissa == 0 || leading < -330 then 0.0
    else if leading > 310 then 1.0 / 0.0
    else if exponent ≥ 0 then Float.ofScientific mantissa false exponent.toNat
    else Float.ofScientific mantissa true (-exponent).toNat
  if negative then -magnitude else magnitude

def splitSign : List Char → Bool × List Char
  | '-' :: cs => (true, cs)
  | '+' :: cs => (false, cs)
  | cs => (false, cs)

/-- An exponent part: nothing, or `e` and a signed number. -/
def readExponent? : List Char → Option Int
  | [] => some 0
  | c :: cs =>
    if c == 'e' || c == 'E' then
      let (negative, ds) := splitSign cs
      (readDigits? ds).map fun n => if negative then -(n : Int) else n
    else none

/-- A floating-point number: digits with an optional point and exponent, an infinity or
not-a-number, with an optional sign and in any case. -/
def readFloat? (cs : List Char) : Option Float :=
  let (negative, body) := splitSign cs
  let word := String.ofList (body.map Char.toLower)
  if word == "inf" || word == "infinity" then
    some (if negative then -1.0 / 0.0 else 1.0 / 0.0)
  else if word == "nan" then
    some (0.0 / 0.0)
  else
    let whole := body.takeWhile isDecimalDigit
    let rest := body.dropWhile isDecimalDigit
    let (fraction, rest) := match rest with
      | '.' :: tail => (tail.takeWhile isDecimalDigit, tail.dropWhile isDecimalDigit)
      | tail => ([], tail)
    if whole.isEmpty && fraction.isEmpty then none
    else (readExponent? rest).map fun exponent =>
      floatOfDecimal negative (decimalValue (whole ++ fraction)) (exponent - fraction.length)

end WeatherRadar
