import WeatherRadar.Number.Shortest
/-!
# Numbers as text

Three ways to write a number: the shortest decimal, always positional; the same with a point kept
and an exponent for extreme magnitudes; and a fixed number of places, correctly rounded.
-/

namespace WeatherRadar

/-- How the shortest decimal of a number is laid out. -/
structure NumberStyle where
  /-- Whether a whole number keeps `.0`. -/
  keepsPoint : Bool
  /-- Numbers below this power of ten, other than zero, are written with an exponent. -/
  leastPositional : Option Int
  /-- Numbers from this power of ten on are written with an exponent. -/
  firstScientific : Option Int

namespace NumberStyle

/-- Plain text: positional at every magnitude, whole numbers without a point. -/
def plain : NumberStyle := ⟨false, none, none⟩

/-- Text that always shows a fractional number: `1.0`, and `1e16` from there on. -/
def explicit : NumberStyle := ⟨true, some (-4), some 16⟩

def digits (n : Nat) : List Char := Nat.toDigits 10 n

/-- Positional text of `digits * 10 ^ exponent`. -/
def positional (keepsPoint : Bool) (ds : List Char) (exponent : Int) : List Char :=
  if exponent ≥ 0 then
    ds ++ List.replicate exponent.toNat '0' ++ if keepsPoint then ['.', '0'] else []
  else
    let places := (-exponent).toNat
    let padded := List.replicate (places + 1 - ds.length) '0' ++ ds
    let (whole, fraction) := padded.splitAt (padded.length - places)
    whole ++ '.' :: fraction

/-- Text with one digit before the point and an exponent. -/
def scientific (ds : List Char) (exponent : Int) : List Char :=
  let power := exponent + ds.length - 1
  let mantissa := match ds with
    | [] => []
    | [d] => [d]
    | d :: rest => d :: '.' :: rest
  mantissa ++ 'e' :: (if power < 0 then ['-'] else []) ++ digits power.natAbs

def magnitude (style : NumberStyle) (format : BinaryFormat) (mantissa : Nat) (exponent : Int) :
    List Char :=
  if mantissa == 0 then positional style.keepsPoint ['0'] 0
  else
    let shortest := shortestDecimal format mantissa exponent
    let ds := digits shortest.digits
    let power := shortest.exponent + ds.length - 1
    if style.leastPositional.any (power < ·) || style.firstScientific.any (· ≤ power) then
      scientific ds shortest.exponent
    else
      positional style.keepsPoint ds shortest.exponent

def text (style : NumberStyle) (format : BinaryFormat) : BinaryValue → String
  | .nan => "NaN"
  | .infinite negative => if negative then "-inf" else "inf"
  | .finite negative mantissa exponent =>
    let sign := if negative then ['-'] else []
    String.ofList (sign ++ style.magnitude format mantissa exponent)

end NumberStyle

def floatText (x : Float) : String :=
  NumberStyle.plain.text .double (.ofFloat x)

def float32Text (x : Float32) : String :=
  NumberStyle.plain.text .single (.ofFloat32 x)

/-- Text that tells a number from an integer, with an exponent where it is long. -/
def explicitFloatText (x : Float) : String :=
  NumberStyle.explicit.text .double (.ofFloat x)

/-- The quotient of two natural numbers rounded to the nearest, a tie to the even one. -/
def roundQuotient (n d : Nat) : Nat :=
  let q := n / d
  let twice := 2 * (n % d)
  if twice > d || (twice == d && q % 2 == 1) then q + 1 else q

/-- Text with a fixed number of places, correctly rounded; what rounds to zero has no sign. -/
def fixedText (places : Nat) : BinaryValue → String
  | .nan => "NaN"
  | .infinite negative => if negative then "-inf" else "inf"
  | .finite negative mantissa exponent =>
    let scaled := roundQuotient (mantissa * Nat.pow 2 exponent.toNat * Nat.pow 10 places)
      (Nat.pow 2 (-exponent).toNat)
    let sign := if negative && scaled != 0 then ['-'] else []
    String.ofList (sign ++ NumberStyle.positional false (NumberStyle.digits scaled) (-places))

/-- Text of a 64-bit number with a fixed number of places. -/
def fixedFloatText (places : Nat) (x : Float) : String :=
  fixedText places (.ofFloat x)

/-- Text of a 32-bit number with a fixed number of places. -/
def fixedFloat32Text (places : Nat) (x : Float32) : String :=
  fixedText places (.ofFloat32 x)

end WeatherRadar
