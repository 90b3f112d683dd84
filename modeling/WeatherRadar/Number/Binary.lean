/-!
# Binary floating-point numbers taken apart

A floating-point number of either width is a bit pattern.  `BinaryFormat.classify` reads the
pattern as not-a-number, an infinity, or an exact value `mantissa * 2 ^ exponent`.  Everything
that prints, sorts or reduces such numbers exactly starts from this view.
-/

namespace WeatherRadar

/-- A binary interchange format: how many bits hold the fraction and how many the exponent. -/
structure BinaryFormat where
  fractionBits : Nat
  exponentBits : Nat
  deriving DecidableEq, Repr

namespace BinaryFormat

/-- The 64-bit format of `Float`. -/
def double : BinaryFormat := ⟨52, 11⟩

/-- The 32-bit format of `Float32`. -/
def single : BinaryFormat := ⟨23, 8⟩

/-- Exponent of the last place of the smallest numbers. -/
def minExponent (format : BinaryFormat) : Int :=
  2 - (Nat.pow 2 (format.exponentBits - 1) : Nat) - format.fractionBits

end BinaryFormat

/-- What a bit pattern stands for. -/
inductive BinaryValue where
  | nan
  | infinite (negative : Bool)
  /-- The number `± mantissa * 2 ^ exponent`. -/
  | finite (negative : Bool) (mantissa : Nat) (exponent : Int)
  deriving DecidableEq, Repr

/-- Reads a bit pattern of the given format. -/
def BinaryFormat.classify (format : BinaryFormat) (bits : Nat) : BinaryValue :=
  let fraction := bits % Nat.pow 2 format.fractionBits
  let biased := bits / Nat.pow 2 format.fractionBits % Nat.pow 2 format.exponentBits
  let negative := bits / Nat.pow 2 (format.fractionBits + format.exponentBits) % 2 == 1
  if biased == Nat.pow 2 format.exponentBits - 1 then
    if fraction == 0 then .infinite negative else .nan
  else if biased == 0 then
    .finite negative fraction format.minExponent
  else
    .finite negative (fraction + Nat.pow 2 format.fractionBits) (format.minExponent + biased - 1)

def BinaryValue.ofFloat (x : Float) : BinaryValue :=
  BinaryFormat.double.classify x.toBits.toNat

def BinaryValue.ofFloat32 (x : Float32) : BinaryValue :=
  BinaryFormat.single.classify x.toBits.toNat

/-- The number that a sign and a magnitude below `2 ^ 53` in units of `2 ^ exponent` stand for,
for exponents that keep every bit. -/
def assembleFloat (negative : Bool) (mantissa : Nat) (exponent : Int) : Float :=
  let magnitude :=
    if mantissa == 0 then 0
    else
      -- Move the leading bit to the hidden place, unless the number is subnormal.
      let shift := min (52 - (mantissa.log2 : Int)) (exponent + 1074)
      let whole := if shift ≥ 0 then mantissa <<< shift.toNat else mantissa >>> (-shift).toNat
      let place := exponent - shift + 1074
      if whole < 0x10000000000000 then whole
      else (place.toNat + 1) * 0x10000000000000 + (whole - 0x10000000000000)
  Float.ofBits (UInt64.ofNat (magnitude + if negative then 0x8000000000000000 else 0))

/-- The remainder of truncating division: it has the sign of the dividend and is exact. -/
def floatRemainder (x y : Float) : Float :=
  if x.abs < y.abs then x
  else match BinaryValue.ofFloat x, BinaryValue.ofFloat y with
  | .finite negative m e, .finite _ n f =>
    if n == 0 then 0.0 / 0.0
    else
      let low := min e f
      let rest := (m <<< (e - low).toNat) % (n <<< (f - low).toNat)
      assembleFloat negative rest low
  | _, _ => 0.0 / 0.0

/-- A whole number that sorts as the number does, negative zero before zero. -/
def floatRank (x : Float) : Int :=
  let bits := x.toBits.toNat
  if bits < 0x8000000000000000 then bits else 0x7FFFFFFFFFFFFFFF - (bits : Int)

/-- The natural number below a number: its whole part, zero for what is not positive, and
`2 ^ 64 - 1` at most. -/
@[inline] def floatWhole (x : Float) : Nat := x.toUInt64.toNat

/-- The nearest whole number, halves away from zero; zero for not-a-number and `± (2 ^ 64 - 1)`
at most. -/
def floatNearest (x : Float) : Int :=
  let magnitude := x.abs
  let whole := floatWhole magnitude
  let nearest := if magnitude - whole.toFloat ≥ 0.5 then whole + 1 else whole
  let bounded := min nearest 0xFFFFFFFFFFFFFFFF
  if x < 0.0 then -(bounded : Int) else bounded

end WeatherRadar
