import WeatherRadar.Number.Binary
/-!
# Shortest decimals

The shortest decimal of a binary number is the one with the fewest digits among those that read
back as that number, and of these the nearest to it.  The search runs over grids `10 ^ k` of
decreasing coarseness: if a grid has a point that reads back, one of the two grid points around
the number does.
-/

namespace WeatherRadar

/-- A positive decimal `digits * 10 ^ exponent`. -/
structure Decimal where
  digits : Nat
  exponent : Int
  deriving DecidableEq, Repr

namespace Shortest

/-- The interval of reals that round to a number: the number, and its distance to both ends, as
multiples of `unit / scale`. -/
structure Window where
  value : Nat
  below : Nat
  above : Nat
  scale : Nat
  closed : Bool

/-- The interval around `mantissa * 2 ^ exponent`.  It is narrower below a power of two, where the
numbers below lie closer together, and holds its ends when the mantissa is even. -/
def window (format : BinaryFormat) (mantissa : Nat) (exponent : Int) : Window :=
  let up := Nat.pow 2 (exponent - 2).toNat
  let narrow := mantissa == Nat.pow 2 format.fractionBits && exponent != format.minExponent
  { value := 4 * mantissa * up
    below := (if narrow then 1 else 2) * up
    above := 2 * up
    scale := Nat.pow 2 (2 - exponent).toNat
    closed := mantissa % 2 == 0 }

/-- Whether `digits * 10 ^ place` lies in the interval. -/
def Window.holds (w : Window) (digits : Nat) (place : Int) : Bool :=
  let point := digits * Nat.pow 10 place.toNat * w.scale
  let tens := Nat.pow 10 (-place).toNat
  let low := (w.value - w.below) * tens
  let high := (w.value + w.above) * tens
  if w.closed then low ≤ point && point ≤ high else low < point && point < high

/-- The point of the grid `10 ^ place` not above the number. -/
def Window.floor (w : Window) (place : Int) : Nat :=
  w.value * Nat.pow 10 (-place).toNat / (w.scale * Nat.pow 10 place.toNat)

/-- Whether the number is at least as close to the grid point after `digits` as to `digits`. -/
def Window.roundsUp (w : Window) (digits : Nat) (place : Int) : Bool :=
  (2 * digits + 1) * Nat.pow 10 place.toNat * w.scale ≤ 2 * w.value * Nat.pow 10 (-place).toNat

/-- A grid point that reads back as the number, the nearer of two.  Rounding up may reach the next
power of ten, which is then written with one digit. -/
def Window.pick? (w : Window) (place : Int) : Option Decimal :=
  let digits := w.floor place
  let lower := digits != 0 && w.holds digits place
  let upper := w.holds (digits + 1) place
  if upper && (!lower || w.roundsUp digits place) then
    if digits == 9 then some ⟨1, place + 1⟩ else some ⟨digits + 1, place⟩
  else if lower then some ⟨digits, place⟩
  else none

def Window.search (w : Window) : Nat → Int → Decimal
  | 0, place => ⟨w.floor place, place⟩
  | tries + 1, place => (w.pick? place).getD (w.search tries (place - 1))

/-- The power of ten not above the number. -/
def Window.magnitude (w : Window) (mantissa : Nat) (exponent : Int) : Int :=
  let guess := ((mantissa.log2 : Int) + exponent) * 30103 / 100000
  let next := guess + 1
  if Nat.pow 10 next.toNat * w.scale ≤ w.value * Nat.pow 10 (-next).toNat then next else guess

end Shortest

/-- The shortest decimal that reads back as `mantissa * 2 ^ exponent`; a tie goes up. -/
def shortestDecimal (format : BinaryFormat) (mantissa : Nat) (exponent : Int) : Decimal :=
  let w := Shortest.window format mantissa exponent
  w.search 18 (w.magnitude mantissa exponent)

end WeatherRadar
