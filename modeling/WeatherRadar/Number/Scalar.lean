import WeatherRadar.Number.Binary
/-!
# The numbers that angles and positions are computed in

Angles, wedges, boxes and grids only need field operations, comparisons and a few conversions to
whole numbers.  `Scalar` collects them, so that one definition serves the floating-point numbers
that run and the exact rationals that theorems speak about.
-/

namespace WeatherRadar

/-- Numbers with arithmetic, comparisons and conversions to whole numbers. -/
class Scalar (α : Type) extends Add α, Sub α, Mul α, Div α, Neg α where
  ofInt : Int → α
  lt : α → α → Bool
  le : α → α → Bool
  /-- A total order, also where `lt` cannot tell two numbers apart. -/
  sortsBefore : α → α → Bool
  isFinite : α → Bool
  remainder : α → α → α
  /-- The whole part of a number, zero for what is not positive. -/
  whole : α → Nat
  /-- The nearest whole number, halves away from zero. -/
  nearest : α → Int

namespace Scalar

variable {α : Type} [Scalar α]

@[inline] def ofNat (n : Nat) : α := ofInt n

/-- Equality of numbers: neither is less, and both can be compared. -/
@[inline] def eq (x y : α) : Bool := le x y && le y x

/-- The lesser of two numbers: the first of equals, and the other one of a number that cannot be
compared. -/
@[inline] def min (x y : α) : α := if le x x then (if lt y x then y else x) else y

/-- The greater of two numbers, with the conventions of `Scalar.min`. -/
@[inline] def max (x y : α) : α := if le x x then (if lt x y then y else x) else y

@[inline] def abs (x : α) : α := if lt x (ofInt 0) then -x else x

end Scalar

instance : Scalar Float where
  ofInt n := match n with
    | .ofNat n => n.toFloat
    | .negSucc n => -(n + 1).toFloat
  lt x y := x < y
  le x y := x ≤ y
  sortsBefore x y := floatRank x ≤ floatRank y
  isFinite x := x.isFinite
  remainder x y := floatRemainder x y
  whole x := floatWhole x
  nearest x := floatNearest x

instance : Scalar Rat where
  ofInt n := n
  lt x y := x < y
  le x y := x ≤ y
  sortsBefore x y := x ≤ y
  isFinite _ := true
  remainder x y := x - y * (x / y).num.tdiv (x / y).den
  whole x := x.floor.toNat
  nearest x := if x < 0 then -(1 / 2 - x).floor else (1 / 2 + x).floor

end WeatherRadar
