import WeatherRadar.Level3.Symbology
import WeatherRadar.Level3.Writing
/-!
# Degrees in tenths and thousandths

Products hold angles in tenths of a degree and positions in thousandths.  `ExactDegrees` says that
numbers keep them exactly, and the rational numbers do (`exactDegrees_rat`).
-/

namespace WeatherRadar.Level3

open Symbology

/-- Numbers in which tenths and thousandths of a degree are found again after they are divided and
multiplied, and azimuths after they are brought into one turn. -/
structure ExactDegrees (α : Type) [Scalar α] : Prop where
  tenths : ∀ n : Int16, tenthsOf (degrees n : α) = n
  thousandths : ∀ n : Int32,
    thousandthsOf (Scalar.ofInt n.toInt / Scalar.ofInt 1000 : α) = n
  azimuth : ∀ n : Int16, normalizeAzimuth (degrees (tenthsOf (normalizeAzimuth
    (degrees n : α)))) = normalizeAzimuth (degrees n : α)

/-! ## Rounding -/

theorem nearest_intCast (n : Int) : Scalar.nearest (n : Rat) = n := by
  have hhalf : ∀ m : Int, (1 / 2 + (m : Rat)).floor = m := by
    intro m
    rw [Rat.floor_add_intCast]
    have hzero : (1 / 2 : Rat).floor = 0 := by decide +kernel
    rw [hzero, Int.zero_add]
  show (if (n : Rat) < 0 then -(1 / 2 - (n : Rat)).floor else (1 / 2 + (n : Rat)).floor) = n
  split
  · have hneg := hhalf (-n)
    rw [Rat.intCast_neg, ← Rat.sub_eq_add_neg] at hneg
    rw [hneg, Int.neg_neg]
  · exact hhalf n

theorem saturate16_toInt (n : Int16) : saturate16 n.toInt = n := by
  have hlow := n.le_toInt
  have hhigh := n.toInt_lt
  have hmin : min n.toInt 0x7FFF = n.toInt := by omega
  have hmax : max (-0x8000) n.toInt = n.toInt := by omega
  rw [saturate16, hmin, hmax, Int16.ofInt_toInt]

theorem saturate32_toInt (n : Int32) : saturate32 n.toInt = n := by
  have hlow := n.le_toInt
  have hhigh := n.toInt_lt
  have hmin : min n.toInt 0x7FFFFFFF = n.toInt := by omega
  have hmax : max (-0x80000000) n.toInt = n.toInt := by omega
  rw [saturate32, hmin, hmax, Int32.ofInt_toInt]

theorem nearest_div_mul (n : Int) {d : Int} (hd : d ≠ 0) :
    Scalar.nearest ((Scalar.ofInt n / Scalar.ofInt d : Rat) * Scalar.ofInt d) = n := by
  have hcancel : ((n : Rat) / (d : Rat)) * (d : Rat) = n := by
    apply Rat.div_mul_cancel
    intro hzero
    exact hd (Rat.intCast_eq_zero_iff.1 hzero)
  have hsame : (Scalar.ofInt n / Scalar.ofInt d : Rat) * Scalar.ofInt d = n := hcancel
  rw [hsame, nearest_intCast]

/-! ## Azimuths -/

/-- The quotient of two whole numbers, cut towards zero, whatever common factor they have. -/
theorem tdiv_num_den (n : Int) {d : Int} (hd : 0 < d) :
    ((n : Rat) / (d : Rat)).num.tdiv ((n : Rat) / (d : Rat)).den = n.tdiv d := by
  rw [← Rat.divInt_eq_div]
  generalize hq : Rat.divInt n d = q
  have hden : (0 : Int) < q.den := Int.natCast_pos.2 q.den_pos
  have hcross : q.num * d = n * q.den := by
    rw [← Rat.divInt_eq_divInt_iff (Int.ne_of_gt hden) (Int.ne_of_gt hd), Rat.num_divInt_den, hq]
  calc q.num.tdiv q.den
      = (q.num * d).tdiv (q.den * d) := (Int.mul_tdiv_mul_of_pos_left _ _ hd).symm
    _ = (n * q.den).tdiv (d * q.den) := by rw [hcross, Int.mul_comm d]
    _ = n.tdiv d := Int.mul_tdiv_mul_of_pos_left _ _ hden

theorem remainder_degrees (n : Int16) :
    Scalar.remainder (degrees n : Rat) fullTurn = ((n.toInt.tmod 3600 : Int) : Rat) / 10 := by
  show (n.toInt : Rat) / (10 : Int) - (360 : Int) *
    (((n.toInt : Rat) / (10 : Int) / (360 : Int)).num.tdiv
      ((n.toInt : Rat) / (10 : Int) / (360 : Int)).den : Int) = _
  have hquotient : (n.toInt : Rat) / (10 : Int) / (360 : Int) = (n.toInt : Rat) / (3600 : Int) := by
    grind
  rw [hquotient, tdiv_num_den n.toInt (by decide), Int.tmod_def]
  grind

theorem euclideanRemainder_degrees (n : Int16) :
    euclideanRemainder (degrees n : Rat) fullTurn = ((n.toInt % 3600 : Int) : Rat) / 10 := by
  have hlow := Int.lt_tmod_of_pos n.toInt (show (0 : Int) < 3600 by decide)
  have hhigh := Int.tmod_lt_of_pos n.toInt (show (0 : Int) < 3600 by decide)
  have hsplit := Int.tmod_add_mul_tdiv n.toInt 3600
  rw [euclideanRemainder, remainder_degrees]
  generalize n.toInt.tmod 3600 = r at hlow hhigh hsplit ⊢
  show (if decide ((r : Rat) / 10 < (0 : Int)) = true then (r : Rat) / 10 + (360 : Int)
    else (r : Rat) / 10) = _
  by_cases hneg : r < 0
  · have hmod : n.toInt % 3600 = r + 3600 := by omega
    have hcast : (r : Rat) < ((0 : Int) : Rat) := Rat.intCast_lt_intCast.2 hneg
    rw [if_pos (decide_eq_true (by grind)), hmod, Rat.intCast_add]
    grind
  · have hmod : n.toInt % 3600 = r := by omega
    have hcast : ((0 : Int) : Rat) ≤ (r : Rat) := Rat.intCast_le_intCast.2 (Int.not_lt.1 hneg)
    rw [if_neg (by simp only [decide_eq_true_eq]; grind), hmod]

/-- The azimuth of some tenths is that of their remainder in a turn. -/
theorem normalizeAzimuth_degrees (n : Int16) :
    normalizeAzimuth (degrees n : Rat) = ((n.toInt % 3600 : Int) : Rat) / 10 := by
  have hlt : n.toInt % 3600 < 3600 := Int.emod_lt_of_pos _ (by decide)
  have hless : ¬ ((360 : Int) : Rat) ≤ ((n.toInt % 3600 : Int) : Rat) / 10 := by
    have hcast : ((n.toInt % 3600 : Int) : Rat) < ((3600 : Int) : Rat) :=
      Rat.intCast_lt_intCast.2 hlt
    grind
  have hfinite : Scalar.isFinite (degrees n : Rat) = true := rfl
  have hle : Scalar.le fullTurn (((n.toInt % 3600 : Int) : Rat) / 10) = false :=
    decide_eq_false hless
  rw [normalizeAzimuth, if_pos hfinite, euclideanRemainder_degrees]
  simp only [hle, Bool.false_eq_true, if_false]

theorem tenthsOf_degrees (n : Int16) : tenthsOf (degrees n : Rat) = n := by
  rw [tenthsOf, degrees, nearest_div_mul n.toInt (by decide), saturate16_toInt]

/-- Rational numbers keep angles and positions exactly. -/
theorem exactDegrees_rat : ExactDegrees Rat where
  tenths := tenthsOf_degrees
  thousandths n := by
    rw [thousandthsOf, nearest_div_mul n.toInt (by decide), saturate32_toInt]
  azimuth n := by
    have hlow : 0 ≤ n.toInt % 3600 := Int.emod_nonneg _ (by decide)
    have hhigh : n.toInt % 3600 < 3600 := Int.emod_lt_of_pos _ (by decide)
    -- The azimuth is a number of tenths of its own, less than a turn.
    have hwhole : (Int16.ofInt (n.toInt % 3600)).toInt = n.toInt % 3600 :=
      Int16.toInt_ofInt_of_le (by omega) (by omega)
    have hazimuth : normalizeAzimuth (degrees n : Rat) =
        degrees (Int16.ofInt (n.toInt % 3600)) := by
      rw [normalizeAzimuth_degrees, degrees, hwhole]
      rfl
    rw [hazimuth, tenthsOf_degrees, normalizeAzimuth_degrees, degrees, hwhole,
      Int.emod_emod_of_dvd _ (Int.dvd_refl 3600)]
    rfl

end WeatherRadar.Level3
