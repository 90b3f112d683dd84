import Mathlib.Algebra.Order.ToIntervalMod
import Mathlib.Algebra.Order.Ring.Rat
import Mathlib.Data.Rat.Floor
import Mathlib.Tactic.FieldSimp
import Mathlib.Tactic.Linarith
import Mathlib.Tactic.Ring
import WeatherRadar.Angle
/-!
# Azimuths of exact numbers

With rational numbers the azimuth of an angle is its representative in `[0, 360)` modulo a full turn
(`normalizeAzimuth_eq_iff`), and the way from one azimuth to another is what has to be added modulo
a full turn (`clockwiseDelta_eq_iff`).  So ways do not change when everything is turned.
-/

namespace WeatherRadar

open AddCommGroup

/-! ## Arithmetic -/

@[simp] theorem scalar_ofInt_rat (n : Int) : (Scalar.ofInt n : Rat) = n := rfl

@[simp] theorem scalar_lt_rat (x y : Rat) : Scalar.lt x y = true ↔ x < y := decide_eq_true_iff

@[simp] theorem scalar_le_rat (x y : Rat) : Scalar.le x y = true ↔ x ≤ y := decide_eq_true_iff

@[simp] theorem scalar_eq_rat (x y : Rat) : Scalar.eq x y = true ↔ x = y := by
  rw [Scalar.eq, Bool.and_eq_true, scalar_le_rat, scalar_le_rat, le_antisymm_iff]

@[simp] theorem scalar_whole_rat (x : Rat) : Scalar.whole x = ⌊x⌋₊ := Int.floor_toNat x

@[simp] theorem scalar_isFinite_rat (x : Rat) : Scalar.isFinite x = true := rfl

@[simp] theorem scalar_min_rat (x y : Rat) : Scalar.min x y = min x y := by
  simp only [Scalar.min, scalar_le_rat, le_refl, if_true, scalar_lt_rat]
  by_cases hlt : y < x
  · rw [if_pos hlt, min_eq_right hlt.le]
  · rw [if_neg hlt, min_eq_left (not_lt.1 hlt)]

@[simp] theorem scalar_max_rat (x y : Rat) : Scalar.max x y = max x y := by
  simp only [Scalar.max, scalar_le_rat, le_refl, if_true, scalar_lt_rat]
  by_cases hlt : x < y
  · rw [if_pos hlt, max_eq_right hlt.le]
  · rw [if_neg hlt, max_eq_left (not_lt.1 hlt)]

@[simp] theorem scalar_abs_rat (x : Rat) : Scalar.abs x = |x| := by
  simp only [Scalar.abs, scalar_ofInt_rat, Int.cast_zero, scalar_lt_rat]
  by_cases hneg : x < 0
  · rw [if_pos hneg, abs_of_neg hneg]
  · rw [if_neg hneg, abs_of_nonneg (not_lt.1 hneg)]

@[simp] theorem fullTurn_rat : (fullTurn : Rat) = 360 := rfl

/-! ## One turn -/

/-- The remainder of a division by a full turn is less than a turn, on either side of north. -/
theorem remainder_fullTurn (x : Rat) :
    -360 < Scalar.remainder x 360 ∧ Scalar.remainder x 360 < 360 ∧
      ∃ turns : Int, x = Scalar.remainder x 360 + turns • 360 := by
  generalize hq : x / 360 = q
  have hx : x = 360 * (q.num / q.den) := by
    rw [Rat.num_div_den, ← hq]
    ring
  have hden : (0 : Rat) < q.den := Nat.cast_pos.2 q.den_pos
  have hpos : (0 : Int) < q.den := Int.natCast_pos.2 q.den_pos
  have hlow : -(q.den : Rat) < (q.num.tmod q.den : Int) := by
    exact_mod_cast Int.lt_tmod_of_pos q.num hpos
  have hhigh : ((q.num.tmod q.den : Int) : Rat) < q.den := by
    exact_mod_cast Int.tmod_lt_of_pos q.num hpos
  have hsplit : (q.num : Rat) = (q.num.tmod q.den : Int) + q.den * (q.num.tdiv q.den : Int) := by
    exact_mod_cast (Int.tmod_add_mul_tdiv q.num q.den).symm
  have hr : Scalar.remainder x 360 = 360 * ((q.num.tmod q.den : Int) / q.den) := by
    show x - 360 * ((x / 360).num.tdiv (x / 360).den : Int) = _
    rw [hq, hx, hsplit]
    field_simp
    ring
  refine ⟨?_, ?_, q.num.tdiv q.den, ?_⟩
  · rw [hr]
    have := (lt_div_iff₀ hden).2 (show -1 * (q.den : Rat) < (q.num.tmod q.den : Int) by linarith)
    linarith
  · rw [hr]
    have := (div_lt_one hden).2 hhigh
    linarith
  · rw [hr, hx]
    nth_rewrite 1 [hsplit]
    rw [zsmul_eq_mul]
    field_simp

/-- A turn leads to where one was. -/
theorem add_self_modEq (x : Rat) : x + 360 ≡ x [PMOD 360] := by
  have hturn := add_nsmul_modEq (p := (360 : Rat)) (a := x) 1
  rwa [one_nsmul] at hturn

/-- The azimuth of an angle points the same way and lies in `[0, 360)`. -/
theorem normalizeAzimuth_spec (x : Rat) :
    0 ≤ normalizeAzimuth x ∧ normalizeAzimuth x < 360 ∧ normalizeAzimuth x ≡ x [PMOD 360] := by
  obtain ⟨hlow, hhigh, turns, hturns⟩ := remainder_fullTurn x
  rw [normalizeAzimuth, if_pos (scalar_isFinite_rat x), euclideanRemainder]
  simp only [fullTurn_rat, scalar_ofInt_rat, Int.cast_zero, scalar_lt_rat, scalar_le_rat]
  generalize Scalar.remainder x 360 = r at *
  have hsame : r ≡ x [PMOD 360] := modEq_iff_eq_add_zsmul.2 ⟨turns, hturns⟩
  by_cases hneg : r < 0
  · rw [if_pos hneg, if_neg (by linarith)]
    exact ⟨by linarith, by linarith, (add_self_modEq r).trans hsame⟩
  · rw [if_neg hneg, if_neg (by linarith)]
    exact ⟨by linarith, by linarith, hsame⟩

theorem normalizeAzimuth_nonneg (x : Rat) : 0 ≤ normalizeAzimuth x := (normalizeAzimuth_spec x).1

theorem normalizeAzimuth_lt (x : Rat) : normalizeAzimuth x < 360 := (normalizeAzimuth_spec x).2.1

theorem normalizeAzimuth_modEq (x : Rat) : normalizeAzimuth x ≡ x [PMOD 360] :=
  (normalizeAzimuth_spec x).2.2

/-- Azimuths less than a turn apart that point the same way are equal. -/
theorem eq_of_modEq {x y : Rat} (h : x ≡ y [PMOD 360]) (hlow : -360 < y - x)
    (hhigh : y - x < 360) : x = y := by
  obtain ⟨turns, rfl⟩ := modEq_iff_eq_add_zsmul.1 h
  rw [zsmul_eq_mul] at hlow hhigh ⊢
  have habove : -1 < turns := by
    have hcast : (-1 : Rat) < turns := by linarith
    exact_mod_cast hcast
  have hbelow : turns < 1 := by
    have hcast : (turns : Rat) < 1 := by linarith
    exact_mod_cast hcast
  have hzero : turns = 0 := by omega
  rw [hzero, Int.cast_zero, zero_mul, add_zero]

theorem normalizeAzimuth_eq_iff {x y : Rat} :
    normalizeAzimuth x = y ↔ 0 ≤ y ∧ y < 360 ∧ y ≡ x [PMOD 360] := by
  constructor
  · rintro rfl
    exact normalizeAzimuth_spec x
  · rintro ⟨hlow, hhigh, hsame⟩
    have hnonneg := normalizeAzimuth_nonneg x
    have hlt := normalizeAzimuth_lt x
    exact eq_of_modEq ((normalizeAzimuth_modEq x).trans hsame.symm) (by linarith) (by linarith)

theorem normalizeAzimuth_eq_normalizeAzimuth_iff {x y : Rat} :
    normalizeAzimuth x = normalizeAzimuth y ↔ x ≡ y [PMOD 360] := by
  rw [normalizeAzimuth_eq_iff]
  constructor
  · rintro ⟨-, -, hsame⟩
    exact hsame.symm.trans (normalizeAzimuth_modEq y)
  · intro hsame
    exact ⟨normalizeAzimuth_nonneg y, normalizeAzimuth_lt y,
      (normalizeAzimuth_modEq y).trans hsame.symm⟩

/-! ## Ways -/

theorem clockwiseDelta_nonneg (x y : Rat) : 0 ≤ clockwiseDelta x y := normalizeAzimuth_nonneg _

theorem clockwiseDelta_lt (x y : Rat) : clockwiseDelta x y < 360 := normalizeAzimuth_lt _

theorem add_clockwiseDelta_modEq (x y : Rat) : x + clockwiseDelta x y ≡ y [PMOD 360] := by
  have hsame := (normalizeAzimuth_modEq (y - x)).add_left x
  rwa [add_sub_cancel] at hsame

/-- The way to what lies less than a turn ahead. -/
theorem clockwiseDelta_eq_iff {x y way : Rat} :
    clockwiseDelta x y = way ↔ 0 ≤ way ∧ way < 360 ∧ x + way ≡ y [PMOD 360] := by
  rw [clockwiseDelta, normalizeAzimuth_eq_iff]
  have hsame : way ≡ y - x [PMOD 360] ↔ x + way ≡ y [PMOD 360] := by
    constructor
    · intro h
      have hadd := h.add_left x
      rwa [add_sub_cancel] at hadd
    · intro h
      have hsub := h.sub_right x
      rwa [add_sub_cancel_left] at hsub
  rw [hsame]

/-- Ways only depend on where azimuths point. -/
theorem clockwiseDelta_congr {x x' y y' : Rat} (hx : x ≡ x' [PMOD 360])
    (hy : y ≡ y' [PMOD 360]) : clockwiseDelta x y = clockwiseDelta x' y' :=
  normalizeAzimuth_eq_normalizeAzimuth_iff.2 (hy.sub hx)

/-- Ways do not change when both ends are turned. -/
theorem clockwiseDelta_add_right (x y c : Rat) :
    clockwiseDelta (x + c) (y + c) = clockwiseDelta x y := by
  rw [clockwiseDelta, clockwiseDelta, add_sub_add_right_eq_sub]

theorem clockwiseDelta_of_le {x y : Rat} (hle : x ≤ y) (hlt : y - x < 360) :
    clockwiseDelta x y = y - x := by
  rw [clockwiseDelta_eq_iff, add_sub_cancel]
  exact ⟨sub_nonneg.2 hle, hlt, modEq_rfl⟩

/-- No way clockwise is shorter. -/
theorem clockwiseDelta_le {x y way : Rat} (hnonneg : 0 ≤ way) (hway : x + way ≡ y [PMOD 360]) :
    clockwiseDelta x y ≤ way := by
  by_cases hlt : way < 360
  · exact (clockwiseDelta_eq_iff.2 ⟨hnonneg, hlt, hway⟩).le
  · exact (clockwiseDelta_lt x y).le.trans (not_lt.1 hlt)

theorem clockwiseDelta_self (x : Rat) : clockwiseDelta x x = 0 := by
  rw [clockwiseDelta_of_le le_rfl (by rw [sub_self]; norm_num), sub_self]

end WeatherRadar
