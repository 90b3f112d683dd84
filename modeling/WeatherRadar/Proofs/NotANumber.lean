import WeatherRadar.Geo.GateGeometry
import WeatherRadar.Proofs.FloatOrder
/-!
# Floating-point numbers that can be compared

Not-a-number is neither below nor above anything, and arithmetic carries it on.  Of any two other
numbers, one is at most the other one (`lt_iff_not_le`).  The range behind the last gate of a usable
layout is a number (`isNaN_maxRange`), so a slant range with a gate is either below it or not.
-/

namespace WeatherRadar

open Float.Model Float.Model.UnpackedFloat

theorem eq_notANumber_of_isNaN {f : UnpackedFloat} (h : f.isNaN = true) : f = .notANumber := by
  cases f with
  | notANumber => rfl
  | infinity _ => cases h
  | zero _ => cases h
  | finite _ _ _ _ => cases h

theorem isNaN_dite {c : Prop} [Decidable c] {f : c → UnpackedFloat} {g : ¬c → UnpackedFloat}
    (hf : ∀ h, (f h).isNaN = false) (hg : ∀ h, (g h).isNaN = false) :
    (dite c f g).isNaN = false := by
  by_cases h : c
  · rw [dif_pos h]
    exact hf h
  · rw [dif_neg h]
    exact hg h

theorem isNaN_ite {c : Prop} [Decidable c] {a b : UnpackedFloat} (ha : a.isNaN = false)
    (hb : b.isNaN = false) : (if c then a else b).isNaN = false :=
  isNaN_dite (fun _ => ha) fun _ => hb

/-! ## Packed numbers -/

/-- Only the largest exponent is for what is not a number. -/
theorem isNaN_unpack_packComponents {sign : Sign} {exponent : BitVec 11} {mantissa : BitVec 52}
    (h : exponent ≠ -1#11) :
    (UnpackedFloat.unpack .binary64 (packComponents .binary64 sign exponent mantissa)).isNaN =
      false := by
  unfold UnpackedFloat.unpack
  dsimp only
  rw [unpackExponent_packComponents, if_neg h]
  exact isNaN_ite (isNaN_dite (fun _ => rfl) fun _ => rfl) rfl

theorem isNaN_pack (f : UnpackedFloat) : (Float.Model.pack f).isNaN = f.isNaN := by
  show (UnpackedFloat.unpack .binary64 (UnpackedFloat.pack .binary64 f)).isNaN = f.isNaN
  have hinfinity : ∀ sign, (UnpackedFloat.unpack .binary64 (packedInfinity .binary64 sign)).isNaN =
      false := by
    intro sign
    cases sign with
    | positive => rfl
    | negative => rfl
  cases f with
  | notANumber => rfl
  | infinity sign => exact hinfinity sign
  | zero sign => exact isNaN_unpack_packComponents (by decide)
  | finite sign mantissa exponent hpos =>
      show (UnpackedFloat.unpack .binary64 _).isNaN = false
      unfold UnpackedFloat.pack
      dsimp only
      split
      · exact hinfinity sign
      · next hsmall =>
          split
          · apply isNaN_unpack_packComponents
            intro hexponent
            have hvalue := congrArg BitVec.toNat hexponent
            rw [BitVec.toNat_ofNat] at hvalue
            have hall : (-1#11).toNat = 2047 := by decide
            omega
          · exact isNaN_unpack_packComponents (by decide)

theorem isNaN_of_isFinite {x : Float} (h : x.isFinite = true) : x.isNaN = false :=
  unpacked_isNaN_of_isFinite h

/-! ## Comparisons -/

theorem float_le_iff (x y : Float) : x ≤ y ↔ x.toModel.unpack.le y.toModel.unpack = true := by
  show decide (x.toModel ≤ y.toModel) = true ↔ _
  exact decide_eq_true_iff

theorem float_lt_iff (x y : Float) : x < y ↔ x.toModel.unpack.lt y.toModel.unpack = true := by
  show decide (x.toModel < y.toModel) = true ↔ _
  exact decide_eq_true_iff

theorem lt_iff_not_le {x y : Float} (hx : x.isNaN = false) (hy : y.isNaN = false) :
    x < y ↔ ¬y ≤ x := by
  rw [float_lt_iff, float_le_iff]
  exact unpacked_lt_iff_not_le hx hy

theorem not_le_of_isNaN (x : Float) {y : Float} (hy : y.isNaN = true) : ¬x ≤ y := by
  rw [float_le_iff]
  exact unpacked_not_le_of_isNaN _ hy

/-! ## Arithmetic -/

theorem isNaN_sub_left {x : Float} (hx : x.isNaN = true) (y : Float) : (x - y).isNaN = true := by
  have hsub : (x - y).isNaN =
      (UnpackedFloat.sub .binary64 x.toModel.unpack y.toModel.unpack).isNaN := isNaN_pack _
  rw [hsub, eq_notANumber_of_isNaN hx]
  cases y.toModel.unpack <;> rfl

theorem isNaN_div_left {x : Float} (hx : x.isNaN = true) (y : Float) : (x / y).isNaN = true := by
  have hdiv : (x / y).isNaN =
      (UnpackedFloat.div .binary64 x.toModel.unpack y.toModel.unpack).isNaN := isNaN_pack _
  rw [hdiv, eq_notANumber_of_isNaN hx]
  cases y.toModel.unpack <;> rfl

theorem isNaN_roundWithAccuracy (spec : Format) (sign : Sign) (mantissa : Nat) (exponent : Int)
    (accuracy : Accuracy) :
    (roundWithAccuracy spec sign mantissa exponent accuracy).isNaN = false := by
  unfold roundWithAccuracy
  dsimp only
  exact isNaN_dite (fun _ => rfl) fun _ => rfl

theorem isNaN_normalize (spec : Format) (mantissa exponent : Int) (sign : Sign) :
    (UnpackedFloat.normalize spec mantissa exponent sign).isNaN = false := by
  unfold UnpackedFloat.normalize
  split
  · exact isNaN_roundWithAccuracy _ _ _ _ _
  · rfl
  · exact isNaN_roundWithAccuracy _ _ _ _ _

theorem isNaN_ofScientific (spec : Format) (mantissa : Nat) (exponent : Int) :
    (UnpackedFloat.ofScientific spec mantissa exponent).isNaN = false := by
  unfold UnpackedFloat.ofScientific
  apply isNaN_dite
  · intro _
    rfl
  intro _
  apply isNaN_ite rfl
  apply isNaN_ite rfl
  apply isNaN_ite
  · exact isNaN_roundWithAccuracy _ _ _ _ _
  · exact isNaN_roundWithAccuracy _ _ _ _ _

/-- The sum of two numbers is a number, if one of them at least is finite. -/
theorem isNaN_add {x y : Float} (hx : x.isNaN = false) (hy : y.isNaN = false)
    (hfinite : x.isFinite = true ∨ y.isFinite = true) : (x + y).isNaN = false := by
  have hadd : (x + y).isNaN =
      (UnpackedFloat.add .binary64 x.toModel.unpack y.toModel.unpack).isNaN := isNaN_pack _
  rw [hadd]
  have hx : x.toModel.unpack.isNaN = false := hx
  have hy : y.toModel.unpack.isNaN = false := hy
  have hfinite : x.toModel.unpack.isFinite = true ∨ y.toModel.unpack.isFinite = true := hfinite
  generalize x.toModel.unpack = a at *
  generalize y.toModel.unpack = b at *
  cases a with
  | notANumber => cases hx
  | infinity _ =>
      cases b with
      | notANumber => cases hy
      | infinity _ => exact hfinite.elim nofun nofun
      | zero _ => rfl
      | finite _ _ _ _ => rfl
  | zero _ =>
      cases b with
      | notANumber => cases hy
      | infinity _ => rfl
      | zero _ => exact isNaN_ite rfl rfl
      | finite _ _ _ _ => rfl
  | finite _ _ _ _ =>
      cases b with
      | notANumber => cases hy
      | infinity _ => rfl
      | zero _ => rfl
      | finite _ _ _ _ => exact isNaN_normalize _ _ _ _

theorem unpack_zero : (0.0 : Float).toModel.unpack = .zero .positive := by rfl

/-- The product of any number and a finite one that is positive is a number. -/
theorem isNaN_mul {x y : Float} (hx : x.isNaN = false) (hy : y.isFinite = true)
    (hpos : ¬y ≤ 0.0) : (x * y).isNaN = false := by
  have hmul : (x * y).isNaN =
      (UnpackedFloat.mul .binary64 x.toModel.unpack y.toModel.unpack).isNaN := isNaN_pack _
  rw [hmul]
  have hx : x.toModel.unpack.isNaN = false := hx
  have hy : y.toModel.unpack.isFinite = true := hy
  rw [float_le_iff, unpack_zero] at hpos
  generalize x.toModel.unpack = a at *
  generalize y.toModel.unpack = b at *
  cases b with
  | notANumber => cases hy
  | infinity _ => cases hy
  | zero _ => exact absurd rfl hpos
  | finite _ _ _ _ =>
      cases a with
      | notANumber => cases hx
      | infinity _ => rfl
      | zero _ => rfl
      | finite _ _ _ _ => exact isNaN_roundWithAccuracy _ _ _ _ _

theorem isNaN_toFloat (n : Nat) : n.toFloat.isNaN = false := by
  show (Float.ofScientific n false 0).isNaN = false
  unfold Float.ofScientific
  split
  · have hwhole : n.toUInt64.toFloat.isNaN = false :=
      (isNaN_pack _).trans (isNaN_normalize _ _ _ _)
    have hone : (Float.ofBits 0x3FF0000000000000).isFinite = true ∧
        ¬Float.ofBits 0x3FF0000000000000 ≤ 0.0 := by decide +kernel
    exact isNaN_mul hwhole hone.1 hone.2
  · exact (isNaN_pack _).trans (isNaN_ofScientific _ _ _)

/-! ## Ranges of gates -/

namespace Geo.GateGeometry

variable {geometry : GateGeometry}

theorem finite_of_validate (h : geometry.validate = .ok ()) :
    geometry.firstGateRange.isFinite = true ∧ geometry.gateSpacing.isFinite = true ∧
      ¬geometry.gateSpacing ≤ 0.0 := by
  have hnone : geometry.fault? = none := by
    unfold validate at h
    split at h
    · cases h
    · assumption
  unfold fault? at hnone
  split at hnone
  · cases hnone
  next hspacing =>
    split at hnone
    · cases hnone
    next hfirst =>
      simp only [Bool.or_eq_true, Bool.not_eq_true', decide_eq_true_eq, not_or,
        Bool.not_eq_false] at hspacing hfirst
      exact ⟨hfirst.1, hspacing.1, hspacing.2⟩

theorem isNaN_maxRange (h : geometry.validate = .ok ()) (count : Nat) :
    (geometry.maxRange count).isNaN = false := by
  obtain ⟨hfirst, hfinite, hpositive⟩ := finite_of_validate h
  exact isNaN_add (isNaN_of_isFinite hfirst)
    (isNaN_mul (isNaN_toFloat count) hfinite hpositive) (Or.inl hfirst)

theorem lt_of_gateAt? {slantRange : Float} {count gate : Nat}
    (h : geometry.gateAt? slantRange count = some gate) : gate < count := by
  unfold gateAt? at h
  dsimp only at h
  split at h
  · split at h
    · next hlt => exact Option.some.inj h ▸ hlt
    · cases h
  · cases h

theorem isNaN_of_gateAt? {slantRange : Float} {count gate : Nat}
    (h : geometry.gateAt? slantRange count = some gate) : slantRange.isNaN = false := by
  rw [Bool.eq_false_iff]
  intro hnan
  unfold gateAt? at h
  dsimp only at h
  rw [if_neg (not_le_of_isNaN 0.0 (isNaN_div_left (isNaN_sub_left hnan _) _))] at h
  cases h

end Geo.GateGeometry

end WeatherRadar
