import WeatherRadar.Angle
import WeatherRadar.Proofs.Number.FloatRank
/-!
# Azimuths of finite angles

The remainder of a finite number is put together from its sign, a mantissa and an exponent, and such
a number has bits that are not those of not-a-number as long as the exponent is not too large
(`isNaN_assembleFloat`).  So the azimuth of a finite angle is a number (`isNaN_normalizeAzimuth`).
-/

namespace WeatherRadar

open Float.Model Float.Model.UnpackedFloat

/-! ## Numbers put together -/

theorem isNaN_ofBits {bits : UInt64} (h : bits.toNat / 0x10000000000000 % 2048 ≠ 2047) :
    (Float.ofBits bits).isNaN = false := by
  have hexponent : ¬@unpackExponent .binary64 bits.toBitVec = -1#11 := by
    rw [unpackExponent_eq_ones_iff]
    exact h
  show (Float.Model.pack _).isNaN = false
  rw [isNaN_pack, UnpackedFloat.unpack]
  dsimp only
  rw [if_neg hexponent]
  exact isNaN_ite (isNaN_dite (fun _ => rfl) fun _ => rfl) rfl

/-- A number that is moved so that its highest bit is at most the 53rd. -/
theorem shifted_lt {n : Nat} {shift : Int} (h : shift ≤ 52 - (n.log2 : Int)) :
    (if shift ≥ 0 then n <<< shift.toNat else n >>> (-shift).toNat) < 2 ^ 53 := by
  have hlog : n < 2 ^ (n.log2 + 1) := Nat.lt_log2_self
  split
  · rw [Nat.shiftLeft_eq]
    calc n * 2 ^ shift.toNat < 2 ^ (n.log2 + 1) * 2 ^ shift.toNat :=
          Nat.mul_lt_mul_of_pos_right hlog (Nat.two_pow_pos _)
      _ = 2 ^ (n.log2 + 1 + shift.toNat) := (Nat.pow_add _ _ _).symm
      _ ≤ 2 ^ 53 := Nat.pow_le_pow_right (by decide) (by omega)
  · rw [Nat.shiftRight_eq_div_pow]
    apply Nat.div_lt_of_lt_mul
    calc n < 2 ^ (n.log2 + 1) := hlog
      _ ≤ 2 ^ ((-shift).toNat + 53) := Nat.pow_le_pow_right (by decide) (by omega)
      _ = 2 ^ (-shift).toNat * 2 ^ 53 := Nat.pow_add _ _ _

theorem isNaN_assembleFloat (negative : Bool) {mantissa : Nat} {exponent : Int}
    (h : (mantissa.log2 : Int) + exponent < 1024) :
    (assembleFloat negative mantissa exponent).isNaN = false := by
  unfold assembleFloat
  dsimp only
  generalize hmagnitude : (if (mantissa == 0) = true then (0 : Nat) else _) = magnitude
  have hlt : magnitude < 0x7FF0000000000000 := by
    rw [← hmagnitude]
    split
    · decide
    · generalize hshift : min (52 - (mantissa.log2 : Int)) (exponent + 1074) = shift
      have hwhole := shifted_lt (show shift ≤ 52 - (mantissa.log2 : Int) by omega)
      generalize (if shift ≥ 0 then mantissa <<< shift.toNat else mantissa >>> (-shift).toNat) =
        whole at hwhole ⊢
      split
      · omega
      · omega
  have hbits : magnitude + (if negative = true then 0x8000000000000000 else 0) < 2 ^ 64 := by
    split <;> omega
  apply isNaN_ofBits
  rw [UInt64.toNat_ofNat_of_lt' hbits]
  split <;> omega

/-! ## Remainders -/

/-- The bits of a finite number tell its mantissa and its exponent. -/
theorem ofFloat_of_isFinite {x : Float} (hx : x.isFinite = true) :
    ∃ negative mantissa exponent, BinaryValue.ofFloat x = .finite negative mantissa exponent := by
  have hexponent : x.toBits.toNat / 0x10000000000000 % 2048 ≠ 2047 := by
    intro hbits
    have hones := (unpackExponent_eq_ones_iff x.toModel.toBits.toBitVec).2 hbits
    have hx : (UnpackedFloat.unpack .binary64 x.toModel.toBits.toBitVec).isFinite = true := hx
    rw [UnpackedFloat.unpack] at hx
    dsimp only at hx
    rw [if_pos hones] at hx
    split at hx <;> cases hx
  have hsmall : ¬(x.toBits.toNat / Nat.pow 2 BinaryFormat.double.fractionBits %
      Nat.pow 2 BinaryFormat.double.exponentBits ==
        Nat.pow 2 BinaryFormat.double.exponentBits - 1) = true := by
    rw [beq_iff_eq]
    exact hexponent
  rw [BinaryValue.ofFloat, BinaryFormat.classify, if_neg hsmall]
  split
  · exact ⟨_, _, _, rfl⟩
  · exact ⟨_, _, _, rfl⟩

theorem log2_add_lt {n k : Nat} (h : n < 2 ^ k) {low bound : Int} (hlow : low + k ≤ bound) :
    (n.log2 : Int) + low ≤ bound := by
  by_cases hn : n = 0
  · rw [hn, Nat.log2_zero]
    omega
  · have hlog := (Nat.log2_lt hn).2 h
    omega

theorem isNaN_floatRemainder {x : Float} (hx : x.isFinite = true) :
    (floatRemainder x fullTurn).isNaN = false := by
  have hturn : BinaryValue.ofFloat fullTurn = .finite false 0x16800000000000 (-44) := by
    decide +kernel
  obtain ⟨negative, m, e, hvalue⟩ := ofFloat_of_isFinite hx
  rw [floatRemainder, hvalue, hturn]
  dsimp only
  split
  · exact isNaN_of_isFinite hx
  · split
    · next hzero => cases hzero
    · -- The remainder is less than a turn in the same unit, which is of 53 bits.
      apply isNaN_assembleFloat
      generalize hlow : min e (-44) = low
      have hpos : 0 < 0x16800000000000 <<< (-44 - low).toNat := by
        rw [Nat.shiftLeft_eq]
        exact Nat.mul_pos (by decide) (Nat.two_pow_pos _)
      have hrest : m <<< (e - low).toNat % 0x16800000000000 <<< (-44 - low).toNat <
          2 ^ (53 + (-44 - low).toNat) := by
        calc _ < 0x16800000000000 <<< (-44 - low).toNat := Nat.mod_lt _ hpos
          _ = 0x16800000000000 * 2 ^ (-44 - low).toNat := Nat.shiftLeft_eq _ _
          _ ≤ 2 ^ 53 * 2 ^ (-44 - low).toNat := Nat.mul_le_mul_right _ (by decide)
          _ = 2 ^ (53 + (-44 - low).toNat) := (Nat.pow_add _ _ _).symm
      have hlog := log2_add_lt hrest (show low + (53 + (-44 - low).toNat : Nat) ≤ 9 by omega)
      omega

/-! ## Azimuths -/

theorem isNaN_normalizeAzimuth {x : Float} (hx : x.isFinite = true) :
    (normalizeAzimuth x).isNaN = false := by
  have hturn : (fullTurn : Float).isFinite = true := by decide +kernel
  have hremainder := isNaN_floatRemainder hx
  have heuclid : (euclideanRemainder x fullTurn).isNaN = false := by
    rw [euclideanRemainder]
    split
    · exact isNaN_add hremainder (isNaN_of_isFinite hturn) (Or.inr hturn)
    · exact hremainder
  rw [normalizeAzimuth, if_pos (show Scalar.isFinite x = true from hx)]
  dsimp only
  split
  · decide +kernel
  · exact heuclid

end WeatherRadar
