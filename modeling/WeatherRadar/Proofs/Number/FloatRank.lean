import Mathlib
import WeatherRadar.Proofs.NotANumber
/-!
# The total order of floating-point numbers

Numbers are sorted by ranks that their bits tell (`floatRank`).  The bits of a greater number
without a sign are a greater number themselves, since a mantissa is as long as its exponent leaves
it room for (`IsNormalized`).  So the ranks are in the order of the numbers, with negative zero
before zero (`floatRank_lt_iff`), and no two numbers have one rank (`floatRank_inj`).
-/

namespace WeatherRadar

open Float.Model Float.Model.UnpackedFloat

/-! ## Parts of the bits -/

section Parts

variable (b : BitVec 64)

theorem toNat_unpackMantissa :
    (@unpackMantissa .binary64 b).toNat = b.toNat % 0x10000000000000 := by
  simp [unpackMantissa, BitVec.extractLsb]

theorem toNat_unpackExponent :
    (@unpackExponent .binary64 b).toNat = b.toNat / 0x10000000000000 % 2048 := by
  simp [unpackExponent, Nat.shiftRight_eq_div_pow]

theorem toNat_unpackSign :
    (@unpackSign .binary64 b).toNat = b.toNat / 0x8000000000000000 := by
  have hlt : b.toNat / 0x8000000000000000 < 2 := by omega
  simp [unpackSign, Nat.shiftRight_eq_div_pow, hlt]

theorem unpackMantissa_eq_zero_iff :
    @unpackMantissa .binary64 b = 0#52 ↔ b.toNat % 0x10000000000000 = 0 := by
  rw [← toNat_unpackMantissa]
  exact BitVec.toNat_inj.symm

theorem unpackExponent_eq_zero_iff :
    @unpackExponent .binary64 b = 0#11 ↔ b.toNat / 0x10000000000000 % 2048 = 0 := by
  rw [← toNat_unpackExponent]
  exact BitVec.toNat_inj.symm

theorem unpackExponent_eq_ones_iff :
    @unpackExponent .binary64 b = -1#11 ↔ b.toNat / 0x10000000000000 % 2048 = 2047 := by
  rw [← toNat_unpackExponent]
  exact BitVec.toNat_inj.symm

/-- The bit that is not stored comes before the others. -/
theorem toNat_one_append (m : BitVec 52) : (1#1 ++ m).toNat = 0x10000000000000 + m.toNat := by
  rw [BitVec.toNat_append, ← Nat.shiftLeft_add_eq_or_of_lt m.isLt]
  rfl

end Parts

/-! ## Ranks of numbers taken apart -/

/-- The rank of a magnitude with a sign.  Below zero, ranks count backwards from that of negative
zero. -/
def signedRank (magnitude : Int) : Sign → Int
  | .positive => magnitude
  | .negative => -1 - magnitude

/-- The rank of a number that is taken apart: its magnitude is what its bits without the sign
spell. -/
def bitRank : UnpackedFloat → Int
  | .zero sign => signedRank 0 sign
  | .finite sign mantissa exponent _ =>
    signedRank ((exponent + 1074) * 0x10000000000000 + mantissa) sign
  | .infinity sign => signedRank 0x7FF0000000000000 sign
  | .notANumber => 0x7FF8000000000000

/-- A finite number has the longest mantissa that its exponent leaves room for. -/
def IsNormalized : UnpackedFloat → Prop
  | .finite _ mantissa exponent _ =>
    mantissa < 0x20000000000000 ∧ -1074 ≤ exponent ∧ exponent ≤ 971 ∧
      (mantissa < 0x10000000000000 → exponent = -1074)
  | _ => True

theorem signedRank_ofBitVec (magnitude : Int) (b : BitVec 1) :
    signedRank magnitude (.ofBitVec b) = if b.toNat = 0 then magnitude else -1 - magnitude := by
  obtain rfl | rfl := b.eq_zero_or_eq_one <;> rfl

/-- The bits of a number tell its parts and its rank. -/
theorem unpack_spec {x : Float} (h : x.isNaN = false) :
    IsNormalized x.toModel.unpack ∧ floatRank x = bitRank x.toModel.unpack := by
  have hbias : (Format.binary64.exponentBias : Int) = 1023 := rfl
  have hnumber : x.toModel.unpack.isNaN = false := h
  have hrank : floatRank x =
      if x.toModel.toBits.toBitVec.toNat < 0x8000000000000000 then
        (x.toModel.toBits.toBitVec.toNat : Int)
      else 0x7FFFFFFFFFFFFFFF - (x.toModel.toBits.toBitVec.toNat : Int) := rfl
  rw [hrank]
  clear hrank h
  revert hnumber
  unfold Float.Model.unpack
  generalize x.toModel.toBits.toBitVec = b
  unfold UnpackedFloat.unpack
  dsimp only
  -- By the exponent: all ones, all zeros, or between; then by the mantissa.
  split
  · next hones =>
    rw [unpackExponent_eq_ones_iff] at hones
    split
    · next hzero =>
      intro _
      rw [unpackMantissa_eq_zero_iff] at hzero
      refine ⟨trivial, ?_⟩
      simp only [bitRank, signedRank_ofBitVec, toNat_unpackSign]
      omega
    · exact nofun
  · next hsmall =>
    rw [unpackExponent_eq_ones_iff] at hsmall
    split
    · next hleast =>
      rw [unpackExponent_eq_zero_iff] at hleast
      split
      · next hzero =>
        intro _
        rw [unpackMantissa_eq_zero_iff] at hzero
        refine ⟨trivial, ?_⟩
        simp only [bitRank, signedRank_ofBitVec, toNat_unpackSign]
        omega
      · intro _
        simp only [IsNormalized, bitRank, signedRank_ofBitVec, toNat_unpackSign,
          toNat_unpackMantissa, toNat_unpackExponent, hbias]
        omega
    · next hnormal =>
      intro _
      rw [unpackExponent_eq_zero_iff] at hnormal
      simp only [IsNormalized, bitRank, signedRank_ofBitVec, toNat_unpackSign, toNat_one_append,
        toNat_unpackMantissa, toNat_unpackExponent, hbias]
      omega

theorem rankOf_lt_iff {s t e d m n : Int} :
    rankOf s e m < rankOf t d n ↔ s < t ∨ s = t ∧ (e < d ∨ e = d ∧ m < n) := by
  simp [rankOf, Prod.Lex.toLex_lt_toLex]

/-- Ranks tell apart what comparisons do, and both zeros. -/
theorem bitRank_lt_iff {f g : UnpackedFloat} (hf : IsNormalized f) (hg : IsNormalized g)
    (hfNumber : f.isNaN = false) (hgNumber : g.isNaN = false) :
    bitRank f < bitRank g ↔ f.lt g = true ∨ bitRank f = -1 ∧ bitRank g = 0 := by
  rw [unpacked_lt_iff]
  rcases f with (_ | _) | _ | (_ | _) | ⟨_ | _, m, e, hm⟩
  case notANumber => cases hfNumber
  all_goals
    rcases g with (_ | _) | _ | (_ | _) | ⟨_ | _, n, d, hn⟩
    case notANumber => cases hgNumber
    all_goals
      simp [rank?, rankOf_lt_iff, bitRank, signedRank, IsNormalized] at hf hg ⊢ <;> omega

/-! ## Ranks of numbers -/

variable {x y : Float}

theorem floatRank_inj : floatRank x = floatRank y ↔ x = y := by
  constructor
  · intro h
    have hx := x.toModel.toBits.toBitVec.isLt
    have hy := y.toModel.toBits.toBitVec.isLt
    have hbits : x.toModel.toBits.toBitVec.toNat = y.toModel.toBits.toBitVec.toNat := by
      unfold floatRank Float.toBits UInt64.toNat at h
      dsimp only at h
      omega
    have hsame : x.toModel.toBits = y.toModel.toBits := UInt64.toNat_inj.1 hbits
    obtain ⟨⟨bits, _⟩⟩ := x
    obtain ⟨⟨_, _⟩⟩ := y
    obtain rfl : bits = _ := hsame
    rfl
  · rintro rfl
    rfl

/-- The order by ranks is that of numbers, but for negative zero, which comes before zero. -/
theorem floatRank_lt_iff (hx : x.isNaN = false) (hy : y.isNaN = false) :
    floatRank x < floatRank y ↔ x < y ∨ x = -0.0 ∧ y = 0.0 := by
  obtain ⟨hxNormal, hxRank⟩ := unpack_spec hx
  obtain ⟨hyNormal, hyRank⟩ := unpack_spec hy
  have hnegative : floatRank (-0.0) = -1 := by decide +kernel
  have hzero : floatRank 0.0 = 0 := by decide +kernel
  have hlt := bitRank_lt_iff hxNormal hyNormal hx hy
  rw [← hxRank, ← hyRank] at hlt
  rw [← floatRank_inj, ← floatRank_inj, hnegative, hzero, float_lt_iff]
  exact hlt

end WeatherRadar
