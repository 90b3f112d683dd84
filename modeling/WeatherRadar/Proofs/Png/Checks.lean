import Mathlib.Algebra.Ring.Nat
import WeatherRadar.Compression.Checksum
import WeatherRadar.Png.Reading
/-!
# Checks of chunks

The check that is written with a chunk is computed byte by byte from a table, and a reader computes
it bit by bit.  A step is linear in the check and the bit that comes in (`checkBit_xor`).  So it
makes no difference whether bits come in one after the other or are all added at first
(`checkBits_eq`), and the bits above a byte only move down in the meantime (`reflectedStep_high`).
-/

namespace WeatherRadar.Png

open Checksum

/-! ## Single bits -/

theorem lowBit_eq (check : UInt32) : (check &&& 1 == 1) = check.toNat.testBit 0 := by
  have hand : (check &&& 1).toNat = check.toNat % 2 := by
    rw [UInt32.toNat_and]
    exact Nat.and_one_is_mod check.toNat
  rw [Nat.testBit_zero, ← hand, Bool.eq_iff_iff, beq_iff_eq, decide_eq_true_iff,
    ← UInt32.toNat_inj]
  rfl

/-- A step is linear. -/
theorem checkBit_xor (x y : UInt32) (a b : Bool) :
    checkBit (x ^^^ y) (a ^^ b) = checkBit x a ^^^ checkBit y b := by
  unfold checkBit
  rw [lowBit_eq, lowBit_eq, lowBit_eq, UInt32.toNat_xor, Nat.testBit_xor, UInt32.shiftRight_xor]
  generalize x.toNat.testBit 0 = p
  generalize y.toNat.testBit 0 = q
  generalize x >>> 1 = u
  generalize y >>> 1 = v
  have hcancel : u ^^^ 0xEDB88320 ^^^ (v ^^^ 0xEDB88320) = u ^^^ v := by
    rw [UInt32.xor_assoc, ← UInt32.xor_assoc 0xEDB88320, UInt32.xor_comm 0xEDB88320 v,
      UInt32.xor_assoc v, UInt32.xor_self, UInt32.xor_zero]
  cases p <;> cases q <;> cases a <;> cases b <;> simp [hcancel] <;> ac_rfl

/-- Nothing is taken off when the bit that drops out comes in. -/
theorem checkBit_lowBit (check : UInt32) : checkBit check (check &&& 1 == 1) = check >>> 1 := by
  rw [checkBit, if_pos (beq_self_eq_true _)]

theorem toNat_shiftRight_one (check : UInt32) : (check >>> 1).toNat = check.toNat / 2 := by
  rw [UInt32.toNat_shiftRight]
  exact Nat.shiftRight_succ _ _

/-! ## Bytes -/

theorem reflectedStep_succ (n : Nat) (check : UInt32) :
    reflectedStep (n + 1) check = reflectedStep n (checkBit check false) := by
  rw [reflectedStep, checkBit]
  cases check &&& 1 == 1 <;> rfl

/-- Bits that come in one after the other could as well be added at first. -/
theorem checkBits_eq {n : Nat} (check : UInt32) {bits : UInt32} (h : bits.toNat < 2 ^ n) :
    checkBits check n bits.toNat = reflectedStep n (check ^^^ bits) := by
  induction n generalizing check bits with
  | zero =>
      obtain rfl : bits = 0 := UInt32.toNat_inj.1 (Nat.lt_one_iff.1 h)
      rw [UInt32.xor_zero]
      rfl
  | succ n ih =>
      have hhalf : (bits >>> 1).toNat = bits.toNat / 2 := toNat_shiftRight_one bits
      have hlow : (bits.toNat % 2 == 1) = (bits &&& 1 == 1) := by
        rw [lowBit_eq, Nat.testBit_zero]
        rfl
      have hlt : (bits >>> 1).toNat < 2 ^ n := by
        rw [hhalf]
        rw [Nat.pow_succ] at h
        omega
      rw [checkBits, ← hhalf, ih _ hlt, hlow, reflectedStep_succ, ← checkBit_lowBit, ← checkBit_xor,
        Bool.xor_self]

/-- Bits above the lowest ones only move down. -/
theorem reflectedStep_high {n : Nat} (low : UInt32) {high rest : UInt32}
    (h : high.toNat = rest.toNat * 2 ^ n) :
    reflectedStep n (low ^^^ high) = reflectedStep n low ^^^ rest := by
  induction n generalizing low high with
  | zero =>
      obtain rfl : high = rest := UInt32.toNat_inj.1 (by omega)
      rfl
  | succ n ih =>
      have hdouble : high.toNat = 2 * (rest.toNat * 2 ^ n) := by
        rw [h, Nat.pow_succ', Nat.mul_left_comm]
      have heven : (high &&& 1 == 1) = false := by
        rw [lowBit_eq, Nat.testBit_zero, hdouble, Nat.mul_mod_right]
        rfl
      have hhalf : (high >>> 1).toNat = rest.toNat * 2 ^ n := by
        have hshift : (high >>> 1).toNat = high.toNat / 2 := toNat_shiftRight_one high
        rw [hshift, hdouble, Nat.mul_div_cancel_left _ Nat.two_pos]
      have hstep : checkBit (low ^^^ high) false = checkBit low false ^^^ (high >>> 1) := by
        rw [← checkBit_lowBit, heven, ← checkBit_xor]
        rfl
      rw [reflectedStep_succ, reflectedStep_succ, hstep, ih _ hhalf]

theorem toNat_shiftRight_eight (word : UInt32) : (word >>> 8).toNat = word.toNat / 2 ^ 8 := by
  rw [UInt32.toNat_shiftRight]
  exact Nat.shiftRight_eq_div_pow _ _

theorem toNat_highBits (word : UInt32) :
    ((word >>> 8) <<< 8).toNat = (word >>> 8).toNat * 2 ^ 8 := by
  have hlt := word.toNat_lt
  have hsmall : word.toNat / 2 ^ 8 * 2 ^ 8 < 2 ^ 32 := by omega
  rw [UInt32.toNat_shiftLeft, Nat.shiftLeft_eq, toNat_shiftRight_eight]
  exact Nat.mod_eq_of_lt hsmall

theorem toNat_lowByte (word : UInt32) : (word &&& 0xFF).toNat = word.toNat % 2 ^ 8 := by
  rw [UInt32.toNat_and]
  exact Nat.and_two_pow_sub_one_eq_mod word.toNat 8

/-- The parts of a number below and above a bit. -/
theorem mod_xor_div_mul (n k : Nat) : (n % 2 ^ k) ^^^ (n / 2 ^ k * 2 ^ k) = n := by
  apply Nat.eq_of_testBit_eq
  intro i
  rw [Nat.testBit_xor, Nat.testBit_mod_two_pow, Nat.testBit_mul_two_pow, Nat.testBit_div_two_pow]
  by_cases hlow : i < k
  · simp [hlow, Nat.not_le.2 hlow]
  · simp [hlow, Nat.not_lt.1 hlow]

theorem byte_split (word : UInt32) :
    (word &&& 0xFF : UInt32) ^^^ ((word >>> 8) <<< 8) = word := by
  apply UInt32.toNat_inj.1
  rw [UInt32.toNat_xor, toNat_lowByte, toNat_highBits, toNat_shiftRight_eight, mod_xor_div_mul]

theorem reflectedTable_getD {byte : UInt32} (h : byte.toNat < 256) :
    reflectedTable.getD byte.toNat 0 = reflectedStep 8 byte := by
  rw [Array.getD_eq_getD_getElem?, reflectedTable, Array.getElem?_map, Array.getElem?_range,
    if_pos h, Option.map_some, Option.getD_some, UInt32.ofNat_toNat]

/-- A byte changes a check as its bits do. -/
theorem reflectedByte_eq (check : UInt32) (byte : UInt8) :
    reflectedByte check byte = checkBits check 8 byte.toNat := by
  have hsmall : byte.toUInt32.toNat < 2 ^ 8 := by
    rw [UInt8.toNat_toUInt32]
    exact byte.toNat_lt
  have hgone : byte.toUInt32 >>> 8 = 0 := by
    apply UInt32.toNat_inj.1
    rw [toNat_shiftRight_eight, Nat.div_eq_of_lt hsmall]
    rfl
  generalize hword : check ^^^ byte.toUInt32 = word
  have hlow : (word &&& 0xFF).toNat < 256 := by
    rw [toNat_lowByte]
    exact Nat.mod_lt _ (Nat.two_pow_pos 8)
  have hhigh : word >>> 8 = check >>> 8 := by
    rw [← hword, UInt32.shiftRight_xor, hgone, UInt32.xor_zero]
  calc reflectedByte check byte = reflectedStep 8 (word &&& 0xFF) ^^^ (word >>> 8) := by
        rw [reflectedByte, hword, reflectedTable_getD hlow, hhigh]
    _ = reflectedStep 8 word := by
        rw [← reflectedStep_high _ (toNat_highBits word), byte_split]
    _ = checkBits check 8 byte.toNat := by
        rw [← hword, ← checkBits_eq check hsmall, UInt8.toNat_toUInt32]

/-! ## Chunks -/

theorem foldl_loop {β : Type} (f : β → UInt8 → β) (bytes : ByteArray) {n i : Nat}
    (h : i + n = bytes.size) (start : β) :
    (ByteArray.foldlM.loop (m := Id) (pure <| f · ·) bytes bytes.size (Nat.le_refl _)
        n i start).run =
      (bytes.data.toList.drop i).foldl f start := by
  induction n generalizing i start with
  | zero =>
      have hend : bytes.data.toList.length ≤ i := by
        rw [Array.length_toList]
        exact Nat.le_of_eq h.symm
      rw [ByteArray.foldlM.loop, dif_neg (by omega), List.drop_eq_nil_of_le hend]
      rfl
  | succ n ih =>
      have hi : i < bytes.data.toList.length := by
        rw [Array.length_toList]
        show i < bytes.size
        omega
      rw [ByteArray.foldlM.loop, dif_pos (by omega), List.drop_eq_getElem_cons hi]
      exact ih (by omega) _

theorem foldl_toArray {β : Type} (f : β → UInt8 → β) (start : β) (bytes : List UInt8) :
    ByteArray.foldl f start ⟨bytes.toArray⟩ = bytes.foldl f start := by
  have hloop := foldl_loop f ⟨bytes.toArray⟩ (n := bytes.length) (i := 0) (Nat.zero_add _) start
  rw [ByteArray.foldl, ByteArray.foldlM, dif_pos (Nat.le_refl _)]
  exact hloop

/-- The check that is written is the one that is read. -/
theorem crc32_eq_bitwiseCheck (bytes : List UInt8) :
    crc32 ⟨bytes.toArray⟩ = bitwiseCheck bytes := by
  have hbyte : reflectedByte = fun check byte => checkBits check 8 byte.toNat := by
    funext check byte
    exact reflectedByte_eq check byte
  rw [crc32, crc32From, foldl_toArray, hbyte, bitwiseCheck, ← UInt32.xor_neg_one]
  rfl

end WeatherRadar.Png
