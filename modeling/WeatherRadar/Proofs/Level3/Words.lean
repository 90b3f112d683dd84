import Mathlib.Data.List.Induction
import Mathlib.Data.Nat.Digits.Lemmas
import Mathlib.Tactic.Ring
import WeatherRadar.Level3.Cursor
import WeatherRadar.Proofs.Level3.Fields
/-!
# Numbers in words

The word that at most eight bytes spell holds the number whose digits to the base 256 they are
(`ByteOrder.toNat_word`), in either order.  Moving the lowest bytes of a word to the top and back
gives the two's complement number in them (`toInt_signedWord`), up to the width of the whole word.
-/

namespace WeatherRadar

/-! ## Numbers -/

theorem foldl_bigEndian (bytes : List UInt8) (start : Nat) :
    bytes.foldl (fun value b => value * 256 + b.toNat) start =
      start * 256 ^ bytes.length + bigEndian bytes := by
  induction bytes generalizing start with
  | nil => simp [bigEndian]
  | cons byte bytes ih =>
      rw [bigEndian, List.foldl_cons, List.foldl_cons, ih, ih, Nat.zero_mul, Nat.zero_add,
        List.length_cons, Nat.pow_succ, Nat.add_mul, Nat.mul_assoc, Nat.mul_comm 256, Nat.add_assoc]

theorem bigEndian_cons (byte : UInt8) (bytes : List UInt8) :
    bigEndian (byte :: bytes) = byte.toNat * 256 ^ bytes.length + bigEndian bytes := by
  rw [bigEndian, List.foldl_cons, foldl_bigEndian, Nat.zero_mul, Nat.zero_add]

theorem bigEndian_lt (bytes : List UInt8) : bigEndian bytes < 256 ^ bytes.length := by
  induction bytes with
  | nil => decide
  | cons byte bytes ih =>
      have hbyte : byte.toNat + 1 ≤ 256 := byte.toNat_lt
      rw [bigEndian_cons, List.length_cons, Nat.pow_succ, Nat.mul_comm _ 256]
      calc byte.toNat * 256 ^ bytes.length + bigEndian bytes
          < byte.toNat * 256 ^ bytes.length + 256 ^ bytes.length := Nat.add_lt_add_left ih _
        _ = (byte.toNat + 1) * 256 ^ bytes.length := (Nat.succ_mul _ _).symm
        _ ≤ 256 * 256 ^ bytes.length := Nat.mul_le_mul_right _ hbyte

theorem bigEndian_concat (bytes : List UInt8) (b : UInt8) :
    bigEndian (bytes ++ [b]) = bigEndian bytes * 256 + b.toNat := List.foldl_concat _ _ _ _

end WeatherRadar

namespace WeatherRadar.Level3

/-! ## Digits -/

namespace ByteOrder

/-- The number whose digits to the base 256 are some bytes. -/
def value : ByteOrder → List UInt8 → Nat
  | big, bytes => Nat.ofDigits 256 (bytes.reverse.map UInt8.toNat)
  | little, bytes => Nat.ofDigits 256 (bytes.map UInt8.toNat)

/-- The digits to the base 256 of a number. -/
def digits : ByteOrder → Nat → Nat → List UInt8
  | big, width, n => bigEndianBytes width n
  | little, width, n => (bigEndianBytes width n).reverse

end ByteOrder

theorem value_big (bytes : List UInt8) : ByteOrder.big.value bytes = bigEndian bytes := by
  induction bytes using List.reverseRecOn with
  | nil => rfl
  | append_singleton bytes b ih =>
      rw [bigEndian_concat, ← ih, ByteOrder.value, ByteOrder.value, List.reverse_append,
        List.reverse_singleton, List.singleton_append, List.map_cons, Nat.ofDigits_cons]
      ring

theorem value_little (bytes : List UInt8) :
    ByteOrder.little.value bytes = bigEndian bytes.reverse := by
  rw [← value_big, ByteOrder.value, ByteOrder.value, List.reverse_reverse]

namespace ByteOrder

theorem value_lt (order : ByteOrder) (bytes : List UInt8) :
    order.value bytes < 256 ^ bytes.length := by
  cases order with
  | big =>
      rw [value_big]
      exact bigEndian_lt bytes
  | little =>
      rw [value_little, ← List.length_reverse]
      exact bigEndian_lt bytes.reverse

theorem length_digits (order : ByteOrder) (width n : Nat) :
    (order.digits width n).length = width := by
  cases order with
  | big => exact length_bigEndianBytes width n
  | little => rw [digits, List.length_reverse, length_bigEndianBytes]

/-- A number is read back from its digits. -/
theorem value_digits (order : ByteOrder) {width n : Nat} (hn : n < 256 ^ width) :
    order.value (order.digits width n) = n := by
  cases order with
  | big => rw [value_big, digits, bigEndian_bigEndianBytes hn]
  | little => rw [value_little, digits, List.reverse_reverse, bigEndian_bigEndianBytes hn]

end ByteOrder

/-! ## Words -/

/-- A number of bytes that words are read from. -/
def IsWordWidth (width : Nat) : Prop := width = 1 ∨ width = 2 ∨ width = 4 ∨ width = 8

theorem IsWordWidth.le_eight {width : Nat} (h : IsWordWidth width) : width ≤ 8 := by
  rw [IsWordWidth] at h
  omega

theorem IsWordWidth.pos {width : Nat} (h : IsWordWidth width) : 0 < width := by
  rw [IsWordWidth] at h
  omega

theorem contains_width_iff {width : Nat} :
    [1, 2, 4, 8].contains width = true ↔ IsWordWidth width := by
  simp [IsWordWidth]

theorem wordOf_concat (bytes : List UInt8) (b : UInt8) :
    wordOf (bytes ++ [b]) = wordOf bytes <<< 8 ||| b.toUInt64 := List.foldl_concat _ _ _ _

/-- No bit is lost while a byte finds room below the others. -/
theorem toNat_shift_or {word : UInt64} (hword : word.toNat < 256 ^ 7) (b : UInt8) :
    (word <<< 8 ||| b.toUInt64).toNat = word.toNat * 256 + b.toNat := by
  have hroom : word.toNat <<< 8 < 2 ^ 64 := by
    rw [Nat.shiftLeft_eq]
    omega
  have hshift : (word <<< 8).toNat = word.toNat <<< 8 := by
    rw [UInt64.toNat_shiftLeft]
    exact Nat.mod_eq_of_lt hroom
  rw [UInt64.toNat_or, hshift, UInt8.toNat_toUInt64, ← Nat.shiftLeft_add_eq_or_of_lt b.toNat_lt,
    Nat.shiftLeft_eq]

theorem toNat_wordOf {bytes : List UInt8} (hbytes : bytes.length ≤ 8) :
    (wordOf bytes).toNat = bigEndian bytes := by
  induction bytes using List.reverseRecOn with
  | nil => rfl
  | append_singleton bytes b ih =>
      rw [List.length_append, List.length_singleton] at hbytes
      have hword := ih (by omega)
      have hlt : (wordOf bytes).toNat < 256 ^ 7 := by
        rw [hword]
        exact (bigEndian_lt bytes).trans_le (Nat.pow_le_pow_right (by decide) (by omega))
      rw [wordOf_concat, toNat_shift_or hlt, hword, bigEndian_concat]

/-- The number in a word is the one that its bytes spell. -/
theorem ByteOrder.toNat_word (order : ByteOrder) {bytes : List UInt8} (hbytes : bytes.length ≤ 8) :
    (order.word bytes).toNat = order.value bytes := by
  cases order with
  | big => rw [word, toNat_wordOf hbytes, value_big]
  | little => rw [word, toNat_wordOf (by rwa [List.length_reverse]), value_little]

/-! ## Signs -/

/-- The two's complement number with the bits of a number. -/
def twosComplement (bits n : Nat) : Int := if n < 2 ^ (bits - 1) then n else n - 2 ^ bits

theorem toInt_toInt64 (word : UInt64) : word.toInt64.toInt = Int.bmod word.toNat (2 ^ 64) :=
  BitVec.toInt_eq_toNat_bmod word.toBitVec

theorem toInt_shiftRight_ofNat (n : Int64) {k : Nat} (hk : k < 64) :
    (n >>> Int64.ofNat k).toInt = n.toInt >>> k := by
  have hamount : ∀ k < 64, ((Int64.ofNat k).toBitVec.smod 64).toNat = k := by decide
  rw [← Int64.toInt_toBitVec, Int64.toBitVec_shiftRight, BitVec.sshiftRight', hamount k hk,
    BitVec.toInt_sshiftRight, Int64.toInt_toBitVec]

theorem toNat_shiftLeft_ofNat {word : UInt64} {k : Nat} (hk : k < 64)
    (hroom : word.toNat * 2 ^ k < 2 ^ 64) :
    (word <<< UInt64.ofNat k).toNat = word.toNat * 2 ^ k := by
  have hamount : (UInt64.ofNat k).toNat % 64 = k := by
    rw [UInt64.toNat_ofNat_of_lt' (show k < 2 ^ 64 by omega), Nat.mod_eq_of_lt hk]
  rw [UInt64.toNat_shiftLeft, hamount, Nat.shiftLeft_eq, Nat.mod_eq_of_lt hroom]

/-- Multiples of a unit are reduced as the factors are. -/
theorem bmod_mul_ediv {n half unit : Nat} (hunit : 0 < unit) (hn : n < 2 * half) :
    Int.bmod (n * unit : Nat) (2 * half * unit) / unit =
      if n < half then (n : Int) else n - (2 * half : Nat) := by
  have hmod : n * unit % (2 * half * unit) = n * unit :=
    Nat.mod_eq_of_lt (Nat.mul_lt_mul_of_pos_right hn hunit)
  have hhalf : (2 * half * unit + 1) / 2 = half * unit := by
    rw [Nat.mul_assoc]
    omega
  have hcompare : n * unit < half * unit ↔ n < half := Nat.mul_lt_mul_right hunit
  have hne : (unit : Int) ≠ 0 := Int.natCast_ne_zero.2 hunit.ne'
  have hrest : ((n * unit : Nat) : Int) % (2 * half * unit : Nat) = (n * unit : Nat) := by
    rw [← Int.natCast_emod, hmod]
  have hmiddle : (((2 * half * unit : Nat) : Int) + 1) / 2 = (half * unit : Nat) := by
    exact_mod_cast congrArg (Nat.cast : Nat → Int) hhalf
  rw [Int.bmod, hrest, hmiddle]
  by_cases hlow : n < half
  · rw [if_pos (by exact_mod_cast hcompare.2 hlow), if_pos hlow, Nat.cast_mul,
      Int.mul_ediv_cancel _ hne]
  · rw [if_neg (by exact_mod_cast mt hcompare.1 hlow), if_neg hlow, Nat.cast_mul,
      Nat.cast_mul _ unit, ← Int.sub_mul, Int.mul_ediv_cancel _ hne]

theorem bmod_eq_twosComplement {bits n : Nat} (hbits : 0 < bits) (hn : n < 2 ^ bits) :
    Int.bmod n (2 ^ bits) = twosComplement bits n := by
  have hdouble : 2 ^ bits = 2 * 2 ^ (bits - 1) := by
    rw [← Nat.pow_succ', Nat.succ_eq_add_one, Nat.sub_add_cancel hbits]
  have hunit := bmod_mul_ediv Nat.one_pos (hdouble ▸ hn)
  rw [Nat.mul_one, Nat.mul_one, ← hdouble, Nat.cast_one, Int.ediv_one, Nat.cast_pow,
    Nat.cast_ofNat] at hunit
  exact hunit

/-- The lowest bytes of a word are read with their sign. -/
theorem toInt_signedWord {width : Nat} (hwidth : IsWordWidth width) {word : UInt64}
    (hword : word.toNat < 256 ^ width) :
    (signedWord width word).toInt = twosComplement (8 * width) word.toNat := by
  have hpos := hwidth.pos
  have hle := hwidth.le_eight
  have hbits : 8 * width + (64 - 8 * width) = 64 := by omega
  have hdouble : 2 ^ (8 * width) = 2 * 2 ^ (8 * width - 1) := by
    rw [← Nat.pow_succ', Nat.succ_eq_add_one, Nat.sub_add_cancel (by omega)]
  have hlt : word.toNat < 2 ^ (8 * width) := by rwa [Nat.pow_mul]
  have hunit : 0 < 2 ^ (64 - 8 * width) := Nat.two_pow_pos _
  have hword64 : 2 ^ 64 = 2 * 2 ^ (8 * width - 1) * 2 ^ (64 - 8 * width) := by
    rw [← hdouble, ← Nat.pow_add, hbits]
  have hroom : word.toNat * 2 ^ (64 - 8 * width) < 2 ^ 64 := by
    rw [hword64, ← hdouble]
    exact Nat.mul_lt_mul_of_pos_right hlt hunit
  have hshort : 64 - 8 * width < 64 := by omega
  rw [signedWord, toInt_shiftRight_ofNat _ hshort, toInt_toInt64,
    toNat_shiftLeft_ofNat hshort hroom, hword64, Int.shiftRight_eq_div_pow,
    bmod_mul_ediv hunit (hdouble ▸ hlt), twosComplement, ← hdouble, Nat.cast_pow, Nat.cast_ofNat]

/-- A number with a sign is read back from its lowest bits. -/
theorem twosComplement_emod {bits : Nat} (hbits : 0 < bits) {n : Int} (hlow : -2 ^ (bits - 1) ≤ n)
    (hhigh : n < 2 ^ (bits - 1)) : twosComplement bits (n % 2 ^ bits).toNat = n := by
  have hdouble : (2 : Int) ^ bits = 2 * 2 ^ (bits - 1) := by
    rw [← Int.pow_succ', Nat.sub_add_cancel hbits]
  have hhalf : ((2 ^ (bits - 1) : Nat) : Int) = 2 ^ (bits - 1) := by norm_cast
  rw [twosComplement, hdouble]
  generalize (2 : Nat) ^ (bits - 1) = low at *
  generalize (2 : Int) ^ (bits - 1) = half at *
  by_cases hsign : 0 ≤ n
  · rw [Int.emod_eq_of_lt hsign (by omega), if_pos (by omega), Int.toNat_of_nonneg hsign]
  · have hemod : n % (2 * half) = n + 2 * half := by
      rw [← Int.add_emod_right, Int.emod_eq_of_lt (by omega) (by omega)]
    rw [hemod, if_neg (by omega), Int.toNat_of_nonneg (by omega), Int.add_sub_cancel]

end WeatherRadar.Level3
