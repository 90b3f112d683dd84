import WeatherRadar.Level3.Heading
/-!
# Words of headings

The parts of a heading are words: texts of a few characters of one class.  A word of ASCII is
spelled by as many bytes as it has characters (`IsWord.length_encode`), bytes and text tell the
same word (`asciiText_encode`, `encode_asciiText`), and bytes of a class always spell a word
(`isWord_asciiText`).
-/

namespace WeatherRadar.Level3.Heading

/-! ## Bytes and characters -/

theorem isDigit_iff (b : UInt8) : isDigit b = true ↔ 48 ≤ b.toNat ∧ b.toNat ≤ 57 := by
  simp [isDigit, UInt8.le_iff_toNat_le]

theorem isAlphanumeric_iff (b : UInt8) : isAlphanumeric b = true ↔
    (48 ≤ b.toNat ∧ b.toNat ≤ 57) ∨ (65 ≤ b.toNat ∧ b.toNat ≤ 90) ∨
      (97 ≤ b.toNat ∧ b.toNat ≤ 122) := by
  simp [isAlphanumeric, isDigit, UInt8.le_iff_toNat_le, or_assoc]

theorem char_isDigit_iff (c : Char) : c.isDigit = true ↔ 48 ≤ c.toNat ∧ c.toNat ≤ 57 := by
  have hclass : c.isDigit = (decide (48 ≤ c.toNat) && decide (c.toNat ≤ 57)) := rfl
  rw [hclass, Bool.and_eq_true, decide_eq_true_eq, decide_eq_true_eq]

theorem char_isAlphanum_iff (c : Char) : c.isAlphanum = true ↔
    (48 ≤ c.toNat ∧ c.toNat ≤ 57) ∨ (65 ≤ c.toNat ∧ c.toNat ≤ 90) ∨
      (97 ≤ c.toNat ∧ c.toNat ≤ 122) := by
  have hclass : c.isAlphanum = ((decide (65 ≤ c.toNat ∧ c.toNat ≤ 90) ||
      (decide (97 ≤ c.toNat) && decide (c.toNat ≤ 122))) || c.isDigit) := rfl
  rw [hclass, Bool.or_eq_true, char_isDigit_iff]
  simp only [Bool.or_eq_true, Bool.and_eq_true, decide_eq_true_eq]
  exact or_comm

theorem toNat_char (b : UInt8) : (Char.ofNat b.toNat).toNat = b.toNat := by
  have hb := b.toNat_lt
  have hvalid : b.toNat.isValidChar := by
    left
    omega
  rw [Char.ofNat, dif_pos hvalid]
  rfl

theorem utf8EncodeChar_of_lt {c : Char} (hc : c.toNat < 128) :
    String.utf8EncodeChar c = [UInt8.ofNat c.toNat] := by
  have hsize : c.utf8Size = 1 := by
    rw [Char.utf8Size, if_pos]
    rw [UInt32.le_iff_toNat_le]
    exact Nat.le_of_lt_succ hc
  rw [String.utf8EncodeChar_eq_singleton hsize]
  congr 1

/-- A class of bytes and the class of the characters that they stand for, all of ASCII. -/
structure SameClass (isByte : UInt8 → Bool) (isChar : Char → Bool) : Prop where
  byte : ∀ c, isChar c = true → c.toNat < 128 ∧ isByte (UInt8.ofNat c.toNat) = true
  char : ∀ b, isByte b = true → b.toNat < 128 ∧ isChar (Char.ofNat b.toNat) = true

theorem sameClass_digit : SameClass isDigit Char.isDigit where
  byte c hc := by
    rw [char_isDigit_iff] at hc
    rw [isDigit_iff, UInt8.toNat_ofNat']
    omega
  char b hb := by
    rw [isDigit_iff] at hb
    rw [char_isDigit_iff, toNat_char]
    omega

theorem sameClass_alphanumeric : SameClass isAlphanumeric Char.isAlphanum where
  byte c hc := by
    rw [char_isAlphanum_iff] at hc
    rw [isAlphanumeric_iff, UInt8.toNat_ofNat']
    omega
  char b hb := by
    rw [isAlphanumeric_iff] at hb
    rw [char_isAlphanum_iff, toNat_char]
    omega

/-! ## Words -/

/-- A text of at least `least` and at most `most` characters of a class. -/
def IsWord (isChar : Char → Bool) (least most : Nat) (s : String) : Prop :=
  least ≤ s.length ∧ s.length ≤ most ∧ s.toList.all isChar = true

instance (isChar : Char → Bool) (least most : Nat) (s : String) :
    Decidable (IsWord isChar least most s) := by
  unfold IsWord
  infer_instance

variable {isByte : UInt8 → Bool} {isChar : Char → Bool} {least most : Nat} {s : String}

theorem encode_eq_map (hs : ∀ c ∈ s.toList, c.toNat < 128) :
    Utf8.encode s = s.toList.map fun c => UInt8.ofNat c.toNat := by
  rw [Utf8.encode]
  generalize s.toList = cs at hs
  induction cs with
  | nil => rfl
  | cons c cs ih =>
      rw [List.flatMap_cons, List.map_cons, utf8EncodeChar_of_lt (hs c (by simp)),
        ih fun c hc => hs c (by simp [hc])]
      rfl

theorem asciiText_encode (hs : ∀ c ∈ s.toList, c.toNat < 128) :
    asciiText (Utf8.encode s) = s := by
  rw [encode_eq_map hs, asciiText, List.map_map]
  have hsame : s.toList.map ((fun b : UInt8 => Char.ofNat b.toNat) ∘
      fun c => UInt8.ofNat c.toNat) = s.toList.map id := by
    apply List.map_congr_left
    intro c hc
    have hlt := hs c hc
    simp only [Function.comp_apply, UInt8.toNat_ofNat', id_eq]
    rw [Nat.mod_eq_of_lt (by omega), Char.ofNat_toNat]
  rw [hsame, List.map_id, String.ofList_toList]

theorem IsWord.lt (hclass : SameClass isByte isChar) (hs : IsWord isChar least most s) :
    ∀ c ∈ s.toList, c.toNat < 128 := by
  intro c hc
  exact (hclass.byte c (List.all_eq_true.1 hs.2.2 c hc)).1

theorem IsWord.length_encode (hclass : SameClass isByte isChar)
    (hs : IsWord isChar least most s) : (Utf8.encode s).length = s.length := by
  rw [encode_eq_map (hs.lt hclass), List.length_map, String.length_toList]

theorem IsWord.all_encode (hclass : SameClass isByte isChar) (hs : IsWord isChar least most s) :
    ∀ b ∈ Utf8.encode s, isByte b = true := by
  intro b hb
  rw [encode_eq_map (hs.lt hclass), List.mem_map] at hb
  obtain ⟨c, hc, rfl⟩ := hb
  exact (hclass.byte c (List.all_eq_true.1 hs.2.2 c hc)).2

/-- A word that is not empty has a first byte. -/
theorem IsWord.encode_eq_cons (hclass : SameClass isByte isChar) (hleast : 1 ≤ least)
    (hs : IsWord isChar least most s) :
    ∃ first tail, Utf8.encode s = first :: tail ∧ isByte first = true := by
  have hall := hs.all_encode hclass
  have hlength := hs.length_encode hclass
  cases hbytes : Utf8.encode s with
  | nil =>
      rw [hbytes] at hlength
      have hsize : least ≤ s.length := hs.1
      rw [← hlength] at hsize
      exact absurd (Nat.le_trans hleast hsize) (by decide)
  | cons first tail => exact ⟨first, tail, rfl, hall first (by simp [hbytes])⟩

theorem isWord_asciiText (hclass : SameClass isByte isChar) {bytes : List UInt8}
    (hleast : least ≤ bytes.length) (hmost : bytes.length ≤ most)
    (hbytes : ∀ b ∈ bytes, isByte b = true) : IsWord isChar least most (asciiText bytes) := by
  refine ⟨?_, ?_, ?_⟩
  · simpa [asciiText] using hleast
  · simpa [asciiText] using hmost
  · rw [asciiText, String.toList_ofList, List.all_map, List.all_eq_true]
    intro b hb
    exact (hclass.char b (hbytes b hb)).2

/-- Bytes of ASCII are what their text is spelled with. -/
theorem encode_asciiText {bytes : List UInt8} (hbytes : ∀ b ∈ bytes, b.toNat < 128) :
    Utf8.encode (asciiText bytes) = bytes := by
  have hchars : ∀ c ∈ (asciiText bytes).toList, c.toNat < 128 := by
    rw [asciiText, String.toList_ofList]
    intro c hc
    obtain ⟨b, hb, rfl⟩ := List.mem_map.1 hc
    rw [toNat_char]
    exact hbytes b hb
  rw [encode_eq_map hchars, asciiText, String.toList_ofList, List.map_map]
  have hsame : bytes.map ((fun c : Char => UInt8.ofNat c.toNat) ∘ fun b => Char.ofNat b.toNat) =
      bytes.map id := by
    apply List.map_congr_left
    intro b _
    rw [Function.comp_apply, toNat_char, UInt8.ofNat_toNat, id_eq]
  rw [hsame, List.map_id]

theorem IsWord.encode_lt (hclass : SameClass isByte isChar) (hs : IsWord isChar least most s) :
    ∀ b ∈ Utf8.encode s, b.toNat < 128 := by
  intro b hb
  exact (hclass.char b (hs.all_encode hclass b hb)).1

end WeatherRadar.Level3.Heading
