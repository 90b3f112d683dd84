import WeatherRadar.Color
import WeatherRadar.Proofs.Text.Ascii
import WeatherRadar.Proofs.Text.Trimming
/-!
# Spellings of colors

A color is spelled by six or eight hexadecimal digits behind any number of `#`, with blanks around
them.  Besides these the reader takes a plus sign for the first digit of a channel, and nothing else
(`ofHex_reads_digits_or_signs`).
-/

namespace WeatherRadar

/-! ## Digits -/

/-- The hexadecimal digits in lower case, in the order of their values. -/
def lowerHexDigits : List Char :=
  ['0', '1', '2', '3', '4', '5', '6', '7', '8', '9', 'a', 'b', 'c', 'd', 'e', 'f']

def upperHexDigits : List Char :=
  ['0', '1', '2', '3', '4', '5', '6', '7', '8', '9', 'A', 'B', 'C', 'D', 'E', 'F']

/-- A character is the digit of a value, in either case. -/
def IsHexDigit (c : Char) (value : Nat) : Prop :=
  lowerHexDigits[value]? = some c ∨ upperHexDigits[value]? = some c

instance (c : Char) (value : Nat) : Decidable (IsHexDigit c value) :=
  inferInstanceAs (Decidable (_ ∨ _))

theorem IsHexDigit.value_lt {c : Char} {value : Nat} (h : IsHexDigit c value) : value < 16 := by
  obtain h | h := h
  · exact (List.getElem?_eq_some_iff.1 h).1
  · exact (List.getElem?_eq_some_iff.1 h).1

theorem toNat_lt_of_hexValue? {c : Char} {value : Nat} (h : hexValue? c = some value) :
    c.toNat < 128 := by
  unfold hexValue? isDecimalDigit at h
  simp only [Bool.and_eq_true, decide_eq_true_eq] at h
  split at h
  next hdigit => exact toNat_lt_of_le hdigit.2 (by decide)
  next =>
    split at h
    next hlower => exact toNat_lt_of_le hlower.2 (by decide)
    next =>
      split at h
      next hupper => exact toNat_lt_of_le hupper.2 (by decide)
      next => cases h

theorem hexValue?_eq_some_iff {c : Char} {value : Nat} :
    hexValue? c = some value ↔ IsHexDigit c value := by
  constructor
  · intro h
    have hascii : ∀ n < 128, ∀ value ∈ hexValue? (Char.ofNat n),
        IsHexDigit (Char.ofNat n) value := by
      decide
    exact forall_ascii (P := fun c => ∀ value ∈ hexValue? c, IsHexDigit c value) hascii
      (toNat_lt_of_hexValue? h) value h
  · rintro (h | h)
    · have hlower : ∀ value (hvalue : value < lowerHexDigits.length),
          hexValue? lowerHexDigits[value] = some value := by
        decide
      obtain ⟨hvalue, rfl⟩ := List.getElem?_eq_some_iff.1 h
      exact hlower value hvalue
    · have hupper : ∀ value (hvalue : value < upperHexDigits.length),
          hexValue? upperHexDigits[value] = some value := by
        decide
      obtain ⟨hvalue, rfl⟩ := List.getElem?_eq_some_iff.1 h
      exact hupper value hvalue

/-- Neither a plus sign nor `#` is a digit. -/
theorem IsHexDigit.ne {c : Char} {value : Nat} (h : IsHexDigit c value) : c ≠ '+' ∧ c ≠ '#' := by
  have hvalue := hexValue?_eq_some_iff.2 h
  constructor
  · rintro rfl
    have hplus : hexValue? '+' = none := rfl
    cases hplus.symm.trans hvalue
  · rintro rfl
    have hhash : hexValue? '#' = none := rfl
    cases hhash.symm.trans hvalue

namespace Rgba

/-! ## Channels -/

/-- Two digits spell a channel. -/
def IsPair (high low : Char) (channel : UInt8) : Prop :=
  ∃ h l, IsHexDigit high h ∧ IsHexDigit low l ∧ channel.toNat = 16 * h + l

/-- A plus sign and a digit stand for a channel. -/
def IsSigned (high low : Char) (channel : UInt8) : Prop :=
  high = '+' ∧ IsHexDigit low channel.toNat

def IsPairOrSigned (high low : Char) (channel : UInt8) : Prop :=
  IsPair high low channel ∨ IsSigned high low channel

theorem channel?_sign {low : Char} {channel : UInt8} :
    channel? '+' low = some channel ↔ IsHexDigit low channel.toNat := by
  rw [channel?, Option.map_eq_some_iff]
  simp only [hexValue?_eq_some_iff]
  constructor
  · rintro ⟨l, hlow, rfl⟩
    rwa [UInt8.toNat_ofNat', Nat.mod_eq_of_lt (by have := hlow.value_lt; omega)]
  · exact fun hlow => ⟨_, hlow, UInt8.ofNat_toNat⟩

theorem channel?_pair {high low : Char} {channel : UInt8} (hhigh : high ≠ '+') :
    channel? high low = some channel ↔ IsPair high low channel := by
  have hstep : channel? high low = (hexValue? high).bind fun h =>
      (hexValue? low).map fun l => UInt8.ofNat (h * 16 + l) := by
    unfold channel?
    split
    · contradiction
    · cases hexValue? high with
      | none => rfl
      | some h => cases hexValue? low <;> rfl
  simp only [hstep, Option.bind_eq_some_iff, Option.map_eq_some_iff, hexValue?_eq_some_iff]
  constructor
  · rintro ⟨h, hh, l, hl, rfl⟩
    refine ⟨h, l, hh, hl, ?_⟩
    have hhvalue := hh.value_lt
    have hlvalue := hl.value_lt
    rw [UInt8.toNat_ofNat', Nat.mod_eq_of_lt (by omega), Nat.mul_comm]
  · rintro ⟨h, l, hh, hl, hchannel⟩
    refine ⟨h, hh, l, hl, ?_⟩
    rw [Nat.mul_comm, ← hchannel, UInt8.ofNat_toNat]

theorem channel?_eq_some_iff {high low : Char} {channel : UInt8} :
    channel? high low = some channel ↔ IsPairOrSigned high low channel := by
  by_cases hhigh : high = '+'
  · subst hhigh
    rw [channel?_sign]
    constructor
    · exact fun hlow => Or.inr ⟨rfl, hlow⟩
    · rintro (⟨h, l, hh, -⟩ | ⟨-, hlow⟩)
      · exact absurd rfl hh.ne.1
      · exact hlow
  · rw [channel?_pair hhigh]
    constructor
    · exact Or.inl
    · rintro (hpair | ⟨hsign, -⟩)
      · exact hpair
      · exact absurd hsign hhigh

/-! ## Whole texts -/

/-- Three or four channels in a row; the alpha of a color of three is 255. -/
inductive Channels (pair : Char → Char → UInt8 → Prop) : List Char → Rgba → Prop where
  | three {r r' g g' b b' : Char} {red green blue : UInt8} :
      pair r r' red → pair g g' green → pair b b' blue →
      Channels pair [r, r', g, g', b, b'] ⟨red, green, blue, 255⟩
  | four {r r' g g' b b' a a' : Char} {red green blue alpha : UInt8} :
      pair r r' red → pair g g' green → pair b b' blue → pair a a' alpha →
      Channels pair [r, r', g, g', b, b', a, a'] ⟨red, green, blue, alpha⟩

/-- A text is, between blanks, any number of `#` and the channels of a color. -/
def IsWritten (pair : Char → Char → UInt8 → Prop) (text : String) (color : Rgba) : Prop :=
  ∃ hashes digits, TrimsTo text.toList (hashes ++ digits) ∧ (∀ c ∈ hashes, c = '#') ∧
    Channels pair digits color

section Channels

variable {pair pair' : Char → Char → UInt8 → Prop} {digits : List Char} {color : Rgba}

/-- What holds of both characters of a channel holds of every character. -/
theorem Channels.forall_mem (P : Char → Prop)
    (hpair : ∀ high low channel, pair high low channel → P high ∧ P low)
    (h : Channels pair digits color) : ∀ c ∈ digits, P c := by
  cases h with
  | three hr hg hb =>
      have hr := hpair _ _ _ hr
      have hg := hpair _ _ _ hg
      have hb := hpair _ _ _ hb
      simp [hr, hg, hb]
  | four hr hg hb ha =>
      have hr := hpair _ _ _ hr
      have hg := hpair _ _ _ hg
      have hb := hpair _ _ _ hb
      have ha := hpair _ _ _ ha
      simp [hr, hg, hb, ha]

theorem Channels.imp (hpair : ∀ high ∈ digits, ∀ low channel,
      pair high low channel → pair' high low channel) (h : Channels pair digits color) :
    Channels pair' digits color := by
  cases h with
  | three hr hg hb =>
      exact .three (hpair _ (by simp) _ _ hr) (hpair _ (by simp) _ _ hg) (hpair _ (by simp) _ _ hb)
  | four hr hg hb ha =>
      exact .four (hpair _ (by simp) _ _ hr) (hpair _ (by simp) _ _ hg) (hpair _ (by simp) _ _ hb)
        (hpair _ (by simp) _ _ ha)

theorem ofDigits?_eq_some_iff :
    ofDigits? digits = some color ↔ Channels IsPairOrSigned digits color := by
  constructor
  · intro h
    unfold ofDigits? at h
    split at h
    next =>
      simp only [Option.bind_eq_bind, Option.bind_eq_some_iff, channel?_eq_some_iff] at h
      obtain ⟨red, hr, green, hg, blue, hb, ⟨⟩⟩ := h
      exact .three hr hg hb
    next =>
      simp only [Option.bind_eq_bind, Option.bind_eq_some_iff, channel?_eq_some_iff] at h
      obtain ⟨red, hr, green, hg, blue, hb, alpha, ha, ⟨⟩⟩ := h
      exact .four hr hg hb ha
    next => cases h
  · intro h
    cases h with
    | three hr hg hb =>
        rw [← channel?_eq_some_iff] at hr hg hb
        simp only [ofDigits?, hr, hg, hb]
        rfl
    | four hr hg hb ha =>
        rw [← channel?_eq_some_iff] at hr hg hb ha
        simp only [ofDigits?, hr, hg, hb, ha]
        rfl

end Channels

variable {text : String} {color : Rgba}

theorem ne_hash_of_isPairOrSigned {high low : Char} {channel : UInt8}
    (h : IsPairOrSigned high low channel) : high ≠ '#' ∧ low ≠ '#' := by
  obtain ⟨_, _, hhigh, hlow, -⟩ | ⟨rfl, hlow⟩ := h
  · exact ⟨hhigh.ne.2, hlow.ne.2⟩
  · exact ⟨by decide, hlow.ne.2⟩

theorem ofHex_eq_ok_iff : ofHex text = .ok color ↔ IsWritten IsPairOrSigned text color := by
  have hok : ofHex text = .ok color ↔
      ofDigits? ((trimBlanks text).toList.dropWhile (· == '#')) = some color := by
    unfold ofHex
    split
    next found hfound => simp [hfound]
    next hnone => simp [hnone]
  rw [hok, ofDigits?_eq_some_iff]
  constructor
  · intro h
    refine ⟨(trimBlanks text).toList.takeWhile (· == '#'), _, ?_, fun c hc => ?_, h⟩
    · rw [List.takeWhile_append_dropWhile, ← toList_trimBlanks_eq_iff]
    · exact beq_iff_eq.1 (List.all_eq_true.1 List.all_takeWhile c hc)
  · rintro ⟨hashes, digits, htrim, hhashes, h⟩
    rw [toList_trimBlanks_eq_iff.2 htrim, dropWhile_run]
    · exact h
    · exact fun c hc => beq_iff_eq.2 (hhashes c hc)
    · intro c hc
      rw [beq_eq_false_iff_ne]
      exact h.forall_mem (· ≠ '#') (fun _ _ _ => ne_hash_of_isPairOrSigned) c
        (List.mem_of_mem_head? hc)

theorem ofHex_eq_error_iff {fault : MetadataError} :
    ofHex text = .error fault ↔
      fault = .invalidColor text ∧ ∀ color, ¬IsWritten IsPairOrSigned text color := by
  simp only [← ofHex_eq_ok_iff]
  unfold ofHex
  split
  · simp
  · simp [eq_comm]

theorem IsWritten.plus_not_mem (h : IsWritten IsPair text color) : '+' ∉ text.toList := by
  obtain ⟨hashes, digits, htrim, hhashes, h⟩ := h
  have hdigits : ∀ c ∈ digits, c ≠ '+' := by
    apply h.forall_mem (· ≠ '+')
    rintro high low channel ⟨_, _, hhigh, hlow, -⟩
    exact ⟨hhigh.ne.1, hlow.ne.1⟩
  intro hplus
  by_cases hcore : '+' ∈ hashes ++ digits
  · obtain hhash | hdigit := List.mem_append.1 hcore
    · exact absurd (hhashes _ hhash) (by decide)
    · exact hdigits _ hdigit rfl
  · exact absurd (htrim.isBlank_of_not_mem hplus hcore) (by decide)

/-- A text that is read as a color is between blanks any number of `#` and six or eight characters,
of which each two are hexadecimal digits or a plus sign and a digit, and every other text is
refused.  Those with digits alone are the ones without a plus sign. -/
theorem ofHex_reads_digits_or_signs (text : String) :
    (∀ color, ofHex text = .ok color ↔ IsWritten IsPairOrSigned text color) ∧
    (∀ fault, ofHex text = .error fault ↔
      fault = .invalidColor text ∧ ∀ color, ¬IsWritten IsPairOrSigned text color) ∧
    ∀ color, IsWritten IsPair text color ↔ ofHex text = .ok color ∧ '+' ∉ text.toList := by
  refine ⟨fun _ => ofHex_eq_ok_iff, fun _ => ofHex_eq_error_iff, fun color => ⟨fun h => ?_, ?_⟩⟩
  · obtain ⟨hashes, digits, htrim, hhashes, hchannels⟩ := id h
    have hread : IsWritten IsPairOrSigned text color :=
      ⟨hashes, digits, htrim, hhashes, hchannels.imp fun _ _ _ _ => Or.inl⟩
    exact ⟨ofHex_eq_ok_iff.2 hread, h.plus_not_mem⟩
  · rintro ⟨hread, hplus⟩
    obtain ⟨hashes, digits, htrim, hhashes, hchannels⟩ := ofHex_eq_ok_iff.1 hread
    refine ⟨hashes, digits, htrim, hhashes, hchannels.imp fun high hhigh low channel hpair => ?_⟩
    obtain hpair | ⟨rfl, -⟩ := hpair
    · exact hpair
    · exact absurd (htrim.mem (List.mem_append_right hashes hhigh)) hplus

example : ofHex " ##+f0A+0\n" = .ok ⟨15, 10, 0, 255⟩ := rfl

end Rgba

end WeatherRadar
