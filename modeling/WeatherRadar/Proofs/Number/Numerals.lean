import Mathlib.Algebra.Ring.Nat
import WeatherRadar.Number.Reading
/-!
# Numerals

A whole number is spelled by decimal digits with an optional sign.  A reader of a range takes
exactly the spellings of the numbers in the range (`readInteger?_eq_some_iff`), and the text of a
number is one of its spellings (`isNumeral_toString`).
-/

namespace WeatherRadar

/-- At least one decimal digit, and nothing else. -/
def IsDigits (cs : List Char) : Prop := cs ≠ [] ∧ ∀ c ∈ cs, c.isDigit = true

/-- Characters spell a number: digits in base ten, the first one first, and an optional sign. -/
inductive IsNumeral : List Char → Int → Prop where
  | unsigned {digits : List Char} :
      IsDigits digits → IsNumeral digits (Nat.ofDigitChars 10 digits 0)
  | plus {digits : List Char} :
      IsDigits digits → IsNumeral ('+' :: digits) (Nat.ofDigitChars 10 digits 0)
  | minus {digits : List Char} :
      IsDigits digits → IsNumeral ('-' :: digits) (-Nat.ofDigitChars 10 digits 0)

variable {c : Char} {cs : List Char} {n : Int}

theorem isDecimalDigit_eq (c : Char) : isDecimalDigit c = c.isDigit := rfl

theorem decimalValue_eq (cs : List Char) : decimalValue cs = Nat.ofDigitChars 10 cs 0 := by
  rw [decimalValue, Nat.ofDigitChars]
  congr 1
  funext value c
  rw [Nat.mul_comm]
  rfl

theorem readDigits?_eq_some_iff {value : Nat} :
    readDigits? cs = some value ↔ IsDigits cs ∧ value = Nat.ofDigitChars 10 cs 0 := by
  have hdigits : (cs.isEmpty || !cs.all isDecimalDigit) = false ↔ IsDigits cs := by
    simp [IsDigits, isDecimalDigit_eq]
  unfold readDigits?
  split
  next hfails =>
    rw [← hdigits, hfails]
    simp
  next hfails =>
    rw [Bool.not_eq_true] at hfails
    simp [hdigits.1 hfails, decimalValue_eq, eq_comm]

theorem IsDigits.head?_isDigit (h : IsDigits (c :: cs)) : c.isDigit = true := h.2 c (by simp)

theorem isNumeral_minus_iff :
    IsNumeral ('-' :: cs) n ↔ IsDigits cs ∧ n = -Nat.ofDigitChars 10 cs 0 := by
  constructor
  · intro h
    cases h with
    | unsigned hdigits => cases hdigits.head?_isDigit
    | minus hdigits => exact ⟨hdigits, rfl⟩
  · rintro ⟨hdigits, rfl⟩
    exact .minus hdigits

theorem isNumeral_plus_iff :
    IsNumeral ('+' :: cs) n ↔ IsDigits cs ∧ n = Nat.ofDigitChars 10 cs 0 := by
  constructor
  · intro h
    cases h with
    | unsigned hdigits => cases hdigits.head?_isDigit
    | plus hdigits => exact ⟨hdigits, rfl⟩
  · rintro ⟨hdigits, rfl⟩
    exact .plus hdigits

theorem isNumeral_iff_of_ne (hplus : ∀ ds, cs ≠ '+' :: ds) (hminus : ∀ ds, cs ≠ '-' :: ds) :
    IsNumeral cs n ↔ IsDigits cs ∧ n = Nat.ofDigitChars 10 cs 0 := by
  constructor
  · intro h
    cases h with
    | unsigned hdigits => exact ⟨hdigits, rfl⟩
    | plus => exact absurd rfl (hplus _)
    | minus => exact absurd rfl (hminus _)
  · rintro ⟨hdigits, rfl⟩
    exact .unsigned hdigits

/-- What is read where no minus sign stands in front. -/
theorem readNatural?_eq_some_iff {bits value : Nat} (hminus : ∀ ds, cs ≠ '-' :: ds) :
    readNatural? bits cs = some value ↔ IsNumeral cs value ∧ value < 2 ^ bits := by
  have hread : ∀ ds, (readDigits? ds).filter (· < Nat.pow 2 bits) = some value ↔
      (IsDigits ds ∧ (value : Int) = Nat.ofDigitChars 10 ds 0) ∧ value < 2 ^ bits := by
    intro ds
    rw [Option.filter_eq_some_iff, readDigits?_eq_some_iff, decide_eq_true_eq, Int.natCast_inj]
    rfl
  unfold readNatural?
  split
  next ds => rw [isNumeral_plus_iff, hread]
  next hplus => rw [isNumeral_iff_of_ne hplus hminus, hread]

theorem readInteger?_eq_some_iff {bits : Nat} :
    readInteger? bits cs = some n ↔
      IsNumeral cs n ∧ -(2 ^ (bits - 1) : Nat) ≤ n ∧ n < (2 ^ (bits - 1) : Nat) := by
  have hpos : 0 < 2 ^ (bits - 1) := Nat.two_pow_pos _
  unfold readInteger?
  split
  next ds =>
    rw [isNumeral_minus_iff, Option.bind_eq_some_iff]
    simp only [readDigits?_eq_some_iff, Option.ite_none_right_eq_some, Option.some.injEq,
      Nat.pow_eq]
    constructor
    · rintro ⟨value, ⟨hdigits, hvalue⟩, hle, rfl⟩
      exact ⟨⟨hdigits, by rw [hvalue]⟩, by omega, by omega⟩
    · rintro ⟨⟨hdigits, hn⟩, hle, -⟩
      exact ⟨_, ⟨hdigits, rfl⟩, by omega, hn.symm⟩
  next hminus =>
    rw [Option.map_eq_some_iff]
    simp only [readNatural?_eq_some_iff hminus]
    constructor
    · rintro ⟨value, ⟨hnumeral, hlt⟩, rfl⟩
      have hnegative : -((2 ^ (bits - 1) : Nat) : Int) ≤ 0 := by omega
      exact ⟨hnumeral, Int.le_trans hnegative (Int.natCast_nonneg value), Int.ofNat_lt.2 hlt⟩
    · rintro ⟨hnumeral, -, hlt⟩
      -- Without a minus sign no number below zero is spelled.
      have hnonneg : 0 ≤ n := by
        cases hnumeral with
        | minus => exact absurd rfl (hminus _)
        | _ => exact Int.natCast_nonneg _
      obtain ⟨value, rfl⟩ := Int.eq_ofNat_of_zero_le hnonneg
      exact ⟨value, ⟨hnumeral, Int.ofNat_lt.1 hlt⟩, rfl⟩

theorem isDigits_toDigits (n : Nat) : IsDigits (Nat.toDigits 10 n) :=
  ⟨Nat.toDigits_ne_nil, fun _ hc => Nat.isDigit_of_mem_toDigits (by decide) (by decide) hc⟩

/-- A number is spelled by its text. -/
theorem isNumeral_toString (n : Int) : IsNumeral (toString n).toList n := by
  have hvalue : ∀ m : Nat, Nat.ofDigitChars 10 (Nat.toDigits 10 m) 0 = m := fun _ =>
    Nat.ofDigitChars_ten_toDigits
  rw [Int.toString_eq_repr, Int.repr_eq_if]
  split
  next hn =>
    have h := IsNumeral.unsigned (isDigits_toDigits n.toNat)
    rwa [hvalue, Int.toNat_of_nonneg hn, ← Nat.toList_repr] at h
  next hn =>
    have h := IsNumeral.minus (isDigits_toDigits (-n).toNat)
    rw [hvalue, Int.toNat_of_nonneg (by omega), Int.neg_neg, ← Nat.toList_repr] at h
    rwa [String.toList_append]

end WeatherRadar
