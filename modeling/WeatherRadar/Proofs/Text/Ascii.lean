import Mathlib.Data.List.Flatten
import Mathlib.Data.String.Basic
import WeatherRadar.Text.Case
/-!
# ASCII texts

A text of ASCII has as many bytes as characters, and its upper case is that of every character by
itself (`toList_upperCase`).
-/

namespace WeatherRadar

def IsAscii (text : String) : Prop := ∀ c ∈ text.toList, c.toNat < 128

-- There are finitely many characters, but only those of the text need be looked at.
instance (text : String) : Decidable (IsAscii text) := List.decidableBAll _ text.toList

theorem toNat_lt_of_le {c last : Char} (hle : c ≤ last) (hlast : last.toNat < 128) :
    c.toNat < 128 := Nat.lt_of_le_of_lt hle hlast

/-- What holds of the first 128 characters holds of every character of ASCII. -/
theorem forall_ascii {P : Char → Prop} (h : ∀ n < 128, P (Char.ofNat n)) {c : Char}
    (hc : c.toNat < 128) : P c := by
  have hc := h c.toNat hc
  rwa [Char.ofNat_toNat] at hc

theorem toNat_toUpper_lt {c : Char} (hc : c.toNat < 128) : c.toUpper.toNat < 128 :=
  forall_ascii (P := fun c => c.toUpper.toNat < 128) (by decide) hc

theorem toList_upperCase {text : String} (h : IsAscii text) :
    (upperCase text).toList = text.toList.map Char.toUpper := by
  have hupper : ∀ c ∈ text.toList, upperChar c = [c.toUpper] := fun c hc => if_pos (h c hc)
  rw [upperCase, String.toList_ofList, List.flatMap_congr hupper, List.map_eq_flatMap]

theorem IsAscii.upperCase {text : String} (h : IsAscii text) : IsAscii (upperCase text) := by
  intro c hc
  rw [toList_upperCase h] at hc
  obtain ⟨d, hd, rfl⟩ := List.mem_map.1 hc
  exact toNat_toUpper_lt (h d hd)

theorem utf8Len_eq_length {cs : List Char} (h : ∀ c ∈ cs, c.toNat < 128) :
    String.utf8Len cs = cs.length := by
  induction cs with
  | nil => rfl
  | cons c cs ih =>
      have hsize : c.utf8Size = 1 :=
        Char.utf8Size_eq_one_iff.2 (UInt32.le_iff_toNat_le.2 (Nat.le_of_lt_succ (h c (by simp))))
      rw [String.utf8Len_cons, ih fun d hd => h d (by simp [hd]), hsize, List.length_cons]

theorem IsAscii.utf8ByteSize {text : String} (h : IsAscii text) :
    text.utf8ByteSize = text.length := by
  rw [← String.length_toList, ← utf8Len_eq_length h, ← String.utf8ByteSize_ofList,
    String.ofList_toList]

end WeatherRadar
