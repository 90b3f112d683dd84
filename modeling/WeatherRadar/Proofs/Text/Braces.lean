import WeatherRadar.Proofs.Text.Ascii
import WeatherRadar.Proofs.Text.Trimming
/-!
# Texts without braces

Only braces have braces in their upper or lower case, so that a text without braces has none in
either case (`hasNoBraces_upperCase`, `hasNoBraces_lowerCase`).
-/

namespace WeatherRadar

open CaseData

def isBrace (c : Char) : Bool := c == '\x7b' || c == '\x7d'

/-- No member of a text is a brace. -/
def HasNoBraces (cs : List Char) : Prop := ∀ c ∈ cs, isBrace c = false

instance (cs : List Char) : Decidable (HasNoBraces cs) := List.decidableBAll _ cs

theorem isBrace_ofNat {n : Nat} (hopen : n ≠ 0x7B) (hclose : n ≠ 0x7D) :
    isBrace (Char.ofNat n) = false := by
  by_cases hvalid : n.isValidChar
  · have hn : (Char.ofNat n).toNat = n := by
      rw [Char.ofNat, dif_pos hvalid]
      rfl
    have hne : ∀ c : Char, n ≠ c.toNat → Char.ofNat n ≠ c := by
      rintro c hc rfl
      exact hc hn.symm
    rw [isBrace, beq_eq_false_iff_ne.2 (hne '\x7b' hopen),
      beq_eq_false_iff_ne.2 (hne '\x7d' hclose)]
    rfl
  · rw [Char.ofNat, dif_neg hvalid]
    rfl

/-! ## Tables of cases -/

/-- A table that maps no character to a brace. -/
def AvoidsBraces (runs : Array Run) (expansions : Array (Nat × List Nat)) : Prop :=
  (∀ run ∈ runs.toList, run.last + run.offset < 0x7B ∨ 0x7D < run.first + run.offset) ∧
    ∀ entry ∈ expansions.toList, ∀ code ∈ entry.2, code ≠ 0x7B ∧ code ≠ 0x7D

theorem AvoidsBraces.map {runs : Array Run} {expansions : Array (Nat × List Nat)}
    (h : AvoidsBraces runs expansions) {c : Char} (hc : isBrace c = false) :
    HasNoBraces (CaseData.map runs expansions c) := by
  unfold CaseData.map
  split
  next _ codes hfound =>
    intro d hd
    obtain ⟨code, hcode, rfl⟩ := List.mem_map.1 hd
    have hmem := Array.mem_toList_iff.2 (Array.mem_of_find?_eq_some hfound)
    obtain ⟨hopen, hclose⟩ := h.2 _ hmem code hcode
    exact isBrace_ofNat hopen hclose
  next =>
    split
    next run hfound =>
      have hmem := Array.mem_toList_iff.2 (Array.mem_of_find?_eq_some hfound)
      have hrun := h.1 _ hmem
      have hin := Array.find?_some hfound
      simp only [Bool.and_eq_true, decide_eq_true_eq] at hin
      exact List.forall_mem_singleton.2 (isBrace_ofNat (by omega) (by omega))
    next => exact List.forall_mem_singleton.2 hc

theorem upper_avoidsBraces : AvoidsBraces upperRuns upperExpansions := by
  unfold AvoidsBraces
  decide +kernel

theorem lower_avoidsBraces : AvoidsBraces lowerRuns lowerExpansions := by
  unfold AvoidsBraces
  decide +kernel

/-! ## Cases of texts -/

theorem isBrace_ascii {c : Char} (hascii : c.toNat < 128) (hc : isBrace c = false) :
    isBrace c.toUpper = false ∧ isBrace c.toLower = false :=
  forall_ascii (P := fun c => isBrace c = false → isBrace c.toUpper = false ∧
    isBrace c.toLower = false) (by decide) hascii hc

theorem hasNoBraces_upperChar {c : Char} (hc : isBrace c = false) : HasNoBraces (upperChar c) := by
  unfold upperChar
  split
  next hascii => exact List.forall_mem_singleton.2 (isBrace_ascii hascii hc).1
  next => exact upper_avoidsBraces.map hc

theorem hasNoBraces_lowerChar {c : Char} (hc : isBrace c = false) : HasNoBraces (lowerChar c) := by
  unfold lowerChar
  split
  next hascii => exact List.forall_mem_singleton.2 (isBrace_ascii hascii hc).2
  next => exact lower_avoidsBraces.map hc

theorem hasNoBraces_lowerFrom {cs : List Char} (h : HasNoBraces cs) (before : List Char) :
    HasNoBraces (lowerFrom before cs) := by
  induction cs generalizing before with
  | nil => exact List.forall_mem_nil _
  | cons c cs ih =>
      obtain ⟨hc, hcs⟩ := List.forall_mem_cons.1 h
      refine List.forall_mem_append.2 ⟨?_, ih hcs _⟩
      split
      · split
        · exact List.forall_mem_singleton.2 (by decide)
        · exact List.forall_mem_singleton.2 (by decide)
      · exact hasNoBraces_lowerChar hc

variable {text : String}

theorem hasNoBraces_upperCase (h : HasNoBraces text.toList) :
    HasNoBraces (upperCase text).toList := by
  intro c hc
  rw [upperCase, String.toList_ofList] at hc
  obtain ⟨d, hd, hmem⟩ := List.mem_flatMap.1 hc
  exact hasNoBraces_upperChar (h d hd) c hmem

theorem hasNoBraces_lowerCase (h : HasNoBraces text.toList) :
    HasNoBraces (lowerCase text).toList := by
  rw [lowerCase, String.toList_ofList]
  exact hasNoBraces_lowerFrom h []

theorem hasNoBraces_trimBlanks (h : HasNoBraces text.toList) :
    HasNoBraces (trimBlanks text).toList :=
  fun c hc => h c ((toList_trimBlanks_eq_iff.1 rfl).mem hc)

end WeatherRadar
