import Mathlib.Data.List.DropRight
import WeatherRadar.Text.Blank
/-!
# Trimming

A trimmed text is what stands between two runs of blanks and neither begins nor ends with a blank
(`toList_trimBlanks_eq_iff`).
-/

namespace WeatherRadar

/-! ## Runs at the front -/

section Runs

variable {α : Type} {p : α → Bool} {run rest : List α}

theorem head?_cons {a : α} (ha : p a = false) : ∀ b ∈ (a :: rest).head?, p b = false := by
  rintro b ⟨⟩
  exact ha

theorem takeWhile_run (hrun : ∀ a ∈ run, p a = true) (hrest : ∀ a ∈ rest.head?, p a = false) :
    (run ++ rest).takeWhile p = run := by
  rw [List.takeWhile_append_of_pos hrun]
  cases rest with
  | nil => simp
  | cons a rest => simp [hrest a rfl]

theorem dropWhile_run (hrun : ∀ a ∈ run, p a = true) (hrest : ∀ a ∈ rest.head?, p a = false) :
    (run ++ rest).dropWhile p = rest := by
  rw [List.dropWhile_append_of_pos hrun]
  cases rest with
  | nil => rfl
  | cons a rest => simp [hrest a rfl]

theorem not_of_mem_head?_dropWhile {l : List α} :
    ∀ a ∈ (l.dropWhile p).head?, p a = false := by
  intro a ha
  have hfirst := List.head?_dropWhile_not p l
  rwa [Option.mem_def.1 ha] at hfirst

theorem dropTrailing_eq_rdropWhile (xs : List α) : dropTrailing p xs = xs.rdropWhile p := rfl

/-- A run at the end is left out, whatever stands in front of it. -/
theorem dropTrailing_run (hrun : ∀ a ∈ run, p a = true)
    (hrest : ∀ a ∈ rest.getLast?, p a = false) : dropTrailing p (rest ++ run) = rest := by
  have hfront : ∀ a ∈ rest.reverse.head?, p a = false := by
    rwa [List.head?_reverse]
  have hback : ∀ a ∈ run.reverse, p a = true := fun a ha => hrun a (List.mem_reverse.1 ha)
  rw [dropTrailing, List.reverse_append, dropWhile_run hback hfront, List.reverse_reverse]

/-- What is left out is a run, and what is left does not end with a member of it. -/
theorem exists_run_dropTrailing (xs : List α) : ∃ run, xs = dropTrailing p xs ++ run ∧
    (∀ a ∈ run, p a = true) ∧ ∀ a ∈ (dropTrailing p xs).getLast?, p a = false := by
  refine ⟨xs.rtakeWhile p, ?_, fun a => List.mem_rtakeWhile_imp, fun a ha => ?_⟩
  · rw [dropTrailing_eq_rdropWhile, List.rdropWhile_append_rtakeWhile]
  · rw [dropTrailing, List.getLast?_reverse] at ha
    exact not_of_mem_head?_dropWhile a ha

end Runs

/-! ## Blanks at both ends -/

/-- Some characters are blanks, a core without a blank at its ends, and blanks again. -/
def TrimsTo (cs core : List Char) : Prop :=
  ∃ before after, cs = before ++ core ++ after ∧ (∀ c ∈ before, isBlank c = true) ∧
    (∀ c ∈ after, isBlank c = true) ∧ (∀ c ∈ core.head?, isBlank c = false) ∧
    ∀ c ∈ core.getLast?, isBlank c = false

variable {cs core : List Char}

theorem TrimsTo.mem (h : TrimsTo cs core) {c : Char} (hc : c ∈ core) : c ∈ cs := by
  obtain ⟨before, after, rfl, -⟩ := h
  simp [hc]

theorem TrimsTo.isBlank_of_not_mem (h : TrimsTo cs core) {c : Char} (hc : c ∈ cs)
    (hcore : c ∉ core) : isBlank c = true := by
  obtain ⟨before, after, rfl, hbefore, hafter, -⟩ := h
  simp only [List.mem_append, hcore, or_false] at hc
  exact hc.elim (hbefore c) (hafter c)

/-- A text without blanks is not changed by trimming. -/
theorem trimsTo_self (h : ∀ c ∈ cs, isBlank c = false) : TrimsTo cs cs :=
  ⟨[], [], by simp, by simp, by simp, fun c hc => h c (List.mem_of_mem_head? hc),
    fun c hc => h c (List.mem_of_mem_getLast? hc)⟩

/-- What is left by trimming is the core. -/
theorem trimsTo_dropTrailing (cs : List Char) :
    TrimsTo cs (dropTrailing isBlank (cs.dropWhile isBlank)) := by
  have hsplit : cs = cs.takeWhile isBlank ++ dropTrailing isBlank (cs.dropWhile isBlank) ++
      (cs.dropWhile isBlank).rtakeWhile isBlank := by
    rw [dropTrailing_eq_rdropWhile, List.append_assoc, List.rdropWhile_append_rtakeWhile,
      List.takeWhile_append_dropWhile]
  refine ⟨_, _, hsplit, List.all_eq_true.1 List.all_takeWhile, fun c => List.mem_rtakeWhile_imp,
    fun c hc => ?_, fun c hc => ?_⟩
  · obtain ⟨rest, hrest⟩ := List.rdropWhile_prefix isBlank (l := cs.dropWhile isBlank)
    refine not_of_mem_head?_dropWhile c (l := cs) ?_
    rw [← hrest, List.head?_append, ← dropTrailing_eq_rdropWhile, Option.mem_def.1 hc]
    rfl
  · rw [dropTrailing, List.getLast?_reverse] at hc
    exact not_of_mem_head?_dropWhile c hc

/-- There is one core. -/
theorem TrimsTo.eq (h : TrimsTo cs core) : dropTrailing isBlank (cs.dropWhile isBlank) = core := by
  obtain ⟨before, after, rfl, hbefore, hafter, hfirst, hlast⟩ := h
  cases core with
  | nil =>
      have hall : ∀ c ∈ before ++ [] ++ after, isBlank c = true := by
        intro c hc
        rw [List.append_nil, List.mem_append] at hc
        exact hc.elim (hbefore c) (hafter c)
      rw [List.dropWhile_eq_nil_iff.2 hall]
      rfl
  | cons c core =>
      rw [List.append_assoc, dropWhile_run hbefore (by simpa using hfirst),
        dropTrailing_run hafter hlast]

theorem trimsTo_iff : TrimsTo cs core ↔ (trimBlanks (String.ofList cs)).toList = core := by
  rw [trimBlanks, String.toList_ofList, String.toList_ofList]
  constructor
  · exact TrimsTo.eq
  · rintro rfl
    exact trimsTo_dropTrailing cs

theorem toList_trimBlanks_eq_iff {text : String} :
    (trimBlanks text).toList = core ↔ TrimsTo text.toList core := by
  rw [trimsTo_iff, String.ofList_toList]

end WeatherRadar
