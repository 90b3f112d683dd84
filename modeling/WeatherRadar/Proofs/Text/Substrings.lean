import Mathlib.Data.List.Infix
import WeatherRadar.Text.Substring
/-!
# Occurrences of a pattern

A pattern occurs in a list if it is a block of neighbors in it (`occursIn_iff_isInfix`).  A search
and a replacement pass over a part of the list in which the pattern begins nowhere, and meet the
pattern where it stands in front (`replaceAll_pass`, `replaceAll_meet`).
-/

namespace WeatherRadar

variable {α : Type} {pattern replacement run xs : List α} {x : α}

theorem occursIn_iff_isInfix [BEq α] [LawfulBEq α] :
    occursIn pattern xs = true ↔ pattern <:+: xs := by
  induction xs with
  | nil => rw [occursIn, List.isEmpty_iff, List.infix_nil]
  | cons x xs ih =>
      rw [occursIn, Bool.or_eq_true, List.isPrefixOf_iff_prefix, ih, List.infix_cons_iff]

/-- A pattern begins at no member of a list, whatever comes behind the list. -/
def BeginsNowhere (pattern : List α) : List α → Prop
  | [] => True
  | x :: run => (∀ rest, ¬pattern <+: x :: (run ++ rest)) ∧ BeginsNowhere pattern run

theorem beginsNowhere_of_not_mem (hx : x ∉ run) : BeginsNowhere (x :: xs) run := by
  induction run with
  | nil => trivial
  | cons y run ih =>
      rw [List.mem_cons, not_or] at hx
      exact ⟨fun rest hbegins => hx.1 (List.cons_prefix_cons.1 hbegins).1, ih hx.2⟩

variable [BEq α]

theorem replaceAll_nil : replaceAll pattern replacement [] = [] := by rw [replaceAll]

variable [LawfulBEq α]

theorem occursIn_pass (h : BeginsNowhere pattern run) (rest : List α) :
    occursIn pattern (run ++ rest) = occursIn pattern rest := by
  induction run with
  | nil => rfl
  | cons x run ih =>
      obtain ⟨hx, hrun⟩ := h
      have hbegins : pattern.isPrefixOf (x :: (run ++ rest)) = false := by
        rw [← Bool.not_eq_true, List.isPrefixOf_iff_prefix]
        exact hx rest
      rw [List.cons_append, occursIn, hbegins, Bool.false_or, ih hrun]

theorem replaceAll_pass (h : BeginsNowhere pattern run) (rest : List α) :
    replaceAll pattern replacement (run ++ rest) = run ++ replaceAll pattern replacement rest := by
  induction run with
  | nil => rfl
  | cons x run ih =>
      obtain ⟨hx, hrun⟩ := h
      rw [List.cons_append, replaceAll, if_neg fun hbegins => hx rest
        (List.isPrefixOf_iff_prefix.1 hbegins), ih hrun, List.cons_append]

theorem replaceAll_meet (hpattern : pattern ≠ []) (rest : List α) :
    replaceAll pattern replacement (pattern ++ rest) =
      replacement ++ replaceAll pattern replacement rest := by
  obtain ⟨x, xs, rfl⟩ := List.exists_cons_of_ne_nil hpattern
  have hbegins : (x :: xs).isPrefixOf (x :: (xs ++ rest)) = true :=
    List.isPrefixOf_iff_prefix.2 (List.prefix_append (x :: xs) rest)
  rw [List.cons_append, replaceAll, if_pos hbegins, List.length_cons, Nat.add_sub_cancel,
    List.drop_left]

end WeatherRadar
