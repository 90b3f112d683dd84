import Mathlib.Data.List.Chain
import WeatherRadar.Proofs.Level3.Runs
/-!
# Shortest runs

Levels are packed into runs of which no two neighbours could be joined (`AreFull`), and no fewer
runs spell the same levels (`length_foldl_pushLevel_expandRuns`).  So packed levels are read back
with their own number only, and in no fewer bytes (`packRuns_shortest`).
-/

namespace WeatherRadar.Level3.GateLevels

/-! ## Runs that cannot be joined -/

theorem runLength_le (run : UInt8) : runLength run ≤ 15 := by
  have hbyte := run.toNat_lt
  rw [runLength]
  omega

/-- Runs of at least one gate.  Another run of the same level follows only a run that cannot be
longer. -/
structure AreFull (runs : List UInt8) : Prop where
  length : ∀ run ∈ runs, 1 ≤ runLength run ∧ runLength run ≤ 15
  chain : runs.IsChain fun run next => runLevel run = runLevel next → runLength run = 15

theorem areFull_nil : AreFull [] := ⟨by simp, .nil⟩

/-- Full runs stay so when a level is added behind them. -/
theorem AreFull.pushLevel {runs : List UInt8} (h : AreFull runs.reverse) {level : UInt8}
    (hlevel : level.toNat < 16) : AreFull (pushLevel runs level).reverse := by
  obtain ⟨hlength, hchain⟩ := h
  rw [List.isChain_reverse] at hchain
  simp only [List.mem_reverse] at hlength
  cases runs with
  | nil =>
      refine ⟨?_, .singleton _⟩
      intro run hrun
      obtain rfl : run = 16 + level := List.mem_singleton.1 hrun
      rw [runLength_new hlevel]
      decide
  | cons last runs =>
      obtain ⟨hbefore, hrest⟩ := List.isChain_cons.1 hchain
      rw [GateLevels.pushLevel]
      by_cases hsame : (runLevel last == level && runLength last < 15) = true
      · -- The last run grows and keeps its level, which is all that the one before it asks for.
        rw [if_pos hsame]
        rw [Bool.and_eq_true, decide_eq_true_eq] at hsame
        refine ⟨?_, List.isChain_reverse.2 (List.isChain_cons.2 ⟨?_, hrest⟩)⟩
        · intro run hrun
          rw [List.mem_reverse, List.mem_cons] at hrun
          rcases hrun with rfl | hrun
          · rw [runLength_longer hsame.2]
            omega
          · exact hlength run (by simp [hrun])
        · intro run hrun
          rw [runLevel_longer]
          exact hbefore run hrun
      · rw [if_neg hsame]
        rw [Bool.and_eq_true, beq_iff_eq, decide_eq_true_eq] at hsame
        refine ⟨?_, List.isChain_reverse.2 (List.isChain_cons.2 ⟨?_, hchain⟩)⟩
        · intro run hrun
          rw [List.mem_reverse, List.mem_cons] at hrun
          rcases hrun with rfl | hrun
          · rw [runLength_new hlevel]
            decide
          · exact hlength run hrun
        · intro run hrun hequal
          obtain rfl : last = run := Option.some.inj hrun
          rw [runLevel_new hlevel] at hequal
          have hmost := runLength_le last
          by_contra hshort
          exact hsame ⟨hequal, by omega⟩

theorem areFull_foldl_pushLevel {levels : List UInt8}
    (hlevels : ∀ level ∈ levels, level.toNat < 16) {runs : List UInt8}
    (h : AreFull runs.reverse) : AreFull (levels.foldl pushLevel runs).reverse := by
  induction levels generalizing runs with
  | nil => exact h
  | cons level levels ih =>
      exact ih (fun other hother => hlevels other (by simp [hother]))
        (h.pushLevel (hlevels level (by simp)))

/-! ## No fewer runs -/

theorem pushLevel_joined {run : UInt8} (runs : List UInt8) (hshort : runLength run < 15) :
    pushLevel (run :: runs) (runLevel run) = (run + 16) :: runs := by
  rw [pushLevel, beq_self_eq_true, Bool.true_and, if_pos (decide_eq_true hshort)]

theorem pushLevel_cases (runs : List UInt8) (level : UInt8) :
    (pushLevel runs level).length = runs.length ∨ pushLevel runs level = (16 + level) :: runs := by
  cases runs with
  | nil => exact Or.inr rfl
  | cons run runs =>
      rw [pushLevel]
      split
      · exact Or.inl rfl
      · exact Or.inr rfl

/-- Equal levels begin one run at most, if they are no more than a run can hold. -/
theorem foldl_pushLevel_replicate (runs : List UInt8) {level : UInt8} (hlevel : level.toNat < 16)
    {count : Nat} (hcount : count ≤ 15) :
    ((List.replicate count level).foldl pushLevel runs).length = runs.length ∨
      ∃ run before, (List.replicate count level).foldl pushLevel runs = run :: before ∧
        before.length = runs.length ∧ runLevel run = level ∧ runLength run ≤ count := by
  induction count with
  | zero => exact Or.inl rfl
  | succ count ih =>
      rw [List.replicate_succ', List.foldl_append, List.foldl_cons, List.foldl_nil]
      rcases ih (by omega) with hsame | ⟨run, before, hpushed, hbefore, rfl, hless⟩
      · rcases pushLevel_cases ((List.replicate count level).foldl pushLevel runs) level with
          hjoined | hbegun
        · exact Or.inl (hjoined.trans hsame)
        · refine Or.inr ⟨_, _, hbegun, hsame, runLevel_new hlevel, ?_⟩
          rw [runLength_new hlevel]
          omega
      · -- The run that was begun on the way holds fewer gates than a run can.
        have hshort : runLength run < 15 := by omega
        rw [hpushed, pushLevel_joined before hshort]
        refine Or.inr ⟨_, _, rfl, hbefore, runLevel_longer run, ?_⟩
        rw [runLength_longer hshort]
        omega

theorem length_foldl_pushLevel_run (runs : List UInt8) (run : UInt8) :
    ((expandRuns [run]).foldl pushLevel runs).length ≤ runs.length + 1 := by
  rw [expandRuns_singleton]
  rcases foldl_pushLevel_replicate runs (runLevel_lt run) (runLength_le run) with
    hsame | ⟨last, before, hpushed, hbefore, -, -⟩
  · omega
  · rw [hpushed, List.length_cons, hbefore]

/-- The levels that runs spell are packed into no more runs. -/
theorem length_foldl_pushLevel_expandRuns (other runs : List UInt8) :
    ((expandRuns other).foldl pushLevel runs).length ≤ runs.length + other.length := by
  induction other generalizing runs with
  | nil => exact Nat.le_refl _
  | cons run other ih =>
      have hrun := length_foldl_pushLevel_run runs run
      have hother := ih ((expandRuns [run]).foldl pushLevel runs)
      rw [← List.singleton_append, expandRuns_append, List.foldl_append, List.length_append,
        List.length_singleton]
      omega

/-! ## Packed levels -/

theorem expand_runLength4 (payload : List UInt8) (expected : Nat) :
    expand payload .runLength4 expected =
      if expected = (expandRuns payload).length then .ok (.bytes (expandRuns payload).toArray)
      else .error (.malformedRunLength expected (expandRuns payload).length) := by
  rw [expand, runTotal_eq]
  simp only [beq_iff_eq, @eq_comm _ expected]

theorem packRuns_eq_error_iff (levels : List UInt8) :
    (∃ fault, packRuns levels = .error fault) ↔ ∃ level ∈ levels, 15 < level := by
  rw [packRuns]
  cases hfound : levels.find? (15 < ·) with
  | none =>
      rw [List.find?_eq_none] at hfound
      simpa using hfound
  | some level =>
      have hlarge := List.find?_some hfound
      exact iff_of_true ⟨_, rfl⟩ ⟨level, List.mem_of_find?_eq_some hfound, of_decide_eq_true hlarge⟩

theorem packRuns_eq_ok {levels packed : List UInt8} (h : packRuns levels = .ok packed) :
    (∀ level ∈ levels, level.toNat < 16) ∧
      packed = padEven (levels.foldl pushLevel []).reverse := by
  rw [packRuns] at h
  cases hfound : levels.find? (15 < ·) with
  | some level => simp [hfound] at h
  | none =>
      rw [hfound] at h
      refine ⟨?_, (Except.ok.inj h).symm⟩
      intro level hlevel
      have hsmall := List.find?_eq_none.1 hfound level hlevel
      rw [decide_eq_true_eq, UInt8.lt_iff_toNat_lt] at hsmall
      have hfifteen : (15 : UInt8).toNat = 15 := rfl
      omega

/-- Levels can be packed unless one of them is above 15.  What they are packed into is read as the
same levels, if as many are expected, and is otherwise refused with their number.  It consists of
full runs, up to one byte of zeros that makes its size even, and no fewer bytes are read as these
levels. -/
theorem packRuns_shortest (levels : List UInt8) :
    ((∃ fault, packRuns levels = .error fault) ↔ ∃ level ∈ levels, 15 < level) ∧
    ∀ packed, packRuns levels = .ok packed →
      packed.length % 2 = 0 ∧
      (∀ expected, expand packed .runLength4 expected =
        if expected = levels.length then .ok (.bytes levels.toArray)
        else .error (.malformedRunLength expected levels.length)) ∧
      ∃ runs, packed = runs ++ List.replicate (runs.length % 2) 0 ∧ AreFull runs ∧
        ∀ other expected, expand other .runLength4 expected = .ok (.bytes levels.toArray) →
          runs.length ≤ other.length := by
  refine ⟨packRuns_eq_error_iff levels, ?_⟩
  intro packed hpacked
  obtain ⟨hlevels, rfl⟩ := packRuns_eq_ok hpacked
  have hspelled : expandRuns (padEven (levels.foldl pushLevel []).reverse) = levels := by
    rw [expandRuns_padEven, expandRuns_foldl_pushLevel levels [] hlevels]
    rfl
  refine ⟨?_, ?_, (levels.foldl pushLevel []).reverse, padEven_eq _,
    areFull_foldl_pushLevel hlevels areFull_nil, ?_⟩
  · rw [length_padEven]
    omega
  · intro expected
    rw [expand_runLength4, hspelled]
  · intro other expected hother
    rw [expand_runLength4] at hother
    split at hother
    · have hsame : expandRuns other = levels := by
        simpa using hother
      have hless := length_foldl_pushLevel_expandRuns other []
      rw [hsame, List.length_nil, Nat.zero_add] at hless
      rwa [List.length_reverse]
    · cases hother

/-- Twenty equal levels and another one need two runs and one, and a byte of zeros. -/
theorem packRuns_shortest_long_run :
    let levels := List.replicate 20 7 ++ [3]
    packRuns levels = .ok [0xF7, 0x57, 0x13, 0] ∧
      expand [0xF7, 0x57, 0x13, 0] .runLength4 20 = .error (.malformedRunLength 20 21) ∧
      ∀ other expected, expand other .runLength4 expected = .ok (.bytes levels.toArray) →
        3 ≤ other.length := by
  intro levels
  have hpacked : packRuns levels = .ok [0xF7, 0x57, 0x13, 0] := by decide +kernel
  obtain ⟨-, hall⟩ := packRuns_shortest levels
  obtain ⟨-, hread, runs, hruns, -, hshortest⟩ := hall _ hpacked
  refine ⟨hpacked, hread 20, ?_⟩
  intro other expected hother
  have hless := hshortest other expected hother
  have hlength := congrArg List.length hruns
  rw [List.length_append, List.length_replicate] at hlength
  simp only [List.length_cons, List.length_nil] at hlength
  omega

end WeatherRadar.Level3.GateLevels
