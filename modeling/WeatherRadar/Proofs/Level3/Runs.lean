import WeatherRadar.Level3.Gates
/-!
# Runs of equal levels

Levels below 16 are packed into runs that spell them again (`expandRuns_packRuns`), in no more
bytes than there are levels, but for a byte that makes their number even.
-/

namespace WeatherRadar.Level3.GateLevels

/-! ## What runs spell -/

theorem expandRuns_append (runs more : List UInt8) :
    expandRuns (runs ++ more) = expandRuns runs ++ expandRuns more := by
  rw [expandRuns, expandRuns, expandRuns, List.flatMap_append]

theorem expandRuns_singleton (run : UInt8) :
    expandRuns [run] = List.replicate (runLength run) (runLevel run) := by
  rw [expandRuns, List.flatMap_singleton]

theorem foldl_runLength (runs : List UInt8) (start : Nat) :
    runs.foldl (fun n run => n + runLength run) start = start + (expandRuns runs).length := by
  induction runs generalizing start with
  | nil => rfl
  | cons run runs ih =>
      rw [List.foldl_cons, ih, ← List.singleton_append, expandRuns_append, expandRuns_singleton,
        List.length_append, List.length_replicate]
      omega

/-- The number of gates that runs announce is the number of levels that they spell. -/
theorem runTotal_eq (runs : List UInt8) : runTotal runs = (expandRuns runs).length := by
  rw [runTotal, foldl_runLength, Nat.zero_add]

theorem toNat_runLevel (run : UInt8) : (runLevel run).toNat = run.toNat % 16 :=
  UInt8.toNat_mod run 16

theorem runLevel_lt (run : UInt8) : (runLevel run).toNat < 16 := by
  rw [toNat_runLevel]
  exact Nat.mod_lt _ (by decide)

theorem expandRuns_lt (runs : List UInt8) : ∀ level ∈ expandRuns runs, level.toNat < 16 := by
  intro level hlevel
  rw [expandRuns, List.mem_flatMap] at hlevel
  obtain ⟨run, -, hrun⟩ := hlevel
  rw [(List.mem_replicate.1 hrun).2]
  exact runLevel_lt run

/-! ## Packing -/

theorem runLength_new {level : UInt8} (hlevel : level.toNat < 16) : runLength (16 + level) = 1 := by
  rw [runLength, UInt8.toNat_add]
  have hsixteen : (16 : UInt8).toNat = 16 := rfl
  omega

theorem runLevel_new {level : UInt8} (hlevel : level.toNat < 16) :
    runLevel (16 + level) = level := by
  apply UInt8.toNat_inj.1
  rw [toNat_runLevel, UInt8.toNat_add]
  have hsixteen : (16 : UInt8).toNat = 16 := rfl
  omega

theorem runLength_longer {run : UInt8} (hrun : runLength run < 15) :
    runLength (run + 16) = runLength run + 1 := by
  rw [runLength] at hrun ⊢
  rw [runLength, UInt8.toNat_add]
  have hsixteen : (16 : UInt8).toNat = 16 := rfl
  omega

theorem runLevel_longer (run : UInt8) :
    runLevel (run + 16) = runLevel run := by
  apply UInt8.toNat_inj.1
  rw [toNat_runLevel, toNat_runLevel, UInt8.toNat_add]
  have hsixteen : (16 : UInt8).toNat = 16 := rfl
  omega

theorem expandRuns_new {level : UInt8} (hlevel : level.toNat < 16) (runs : List UInt8) :
    expandRuns (runs ++ [16 + level]) = expandRuns runs ++ [level] := by
  rw [expandRuns_append, expandRuns_singleton, runLength_new hlevel, runLevel_new hlevel,
    List.replicate_one]

/-- A level that is added comes behind those that were spelled before. -/
theorem expandRuns_pushLevel (runs : List UInt8) {level : UInt8} (hlevel : level.toNat < 16) :
    expandRuns (pushLevel runs level).reverse = expandRuns runs.reverse ++ [level] := by
  cases runs with
  | nil => exact expandRuns_new hlevel []
  | cons run runs =>
      rw [pushLevel]
      by_cases hsame : (runLevel run == level && runLength run < 15) = true
      · rw [if_pos hsame]
        rw [Bool.and_eq_true, beq_iff_eq, decide_eq_true_eq] at hsame
        obtain ⟨hrun, hshort⟩ := hsame
        rw [List.reverse_cons, List.reverse_cons, expandRuns_append, expandRuns_append,
          expandRuns_singleton, expandRuns_singleton, runLength_longer hshort,
          runLevel_longer, List.replicate_succ', hrun, List.append_assoc]
      · rw [if_neg hsame, List.reverse_cons]
        exact expandRuns_new hlevel _

theorem expandRuns_foldl_pushLevel (levels runs : List UInt8)
    (hlevels : ∀ level ∈ levels, level.toNat < 16) :
    expandRuns (levels.foldl pushLevel runs).reverse = expandRuns runs.reverse ++ levels := by
  induction levels generalizing runs with
  | nil => rw [List.foldl_nil, List.append_nil]
  | cons level levels ih =>
      rw [List.foldl_cons, ih _ fun l hl => hlevels l (by simp [hl]),
        expandRuns_pushLevel runs (hlevels level (by simp)), List.append_assoc,
        List.singleton_append]

theorem length_pushLevel_le (runs : List UInt8) (level : UInt8) :
    (pushLevel runs level).length ≤ runs.length + 1 := by
  cases runs with
  | nil => exact Nat.le_refl _
  | cons run runs =>
      rw [pushLevel]
      split
      · simp
      · simp

theorem length_foldl_pushLevel_le (levels runs : List UInt8) :
    (levels.foldl pushLevel runs).length ≤ runs.length + levels.length := by
  induction levels generalizing runs with
  | nil => simp
  | cons level levels ih =>
      have hstep := length_pushLevel_le runs level
      have hrest := ih (pushLevel runs level)
      rw [List.foldl_cons, List.length_cons]
      omega

theorem padEven_eq (bytes : List UInt8) :
    padEven bytes = bytes ++ List.replicate (bytes.length % 2) 0 := by
  rw [padEven]
  by_cases heven : bytes.length % 2 = 0
  · rw [if_pos (beq_iff_eq.2 heven), heven, List.replicate_zero, List.append_nil]
  · have hodd : bytes.length % 2 = 1 := by omega
    rw [if_neg (by rw [beq_iff_eq]; exact heven), hodd]
    rfl

theorem length_padEven (bytes : List UInt8) :
    (padEven bytes).length = bytes.length + bytes.length % 2 := by
  rw [padEven_eq, List.length_append, List.length_replicate]

/-- A byte of zeros is a run of no gates. -/
theorem expandRuns_padEven (runs : List UInt8) : expandRuns (padEven runs) = expandRuns runs := by
  have hzeros : ∀ n, expandRuns (List.replicate n 0) = [] := by
    intro n
    induction n with
    | zero => rfl
    | succ n ih => rw [List.replicate_succ', expandRuns_append, ih]; rfl
  rw [padEven_eq, expandRuns_append, hzeros, List.append_nil]

/-- Levels below 16 can be packed, and their runs spell them again. -/
theorem expandRuns_packRuns {levels : List UInt8} (hlevels : ∀ level ∈ levels, level.toNat < 16) :
    ∃ packed, packRuns levels = .ok packed ∧ expandRuns packed = levels ∧
      packed.length % 2 = 0 ∧ packed.length ≤ levels.length + 1 := by
  have hnone : levels.find? (15 < ·) = none := by
    rw [List.find?_eq_none]
    intro level hlevel
    have hlt := hlevels level hlevel
    rw [decide_eq_true_eq, UInt8.lt_iff_toNat_lt]
    have hfifteen : (15 : UInt8).toNat = 15 := rfl
    omega
  have hspelled := expandRuns_foldl_pushLevel levels [] hlevels
  have hlength := length_foldl_pushLevel_le levels []
  refine ⟨padEven (levels.foldl pushLevel []).reverse, ?_, ?_, ?_, ?_⟩
  · rw [packRuns, hnone]
  · rw [expandRuns_padEven, hspelled]
    rfl
  · rw [length_padEven]
    omega
  · rw [length_padEven, List.length_reverse]
    rw [List.length_nil] at hlength
    omega

end WeatherRadar.Level3.GateLevels
