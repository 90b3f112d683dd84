import Mathlib.Data.List.Chain
import WeatherRadar.Proofs.FloatOrder
import WeatherRadar.Proofs.Search
import WeatherRadar.Render.Palette
/-!
# Palettes are step functions

A list of steps makes a palette exactly if it has a step and its bounds are finite and strictly
ascending (`fault?_eq_none_iff`).  Ascending bounds are what the binary search needs: the steps that
a value reaches come first, so that the search finds the last of them (`lookup_eq`).
-/

namespace WeatherRadar.Render.Palette

variable {steps : List PaletteStep} {palette : Palette}

/-! ## Steps that make a palette -/

structure AreAscending (steps : List PaletteStep) : Prop where
  ne_nil : steps ≠ []
  finite : ∀ step ∈ steps, step.lowerBound.isFinite = true
  ascending : steps.Pairwise fun step next => step.lowerBound < next.lowerBound

/-- Where every step is below the next one, every step is below all behind it. -/
theorem firstUnordered?_eq_none_iff (h : ∀ step ∈ steps, step.lowerBound.isFinite = true) :
    firstUnordered? steps = none ↔
      steps.Pairwise fun step next => step.lowerBound < next.lowerBound := by
  have htrans : IsTrans PaletteStep fun step next => step.lowerBound < next.lowerBound :=
    ⟨fun _ _ _ => Float32.lt_trans⟩
  rw [← List.isChain_iff_pairwise]
  induction steps with
  | nil => simp [firstUnordered?]
  | cons step rest ih =>
      cases rest with
      | nil => simp [firstUnordered?]
      | cons next rest =>
          have hnumber : ∀ step' ∈ step :: next :: rest, step'.lowerBound.isNaN = false :=
            fun step' hstep => Float32.isNaN_of_isFinite (h step' hstep)
          have hlt : step.lowerBound < next.lowerBound ↔ ¬next.lowerBound ≤ step.lowerBound :=
            Float32.lt_iff_not_le (hnumber step (by simp)) (hnumber next (by simp))
          have hrest : firstUnordered? (next :: rest) = none ↔ List.IsChain _ (next :: rest) :=
            ih fun step' hstep => h step' (List.mem_cons_of_mem _ hstep)
          rw [List.isChain_cons_cons, ← hrest, hlt]
          by_cases hle : next.lowerBound ≤ step.lowerBound <;> simp [firstUnordered?, hle]

theorem fault?_eq_none_iff : fault? steps = none ↔ AreAscending steps := by
  unfold fault?
  split
  next hempty =>
    rw [List.isEmpty_iff] at hempty
    simpa using fun h : AreAscending steps => h.ne_nil hempty
  next hempty =>
    rw [List.isEmpty_iff] at hempty
    cases hfound : steps.find? (!·.lowerBound.isFinite) with
    | some step =>
        have hmem := List.mem_of_find?_eq_some hfound
        have hinfinite := List.find?_some hfound
        rw [Bool.not_eq_true'] at hinfinite
        simpa using fun h : AreAscending steps => by
          rw [h.finite step hmem] at hinfinite
          cases hinfinite
    | none =>
        have hfinite : ∀ step ∈ steps, step.lowerBound.isFinite = true := by
          simpa using hfound
        rw [Option.map_eq_none_iff, firstUnordered?_eq_none_iff hfinite]
        exact ⟨fun h => ⟨hempty, hfinite, h⟩, fun h => h.ascending⟩

theorem ofSteps_eq_ok_iff {name : String} :
    ofSteps name steps = .ok palette ↔
      AreAscending steps ∧ palette = ⟨name, none, steps, standardRangeFolded⟩ := by
  rw [← fault?_eq_none_iff, ofSteps]
  cases fault? steps with
  | none => simp [eq_comm]
  | some fault => simp

/-! ## The steps that a value reaches -/

theorem isPartitioned_of_ascending
    (h : steps.Pairwise fun step next => step.lowerBound < next.lowerBound) (value : Float32) :
    IsPartitioned (·.lowerBound ≤ value) steps := by
  refine h.imp fun {step next} hlt hreached => ?_
  rw [decide_eq_true_eq] at hreached ⊢
  exact Float32.le_trans (Float32.le_of_lt hlt) hreached

theorem reached_eq_countP (h : AreAscending palette.steps) (value : Float32) :
    palette.reached value = palette.steps.countP (·.lowerBound ≤ value) := by
  have hbounds : IsPartitioned (· ≤ value) palette.bounds.toList :=
    List.pairwise_map.2 (isPartitioned_of_ascending h.ascending value)
  rw [reached, partitionPoint_eq_countP hbounds, bounds, List.countP_map]
  rfl

/-- The steps that a value reaches come first. -/
theorem filter_eq_take_reached (h : AreAscending palette.steps) (value : Float32) :
    palette.steps.filter (·.lowerBound ≤ value) = palette.steps.take (palette.reached value) := by
  rw [reached_eq_countP h]
  exact (isPartitioned_of_ascending h.ascending value).filter_eq_take

/-- A value has the color of the last step that it reaches. -/
theorem lookup_eq (h : AreAscending palette.steps) (value : Float32) :
    palette.lookup value =
      (((palette.steps.filter (·.lowerBound ≤ value)).getLast?).map (·.color)).getD
        noDataColor := by
  have hlength : palette.reached value ≤ palette.steps.length := by
    rw [reached_eq_countP h]
    exact List.countP_le_length
  unfold lookup
  split
  next hnan =>
    have hnone : palette.steps.filter (·.lowerBound ≤ value) = [] := by
      rw [List.filter_eq_nil_iff]
      intro step _
      rw [decide_eq_true_eq]
      exact Float32.not_le_of_isNaN _ hnan
    rw [hnone]
    rfl
  next =>
    rw [filter_eq_take_reached h, List.getLast?_take]
    cases hreached : palette.reached value with
    | zero => rfl
    | succ n =>
        have hn : n < palette.steps.length := by omega
        simp [List.getElem?_eq_getElem hn]

theorem reached_mono (h : AreAscending palette.steps) {v w : Float32} (hvw : v ≤ w) :
    palette.reached v ≤ palette.reached w := by
  rw [reached_eq_countP h, reached_eq_countP h]
  apply List.countP_mono_left
  intro step _ hv
  rw [decide_eq_true_eq] at hv ⊢
  exact Float32.le_trans hv hvw

/-! ## Step functions -/

/-- A palette colors values as a list of steps says. -/
structure IsStepFunction (palette : Palette) (steps : List PaletteStep) : Prop where
  steps_eq : palette.steps = steps
  /-- A value has the color of the last step whose bound is not above it. -/
  lookup_eq : ∀ value, palette.lookup value =
    (((steps.filter (·.lowerBound ≤ value)).getLast?).map (·.color)).getD noDataColor
  /-- The search counts the steps whose bound is not above the value, so that it never goes past the
  last one. -/
  reached_eq : ∀ value, palette.reached value = (steps.filter (·.lowerBound ≤ value)).length
  /-- A greater value reaches at least as many steps. -/
  mono : ∀ v w, v ≤ w → palette.reached v ≤ palette.reached w
  not_a_number : ∀ value, value.isNaN = true → palette.lookup value = noDataColor
  neg_infinity : palette.lookup (-Float32.infinity) = noDataColor
  /-- Infinity has the color of the last step. -/
  infinity : ∃ last, steps.getLast? = some last ∧ palette.lookup Float32.infinity = last.color

theorem isStepFunction_of_ascending (h : AreAscending palette.steps) :
    palette.IsStepFunction palette.steps where
  steps_eq := rfl
  lookup_eq := lookup_eq h
  reached_eq value := by rw [reached_eq_countP h, List.countP_eq_length_filter]
  mono _ _ := reached_mono h
  not_a_number value hnan := by rw [lookup, if_pos hnan]
  neg_infinity := by
    have hnone : palette.steps.filter (·.lowerBound ≤ -Float32.infinity) = [] := by
      rw [List.filter_eq_nil_iff]
      intro step hstep
      have hfinite := h.finite step hstep
      rw [decide_eq_true_eq, ← Float32.lt_iff_not_le (by decide +kernel)
        (Float32.isNaN_of_isFinite hfinite)]
      exact (Float32.lt_infinity hfinite).1
    rw [lookup_eq h, hnone]
    rfl
  infinity := by
    have hall : palette.steps.filter (·.lowerBound ≤ Float32.infinity) = palette.steps := by
      rw [List.filter_eq_self]
      intro step hstep
      exact decide_eq_true (Float32.le_of_lt (Float32.lt_infinity (h.finite step hstep)).2)
    refine ⟨_, List.getLast?_eq_some_getLast h.ne_nil, ?_⟩
    rw [lookup_eq h, hall, List.getLast?_eq_some_getLast h.ne_nil]
    rfl

/-- Steps make a palette exactly if their bounds are finite and strictly ascending and there is one,
and the palette, whatever its units and its color of range-folded gates, is their step function. -/
theorem ofSteps_isStepFunction (name : String) (steps : List PaletteStep) :
    ((∃ palette, ofSteps name steps = .ok palette) ↔ AreAscending steps) ∧
      ∀ palette, ofSteps name steps = .ok palette → ∀ units rangeFolded,
        IsStepFunction { palette with units := units, rangeFolded := rangeFolded } steps := by
  constructor
  · constructor
    · rintro ⟨palette, hpalette⟩
      exact (ofSteps_eq_ok_iff.1 hpalette).1
    · exact fun h => ⟨_, ofSteps_eq_ok_iff.2 ⟨h, rfl⟩⟩
  · intro palette hpalette units rangeFolded
    obtain ⟨h, rfl⟩ := ofSteps_eq_ok_iff.1 hpalette
    exact isStepFunction_of_ascending h

/-- A palette with a step at zero, which both zeros reach. -/
theorem ofSteps_isStepFunction_around_zero :
    let steps : List PaletteStep := [⟨-10.5, .opaqueColor 0 0 200, none⟩,
      ⟨0.0, .opaqueColor 0 200 0, none⟩, ⟨20.0, .opaqueColor 200 0 0, some "20+"⟩]
    AreAscending steps ∧ ∃ palette, ofSteps "Around zero" steps = .ok palette ∧
      IsStepFunction { palette with units := some "m/s", rangeFolded := .transparent } steps ∧
      palette.lookup (-0.0) = .opaqueColor 0 200 0 ∧ palette.lookup 0.0 = .opaqueColor 0 200 0 := by
  intro steps
  have hsteps : AreAscending steps := ⟨by decide, by decide +kernel, by decide +kernel⟩
  obtain ⟨palette, hpalette⟩ := (ofSteps_isStepFunction "Around zero" steps).1.2 hsteps
  refine ⟨hsteps, palette, hpalette, ?_, ?_⟩
  · exact (ofSteps_isStepFunction "Around zero" steps).2 palette hpalette _ _
  · obtain ⟨-, rfl⟩ := ofSteps_eq_ok_iff.1 hpalette
    decide +kernel

end WeatherRadar.Render.Palette
