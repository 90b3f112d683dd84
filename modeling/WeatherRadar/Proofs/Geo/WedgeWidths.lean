import WeatherRadar.Proofs.Geo.Wedges
/-!
# How wide a wedge is

A wedge is as wide as its radial is drawn, and the moves of its two rays make it wider or narrower.
The rays only tell where it starts and ends on the circle, so that what is left of this width is its
remainder modulo a full turn (`bounds_ofExtents`).  The moves never change it by more than a half
(`wedgeWidth_bounds`).  So a wedge holds azimuths unless it comes to a full turn exactly
(`build_wedge_widths`), as that of a radial all the way around does.
-/

namespace WeatherRadar.Geo.Sweep

open AddCommGroup Level3

/-- How wide the wedge of a radial is, before a full turn is lost. -/
def wedgeWidth (tolerance : Rat) (extents : List (Extent Rat)) (i : Nat) : Rat :=
  (around extents i).width +
    shift tolerance (around extents (i + extents.length - 1)) (around extents i) +
    shift tolerance (around extents i) (around extents (i + 1))

/-- A full turn is lost between the rays of a wedge. -/
theorem bounds_ofExtents {tolerance : Rat} {extents : List (Extent Rat)} {i : Nat}
    {span : RadialSpan}
    (hspan : (ofExtents tolerance extents).spans[i % extents.length]? = some span) :
    ((ofExtents tolerance extents).bounds span).2 =
      normalizeAzimuth (wedgeWidth tolerance extents i) := by
  obtain ⟨-, hstart, hfinish⟩ := rays_modEq hspan
  calc ((ofExtents tolerance extents).bounds span).2
      = clockwiseDelta _ _ := clockwiseDelta_congr hstart hfinish
    _ = normalizeAzimuth (wedgeWidth tolerance extents i) := by
        unfold clockwiseDelta wedgeWidth
        congr 1
        ring

theorem exists_covers_iff (sweep : Sweep Rat) (span : RadialSpan) :
    (∃ azimuth, sweep.covers span azimuth = true) ↔ 0 < (sweep.bounds span).2 := by
  constructor
  · rintro ⟨azimuth, hcovers⟩
    rw [covers_iff] at hcovers
    exact (clockwiseDelta_nonneg _ azimuth).trans_lt hcovers
  · intro hpos
    refine ⟨sweep.ray span.startRay, (covers_iff _ _ _).2 ?_⟩
    rw [InWedge, InArc, clockwiseDelta_self]
    exact hpos

/-! ## Bounds -/

theorem abs_shift_le (tolerance : Rat) {extent next : Extent Rat} (hwidth : 0 < extent.width)
    (hnext : 0 < next.width) :
    |shift tolerance extent next| ≤
      closable (max tolerance 0) extent.width next.width / 2 := by
  rw [← limit_rat]
  apply abs_ite_half_le
  rw [limit_rat]
  exact closable_nonneg (le_max_right tolerance 0) hwidth.le hnext.le

/-- Both rays together are moved by half the width at most, and by no more than the tolerance. -/
theorem wedgeWidth_bounds (tolerance : Rat) {extents : List (Extent Rat)}
    (hne : 0 < extents.length) (hwidths : ∀ extent ∈ extents, 0 < extent.width) (i : Nat) :
    |wedgeWidth tolerance extents i - (around extents i).width| ≤
      min (max tolerance 0) ((around extents i).width / 2) := by
  have hpos : ∀ j, 0 < (around extents j).width := fun j =>
    hwidths _ (List.mem_of_getElem? (getElem?_mod_length hne j))
  have hbefore := abs_shift_le tolerance (hpos (i + extents.length - 1)) (hpos i)
  have hbehind := abs_shift_le tolerance (hpos i) (hpos (i + 1))
  obtain ⟨htolerance, -, hwidth⟩ := closable_le (max tolerance 0)
    (around extents (i + extents.length - 1)).width (around extents i).width
  obtain ⟨htolerance', hwidth', -⟩ := closable_le (max tolerance 0) (around extents i).width
    (around extents (i + 1)).width
  calc |wedgeWidth tolerance extents i - (around extents i).width|
      = |shift tolerance (around extents (i + extents.length - 1)) (around extents i) +
          shift tolerance (around extents i) (around extents (i + 1))| := by
        rw [wedgeWidth, add_assoc, add_sub_cancel_left]
    _ ≤ _ := abs_add_le _ _
    _ ≤ _ := le_min (by linarith) (by linarith)

theorem normalizeAzimuth_pos_iff {width : Rat} (hpos : 0 < width) (hlt : width < 720) :
    0 < normalizeAzimuth width ↔ width ≠ 360 := by
  rw [(normalizeAzimuth_nonneg width).lt_iff_ne', ne_eq, not_iff_not, normalizeAzimuth_eq_iff]
  constructor
  · rintro ⟨-, -, hturn⟩
    have hsame := (add_self_modEq 0).trans hturn
    rw [zero_add] at hsame
    exact (eq_of_modEq hsame (by linarith) (by linarith)).symm
  · rintro rfl
    have hturn := add_self_modEq 0
    rw [zero_add] at hturn
    exact ⟨le_rfl, by norm_num, hturn.symm⟩

/-! ## Sweeps that are built -/

theorem effectiveWidth_le (count : Nat) (extent next : Extent Rat) :
    effectiveWidth count extent next ≤ 360 := by
  rw [effectiveWidth]
  by_cases husable : isUsableWidth extent.width = true
  · rw [if_pos husable]
    rw [isUsableWidth, Bool.and_eq_true, scalar_le_rat] at husable
    exact husable.2
  · rw [if_neg husable]
    simp only [scalar_ofInt_rat, Int.cast_zero, Int.cast_one, scalar_lt_rat]
    split
    · split
      · exact (clockwiseDelta_lt _ _).le
      · norm_num
    · norm_num

theorem width_le_of_mem_drawn {radials : List (Radial Rat)} {extent : Extent Rat}
    (h : extent ∈ drawn radials) : extent.width ≤ 360 := by
  obtain ⟨before, -, next, -, rfl⟩ := mem_widened h
  exact effectiveWidth_le _ before next

/-- A wedge of a sweep is as wide as its radial is drawn, changed by the moves of its rays, modulo a
full turn.  So it holds azimuths unless this comes to a full turn, as it cannot if the radial is
narrower than that by more than the tolerance. -/
theorem build_wedge_widths (radials : List (Radial Rat)) (tolerance : Rat) {i : Nat}
    {span : RadialSpan} (hspan : (build radials tolerance).spans[i]? = some span) :
    let sweep := build radials tolerance
    let extent := around (drawn radials) i
    let width := wedgeWidth tolerance (drawn radials) i
    span.radial = extent.radial ∧ (sweep.bounds span).2 = normalizeAzimuth width ∧
      (0 < (sweep.bounds span).2 ↔ width ≠ 360) ∧
      ((∃ azimuth, sweep.covers span azimuth = true) ↔ width ≠ 360) ∧
      (extent.width + max tolerance 0 < 360 → 0 < (sweep.bounds span).2) := by
  intro sweep extent width
  have hlt : i < (drawn radials).length := by
    rw [← size_spans tolerance, ← build_eq]
    exact (Array.getElem?_eq_some_iff.1 hspan).1
  have hne : 0 < (drawn radials).length := Nat.zero_lt_of_lt hlt
  have hplace : (ofExtents tolerance (drawn radials)).spans[i % (drawn radials).length]? =
      some span := by
    rw [Nat.mod_eq_of_lt hlt, ← build_eq]
    exact hspan
  have hmem : extent ∈ drawn radials := List.mem_of_getElem? (getElem?_mod_length hne i)
  have hpos := width_pos_of_mem_drawn hmem
  have hfull := width_le_of_mem_drawn hmem
  have hmoves := wedgeWidth_bounds tolerance hne (fun _ => width_pos_of_mem_drawn) i
  obtain ⟨htolerance, hhalf⟩ := le_min_iff.1 hmoves
  have hbounds : (sweep.bounds span).2 = normalizeAzimuth width := by
    unfold sweep
    rw [build_eq]
    exact bounds_ofExtents hplace
  have hiff : 0 < (sweep.bounds span).2 ↔ width ≠ 360 := by
    rw [hbounds]
    obtain ⟨hlow, hhigh⟩ := abs_le.1 hhalf
    exact normalizeAzimuth_pos_iff (by linarith) (by linarith)
  refine ⟨(rays_modEq hplace).1, hbounds, hiff, (exists_covers_iff sweep span).trans hiff, ?_⟩
  intro hnarrow
  have hwider := (le_abs_self _).trans htolerance
  exact hiff.2 (by linarith)

/-- A radial all the way around, and one that a closed gap makes as wide: neither wedge holds an
azimuth. -/
theorem build_wedge_widths_full_turn :
    let circle : List (Radial Rat) := [⟨0, 360, .literal8, .bytes #[1]⟩]
    let nearly : List (Radial Rat) := [⟨0, 359, .literal8, .bytes #[1]⟩,
      ⟨10, 1, .literal8, .bytes #[1]⟩, ⟨350, 8, .literal8, .bytes #[1]⟩]
    (build circle (1 / 2)).spans[0]? = some ⟨0, 0, 1⟩ ∧
      ¬ 0 < ((build circle (1 / 2)).bounds ⟨0, 0, 1⟩).2 ∧
    (build nearly 5).spans[0]? = some ⟨0, 4, 0⟩ ∧
      ¬ ∃ azimuth, (build nearly 5).covers ⟨0, 4, 0⟩ azimuth = true := by
  intro circle nearly
  have hcircle : drawn circle = [⟨0, 0, 360⟩] := by
    rw [drawn_of_pairwise rfl (by decide +kernel)]
    decide +kernel
  have hnearly : drawn nearly = [⟨0, 0, 359⟩, ⟨1, 10, 1⟩, ⟨2, 350, 8⟩] := by
    rw [drawn_of_pairwise rfl (by decide +kernel)]
    decide +kernel
  have hspan : (build circle (1 / 2)).spans[0]? = some ⟨0, 0, 1⟩ := by
    rw [build_eq, hcircle]
    decide +kernel
  have hspan' : (build nearly 5).spans[0]? = some ⟨0, 4, 0⟩ := by
    rw [build_eq, hnearly]
    decide +kernel
  obtain ⟨-, -, hpos, -⟩ := build_wedge_widths circle (1 / 2) hspan
  obtain ⟨-, -, -, hcovers, -⟩ := build_wedge_widths nearly 5 hspan'
  refine ⟨hspan, fun h => hpos.1 h ?_, hspan', fun h => hcovers.1 h ?_⟩
  · rw [hcircle]
    decide +kernel
  · rw [hnearly]
    decide +kernel

end WeatherRadar.Geo.Sweep
