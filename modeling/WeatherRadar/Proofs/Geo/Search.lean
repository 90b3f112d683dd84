import WeatherRadar.Proofs.Geo.WedgeWidths
/-!
# What the search for an azimuth finds

The search looks at the wedge of the radial that is met last on the way to an azimuth, and at the
two next to it.  A wedge that lies elsewhere is not seen, even if it holds the azimuth.  As rays are
moved less than to the next radial (`width_add_shift_le`), this happens only to a radial that
reaches past the start of the second one behind it.  Where no radial does, or there are not more
than three, the search finds nothing in gaps only (`build_finds_near`).
-/

namespace WeatherRadar.Geo.Sweep

open AddCommGroup Level3

/-! ## Places that are looked at -/

theorem areNear_of_le_three {n i looked : Nat} (hpos : 0 < n) (hle : n ≤ 3) :
    AreNear n i looked := by
  unfold AreNear
  obtain rfl | rfl | rfl : n = 1 ∨ n = 2 ∨ n = 3 := by omega
  · omega
  · omega
  · omega

/-- An azimuth that lies from the start of a radial to that of the third one behind it has the
radial in between near the one that is met last. -/
theorem areNear_metLast {starts : List Rat} (h : Ordered starts) (hne : 0 < starts.length) {i : Nat}
    {u azimuth : Rat} (hu : u ≡ azimuth [PMOD 360]) (hlow : unroll starts i ≤ u)
    (hhigh : u < unroll starts (i + 3)) :
    AreNear starts.length (i + 1) (metLast starts azimuth) := by
  have hmono := h.unroll_mono hne
  -- the same azimuth, some turns later
  obtain ⟨last, v, hfirst, hlast, hv, hvlow, hvhigh⟩ := exists_cell_metLast h hne (i + 3) azimuth
  obtain ⟨turns, rfl⟩ := modEq_iff_eq_add_zsmul.1 (hu.trans hv.symm)
  have hlater := (hmono hfirst).trans hvlow
  obtain ⟨turns, rfl | rfl⟩ := turns.eq_nat_or_neg
  · rw [natCast_zsmul] at hvlow hvhigh
    have hturned : unroll starts (i + starts.length * turns) ≤ u + turns • (360 : Rat) := by
      rw [unroll_add_turns hne]
      linarith
    have hturned' : u + turns • (360 : Rat) < unroll starts (i + 3 + starts.length * turns) := by
      rw [unroll_add_turns hne]
      linarith
    have hbefore := hmono.reflect_lt (hturned.trans_lt hvhigh)
    have hbehind := hmono.reflect_lt (hvlow.trans_lt hturned')
    rw [← hlast, areNear_mod_right]
    apply areNear_of_le (i := i + starts.length * turns) _ (by omega) (by omega)
    rw [Nat.add_right_comm, Nat.add_mul_mod_self_left]
  · have hnonneg : (0 : Rat) ≤ turns • (360 : Rat) := nsmul_nonneg (by norm_num) turns
    rw [neg_zsmul, natCast_zsmul] at hlater
    linarith

/-! ## Where wedges lie -/

/-- No radial reaches past the start of the second one behind it. -/
def ReachesNext (extents : List (Extent Rat)) : Prop :=
  ∀ i, (around extents i).width ≤ startOf extents (i + 2) - startOf extents i

section Wedges

variable {tolerance : Rat} {extents : List (Extent Rat)} (hne : 0 < extents.length)
  (hordered : Ordered (extents.map (·.start)))

include hne hordered

theorem startOf_mono : Monotone (startOf extents) := by
  apply hordered.unroll_mono
  rw [List.length_map]
  exact hne

/-- A ray is not moved past the next radial. -/
theorem width_add_shift_le (tolerance : Rat) (i : Nat) :
    (around extents i).width + shift tolerance (around extents i) (around extents (i + 1)) ≤
      max (around extents i).width (startOf extents (i + 1) - startOf extents i) := by
  have hway : clockwiseDelta (around extents i).start (around extents (i + 1)).start ≤
      startOf extents (i + 1) - startOf extents i := by
    rw [← clockwiseDelta_congr (startOf_modEq hne i) (startOf_modEq hne (i + 1))]
    apply clockwiseDelta_le
    · exact sub_nonneg.2 (startOf_mono hne hordered (Nat.le_succ i))
    · rw [add_sub_cancel]
  rw [shift]
  split
  · have hwidth :=
      le_max_left (around extents i).width (startOf extents (i + 1) - startOf extents i)
    have hnext :=
      le_max_right (around extents i).width (startOf extents (i + 1) - startOf extents i)
    rw [mismatch]
    linarith
  · rw [add_zero]
    exact le_max_left _ _

theorem startOf_le_sub_shift (tolerance : Rat) (hwidths : ∀ extent ∈ extents, 0 < extent.width)
    (i : Nat) :
    startOf extents i ≤
      startOf extents (i + 1) - shift tolerance (around extents i) (around extents (i + 1)) := by
  have hnext := startOf_mono hne hordered (Nat.le_succ i)
  have hpos := hwidths _ (List.mem_of_getElem? (getElem?_mod_length hne i))
  rcases le_max_iff.1 (width_add_shift_le hne hordered tolerance i) with hback | hahead
  · linarith
  · linarith

theorem add_shift_le_startOf (tolerance : Rat) (hreach : ReachesNext extents) (i : Nat) :
    startOf extents i + (around extents i).width +
        shift tolerance (around extents i) (around extents (i + 1)) ≤
      startOf extents (i + 2) := by
  have hnext := startOf_mono hne hordered (Nat.le_succ (i + 1))
  have hmoved := (width_add_shift_le hne hordered tolerance i).trans
    (max_le (hreach i) (sub_le_sub_right hnext _))
  linarith

/-- The wedge of a radial lies between the starts of the one before it and of the second one behind
it. -/
theorem exists_between (hwidths : ∀ extent ∈ extents, 0 < extent.width)
    (hreach : ReachesNext extents) {i : Nat} {span : RadialSpan} {azimuth : Rat}
    (hspan : (ofExtents tolerance extents).spans[(i + 1) % extents.length]? = some span)
    (hwedge : (ofExtents tolerance extents).InWedge span azimuth) :
    ∃ u, u ≡ azimuth [PMOD 360] ∧ startOf extents i ≤ u ∧ u < startOf extents (i + 3) := by
  have hplace := (startOf_modEq hne (i + 1)).symm
  have hbefore : around extents (i + 1 + extents.length - 1) = around extents i := by
    rw [Nat.add_right_comm, Nat.add_sub_cancel, around_add_length]
  obtain ⟨-, hstart, hfinish⟩ := rays_modEq hspan
  have hwide := wedgeWidth_bounds tolerance hne hwidths (i + 1)
  rw [hbefore] at hstart
  rw [wedgeWidth, hbefore] at hwide
  have harc := (InArc.congr (hstart.trans (hplace.sub_right _))
    (hfinish.trans ((hplace.add_right _).add_right _)) modEq_rfl).1 hwedge
  have hle : startOf extents (i + 1) - shift tolerance (around extents i) (around extents (i + 1)) ≤
      startOf extents (i + 1) + (around extents (i + 1)).width +
        shift tolerance (around extents (i + 1)) (around extents (i + 2)) := by
    have hpos := hwidths _ (List.mem_of_getElem? (getElem?_mod_length hne (i + 1)))
    obtain ⟨hlow, -⟩ := abs_le.1 (le_min_iff.1 hwide).2
    linarith
  obtain ⟨u, hu, hlow, hhigh⟩ := harc.exists hle
  exact ⟨u, hu, (startOf_le_sub_shift hne hordered tolerance hwidths i).trans hlow,
    hhigh.trans_le (add_shift_le_startOf hne hordered tolerance hreach (i + 1))⟩

end Wedges

/-! ## What is found -/

/-- What the search among the wedges of a sweep finds. -/
structure FindsNear (extents : List (Extent Rat)) (sweep : Sweep Rat) : Prop where
  /-- A wedge that is found holds the azimuth. -/
  found : ∀ azimuth span, sweep.locate? azimuth = some span →
    span ∈ sweep.spans ∧ sweep.InWedge span azimuth
  /-- Nothing is found exactly if no wedge near the radial that is met last holds the azimuth. -/
  missed : ∀ azimuth, sweep.locate? azimuth = none ↔ ∀ i span, sweep.spans[i]? = some span →
    sweep.InWedge span azimuth →
      ¬ AreNear sweep.spans.size i (metLast (extents.map (·.start)) azimuth)
  /-- Nothing is missed if no radial reaches past the start of the second one behind it, nor if
  there are not more than three. -/
  complete : sweep.spans.size ≤ 3 ∨ ReachesNext extents → ∀ azimuth,
    sweep.locate? azimuth = none ↔ ∀ span ∈ sweep.spans, ¬ sweep.InWedge span azimuth

section Found

variable {tolerance : Rat} {extents : List (Extent Rat)} (hne : 0 < extents.length)
  (hordered : Ordered (extents.map (·.start)))

include hne hordered

theorem locate?_ofExtents (azimuth : Rat) :
    (ofExtents tolerance extents).locate? azimuth =
      (candidates (ofExtents tolerance extents).spans
        (metLast (extents.map (·.start)) azimuth)).find?
          ((ofExtents tolerance extents).covers · azimuth) := by
  apply locate?_eq_find? hordered
  · rw [List.length_map]
    exact hne
  · exact nominalStarts_ofExtents tolerance extents
  · rw [size_spans, List.length_map]

theorem locate?_eq_none_iff (azimuth : Rat) :
    (ofExtents tolerance extents).locate? azimuth = none ↔
      ∀ i span, (ofExtents tolerance extents).spans[i]? = some span →
        (ofExtents tolerance extents).InWedge span azimuth →
          ¬ AreNear (ofExtents tolerance extents).spans.size i
            (metLast (extents.map (·.start)) azimuth) := by
  rw [locate?_ofExtents hne hordered, List.find?_eq_none]
  simp only [mem_candidates_iff, covers_iff]
  constructor
  · intro hnone i span hspan hwedge hnear
    exact hnone span ⟨i, hspan, hnear⟩ hwedge
  · rintro hmissed span ⟨i, hspan, hnear⟩ hwedge
    exact hmissed i span hspan hwedge hnear

theorem found_of_locate? {azimuth : Rat} {span : RadialSpan}
    (h : (ofExtents tolerance extents).locate? azimuth = some span) :
    span ∈ (ofExtents tolerance extents).spans ∧
      (ofExtents tolerance extents).InWedge span azimuth := by
  rw [locate?_ofExtents hne hordered] at h
  obtain ⟨hcandidate, hwedge⟩ := inWedge_of_find? h
  obtain ⟨i, hspan, -⟩ := mem_candidates_iff.1 hcandidate
  exact ⟨Array.mem_of_getElem? hspan, hwedge⟩

/-- All wedges that hold an azimuth are near the radial that is met last. -/
theorem areNear_of_inWedge (hwidths : ∀ extent ∈ extents, 0 < extent.width)
    (hreach : extents.length ≤ 3 ∨ ReachesNext extents) {i : Nat} {span : RadialSpan}
    {azimuth : Rat} (hspan : (ofExtents tolerance extents).spans[i]? = some span)
    (hwedge : (ofExtents tolerance extents).InWedge span azimuth) :
    AreNear extents.length i (metLast (extents.map (·.start)) azimuth) := by
  have hlt := (Array.getElem?_eq_some_iff.1 hspan).1
  rw [size_spans] at hlt
  rcases hreach with hfew | hreach
  · exact areNear_of_le_three hne hfew
  · obtain ⟨before, rfl⟩ := exists_eq_succ_mod hlt
    obtain ⟨u, hu, hlow, hhigh⟩ := exists_between hne hordered hwidths hreach hspan hwedge
    have hnear := areNear_metLast hordered (by rwa [List.length_map]) hu hlow hhigh
    rw [List.length_map] at hnear
    rw [areNear_mod_left]
    exact hnear

theorem findsNear_ofExtents (hwidths : ∀ extent ∈ extents, 0 < extent.width) :
    FindsNear extents (ofExtents tolerance extents) := by
  refine ⟨fun azimuth span => found_of_locate? hne hordered, locate?_eq_none_iff hne hordered, ?_⟩
  intro hreach azimuth
  rw [size_spans] at hreach
  rw [locate?_eq_none_iff hne hordered, size_spans]
  constructor
  · intro hmissed span hmem hwedge
    obtain ⟨i, hspan⟩ := Array.mem_iff_getElem?.1 hmem
    exact hmissed i span hspan hwedge
      (areNear_of_inWedge hne hordered hwidths hreach hspan hwedge)
  · intro hnone i span hspan hwedge
    exact absurd hwedge (hnone span (Array.mem_of_getElem? hspan))

end Found

theorem findsNear_nil (tolerance : Rat) : FindsNear [] (ofExtents tolerance []) := by
  have hnone : ∀ azimuth, (ofExtents tolerance []).locate? azimuth = none := locate?_of_isEmpty rfl
  have hempty : ∀ span, span ∉ (ofExtents tolerance []).spans := Array.not_mem_empty
  refine ⟨?_, ?_, ?_⟩
  · intro azimuth span hfound
    rw [hnone] at hfound
    cases hfound
  · intro azimuth
    refine iff_of_true (hnone azimuth) ?_
    intro i span hspan
    exact absurd (Array.mem_of_getElem? hspan) (hempty span)
  · intro _ azimuth
    refine iff_of_true (hnone azimuth) ?_
    intro span hspan
    exact absurd hspan (hempty span)

/-- A wedge that is found holds the azimuth that is looked for, but one that holds it is only found
near the radial that is met last.  So nothing is missed as long as no radial reaches past the start
of the second one behind it. -/
theorem build_finds_near (radials : List (Radial Rat)) (tolerance : Rat) :
    FindsNear (drawn radials) (build radials tolerance) := by
  rw [build_eq]
  rcases Nat.eq_zero_or_pos (drawn radials).length with hempty | hne
  · rw [List.eq_nil_of_length_eq_zero hempty]
    exact findsNear_nil tolerance
  · apply findsNear_ofExtents hne
    · rw [drawn_eq, map_start_widened]
      exact ordered_extents radials
    · exact fun extent => width_pos_of_mem_drawn

/-- A wide radial with three narrow ones in it: between the last two the search does not see it. -/
theorem build_finds_near_wide_radial :
    let radials : List (Radial Rat) := [⟨0, 100, .literal8, .bytes #[1]⟩,
      ⟨10, 5, .literal8, .bytes #[1]⟩, ⟨20, 5, .literal8, .bytes #[1]⟩,
      ⟨30, 5, .literal8, .bytes #[1]⟩]
    let sweep := build radials (1 / 2)
    sweep.spans[0]? = some ⟨0, 7, 0⟩ ∧ sweep.InWedge ⟨0, 7, 0⟩ 27 ∧ sweep.locate? 27 = none := by
  intro radials sweep
  have hdrawn : drawn radials = [⟨0, 0, 100⟩, ⟨1, 10, 5⟩, ⟨2, 20, 5⟩, ⟨3, 30, 5⟩] := by
    rw [drawn_of_pairwise rfl (by decide +kernel)]
    decide +kernel
  have hsweep : sweep = ⟨#[100, 10, 15, 20, 25, 30, 35, 0],
      #[⟨0, 7, 0⟩, ⟨1, 1, 2⟩, ⟨2, 3, 4⟩, ⟨3, 5, 6⟩], #[0, 10, 20, 30]⟩ := by
    rw [show sweep = _ from build_eq radials (1 / 2), hdrawn]
    decide +kernel
  have hlast : metLast ((drawn radials).map (·.start)) 27 = 2 := by
    rw [hdrawn]
    decide +kernel
  refine ⟨by rw [hsweep]; rfl, ?_, ?_⟩
  · rw [← covers_iff, hsweep]
    decide +kernel
  · rw [(build_finds_near radials (1 / 2)).missed 27, show build radials (1 / 2) = _ from hsweep,
      hlast]
    intro i span hspan hwedge
    rw [← covers_iff] at hwedge
    have hlt : i < 4 := (Array.getElem?_eq_some_iff.1 hspan).1
    obtain rfl | hi : i = 0 ∨ i = 1 ∨ i = 2 ∨ i = 3 := by omega
    · -- two places away
      decide
    · refine absurd hwedge ?_
      obtain rfl | rfl | rfl := hi
      all_goals
        obtain rfl := Option.some.inj hspan
        decide +kernel

end WeatherRadar.Geo.Sweep
