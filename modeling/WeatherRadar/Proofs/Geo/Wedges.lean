import WeatherRadar.Proofs.Geo.Winding
/-!
# Wedges part the circle

Where the end of a radial and the start of the next one nearly meet, their wedges meet halfway.  As
long as no radial overlaps the next one by more than such a ray closes, no ray moves by more than a
quarter of the width of a radial (`Circuit.Closes.abs_shift_le`), so that the wedges keep their
order on the way around (`Circuit.Closes.windingStarts`).  So every azimuth is in one wedge, or else
in one of the gaps that are too wide to be closed, and the search among three wedges finds the right
one (`build_parts_circle`).
-/

namespace WeatherRadar.Geo

open AddCommGroup Level3

/-! ## Rays that are met in turn -/

/-- The largest mismatch between a radial and the next one that a shared ray closes. -/
def closable (tolerance width next : Rat) : Rat := min tolerance (min (width / 2) (next / 2))

theorem closable_le (tolerance width next : Rat) :
    closable tolerance width next ≤ tolerance ∧ closable tolerance width next ≤ width / 2 ∧
      closable tolerance width next ≤ next / 2 :=
  ⟨min_le_left _ _, (min_le_right _ _).trans (min_le_left _ _),
    (min_le_right _ _).trans (min_le_right _ _)⟩

theorem closable_nonneg {tolerance width next : Rat} (htolerance : 0 ≤ tolerance)
    (hwidth : 0 ≤ width) (hnext : 0 ≤ next) : 0 ≤ closable tolerance width next := by
  apply le_min htolerance
  apply le_min
  · linarith
  · linarith

/-- What is closed is closed halfway from either side. -/
theorem abs_ite_half_le {x room : Rat} (hroom : 0 ≤ room) :
    |if |x| ≤ room then x / 2 else 0| ≤ room / 2 := by
  by_cases hshared : |x| ≤ room
  · rw [if_pos hshared, abs_div, abs_of_pos (show (0 : Rat) < 2 by norm_num)]
    linarith
  · rw [if_neg hshared, abs_zero]
    linarith

/-- Radials met in turn on the way around, by where they start and how wide they are. -/
structure Circuit where
  tolerance : Rat
  start : Nat → Rat
  width : Nat → Rat

namespace Circuit

/-- The way from the end of a radial to the start of the next one. -/
def gap (r : Circuit) (i : Nat) : Rat := r.start (i + 1) - r.start i - r.width i

/-- The largest mismatch that is closed behind a radial. -/
def room (r : Circuit) (i : Nat) : Rat := closable r.tolerance (r.width i) (r.width (i + 1))

/-- How far the ray at which a radial ends is moved to meet the next one. -/
def shift (r : Circuit) (i : Nat) : Rat := if |r.gap i| ≤ r.room i then r.gap i / 2 else 0

/-- Where the wedge of a radial ends. -/
def finishAt (r : Circuit) (i : Nat) : Rat := r.start i + r.width i + r.shift i

/-- Where the wedge of the next radial starts. -/
def startAt (r : Circuit) (i : Nat) : Rat := r.start (i + 1) - r.shift i

/-- Whether an azimuth is in the wedge of the next radial. -/
def InWedge (r : Circuit) (i : Nat) (azimuth : Rat) : Prop :=
  InArc (r.startAt i) (r.finishAt (i + 1)) azimuth

/-- Whether an azimuth is behind the wedge of the next radial, before another one starts. -/
def InGap (r : Circuit) (i : Nat) (azimuth : Rat) : Prop :=
  InArc (r.finishAt (i + 1)) (r.startAt (i + 1)) azimuth

/-- No radial overlaps the next one by more than what a shared ray closes. -/
structure Closes (n : Nat) (r : Circuit) : Prop extends Winding n r.start where
  tolerance_nonneg : 0 ≤ r.tolerance
  width_turn (i : Nat) : r.width (i + n) = r.width i
  width_pos (i : Nat) : 0 < r.width i
  overlap_le (i : Nat) : -r.gap i ≤ r.room i

theorem room_le (r : Circuit) (i : Nat) :
    r.room i ≤ r.width i / 2 ∧ r.room i ≤ r.width (i + 1) / 2 := (closable_le _ _ _).2

theorem finishAt_eq_startAt {r : Circuit} {i : Nat} (hshared : |r.gap i| ≤ r.room i) :
    r.finishAt i = r.startAt i := by
  rw [finishAt, startAt, shift, if_pos hshared, gap]
  ring

namespace Closes

variable {n : Nat} {r : Circuit}

theorem room_nonneg (h : Closes n r) (i : Nat) : 0 ≤ r.room i :=
  closable_nonneg h.tolerance_nonneg (h.width_pos i).le (h.width_pos (i + 1)).le

/-- What is not closed is a gap, not an overlap. -/
theorem lt_abs_gap_iff (h : Closes n r) (i : Nat) : r.room i < |r.gap i| ↔ r.room i < r.gap i := by
  rw [lt_abs]
  constructor
  · rintro (hgap | hoverlap)
    · exact hgap
    · exact absurd (h.overlap_le i) (not_le.2 hoverlap)
  · exact Or.inl

/-- A ray is moved by a quarter of a width at most. -/
theorem abs_shift_le (h : Closes n r) (i : Nat) :
    |r.shift i| ≤ r.width i / 4 ∧ |r.shift i| ≤ r.width (i + 1) / 4 := by
  have hhalf : |r.shift i| ≤ r.room i / 2 := abs_ite_half_le (h.room_nonneg i)
  obtain ⟨hleft, hright⟩ := r.room_le i
  exact ⟨by linarith, by linarith⟩

theorem finishAt_le_startAt (h : Closes n r) (i : Nat) : r.finishAt i ≤ r.startAt i := by
  by_cases hshared : |r.gap i| ≤ r.room i
  · exact (finishAt_eq_startAt hshared).le
  · have hgap := (h.lt_abs_gap_iff i).1 (not_le.1 hshared)
    have hnonneg := h.room_nonneg i
    rw [finishAt, startAt, shift, if_neg hshared]
    rw [gap] at hgap
    linarith

-- The middle of a radial stays in its wedge.
theorem startAt_lt_middle (h : Closes n r) (i : Nat) :
    r.startAt i < r.start (i + 1) + r.width (i + 1) / 2 := by
  have hpos := h.width_pos (i + 1)
  have hmoved := neg_le_of_abs_le (h.abs_shift_le i).2
  rw [startAt]
  linarith

theorem middle_lt_finishAt (h : Closes n r) (i : Nat) :
    r.start i + r.width i / 2 < r.finishAt i := by
  have hpos := h.width_pos i
  have hmoved := neg_le_of_abs_le (h.abs_shift_le i).1
  rw [finishAt]
  linarith

theorem startAt_lt_finishAt (h : Closes n r) (i : Nat) : r.startAt i < r.finishAt (i + 1) :=
  (h.startAt_lt_middle i).trans (h.middle_lt_finishAt (i + 1))

theorem shift_add_turn (h : Closes n r) (i : Nat) : r.shift (i + n) = r.shift i := by
  have hgap : r.gap (i + n) = r.gap i := by
    rw [gap, gap, Nat.add_right_comm, h.add_turn, h.add_turn, h.width_turn]
    ring
  have hroom : r.room (i + n) = r.room i := by
    rw [room, room, Nat.add_right_comm, h.width_turn, h.width_turn]
  rw [shift, shift, hgap, hroom]

theorem windingStarts (h : Closes n r) : Winding n r.startAt := by
  refine ⟨fun i => ?_, fun i => ?_⟩
  · exact (h.startAt_lt_finishAt i).trans_le (h.finishAt_le_startAt (i + 1))
  · rw [startAt, startAt, h.shift_add_turn, Nat.add_right_comm, h.add_turn]
    ring

theorem windingFinishes (h : Closes n r) : Winding n r.finishAt := by
  refine ⟨fun i => ?_, fun i => ?_⟩
  · exact (h.finishAt_le_startAt i).trans_lt (h.startAt_lt_finishAt i)
  · rw [finishAt, finishAt, h.shift_add_turn, h.add_turn, h.width_turn]
    ring

/-- The cell of a radial lies within the wedges and gaps from the radial before it to the one
behind it. -/
theorem startAt_lt_and_lt_startAt (h : Closes n r) (i : Nat) :
    r.startAt i < r.start (i + 2) ∧ r.start (i + 3) < r.startAt (i + 3) := by
  have hpos := h.width_pos (i + 3)
  have hmoved := h.startAt_lt_middle i
  have hfinish := h.middle_lt_finishAt (i + 3)
  have hle := h.finishAt_le_startAt (i + 3)
  -- an overlap leaves half of the radial before
  have hhalf := (h.overlap_le (i + 1)).trans (r.room_le (i + 1)).1
  rw [gap] at hhalf
  constructor
  · linarith
  · linarith

/-! ## Wedges and gaps -/

theorem inWedge_iff (h : Closes n r) (htwo : 2 ≤ n) (i : Nat) (azimuth : Rat) :
    r.InWedge i azimuth ↔
      ∃ u, u ≡ azimuth [PMOD 360] ∧ r.startAt i ≤ u ∧ u < r.finishAt (i + 1) := by
  have hturn := h.windingStarts.sub_lt (show i + 1 < i + n by omega)
  have hle := h.finishAt_le_startAt (i + 1)
  exact inArc_iff_exists (h.startAt_lt_finishAt i).le (by linarith)

theorem inGap_iff (h : Closes n r) (htwo : 2 ≤ n) (i : Nat) (azimuth : Rat) :
    r.InGap i azimuth ↔
      ∃ u, u ≡ azimuth [PMOD 360] ∧ r.finishAt (i + 1) ≤ u ∧ u < r.startAt (i + 1) := by
  have hturn := h.windingFinishes.sub_lt (show i + 1 + 1 < i + 1 + n by omega)
  have hlt := h.startAt_lt_finishAt (i + 1)
  exact inArc_iff_exists (h.finishAt_le_startAt (i + 1)) (by linarith)

theorem lt_gap_of_inGap (h : Closes n r) {i : Nat} {azimuth : Rat} (hgap : r.InGap i azimuth) :
    r.room (i + 1) < r.gap (i + 1) := by
  rw [← h.lt_abs_gap_iff]
  by_contra hshared
  rw [InGap, finishAt_eq_startAt (not_lt.1 hshared)] at hgap
  exact not_inArc_self _ _ hgap

theorem cell_of_inWedge_or_inGap (h : Closes n r) (htwo : 2 ≤ n) {i : Nat} {azimuth : Rat}
    (hi : r.InWedge i azimuth ∨ r.InGap i azimuth) :
    ∃ u, u ≡ azimuth [PMOD 360] ∧ r.startAt i ≤ u ∧ u < r.startAt (i + 1) := by
  rw [h.inWedge_iff htwo, h.inGap_iff htwo] at hi
  have hlt := h.startAt_lt_finishAt i
  have hle := h.finishAt_le_startAt (i + 1)
  rcases hi with ⟨u, hu, hlow, hhigh⟩ | ⟨u, hu, hlow, hhigh⟩
  · exact ⟨u, hu, hlow, hhigh.trans_le hle⟩
  · exact ⟨u, hu, hlt.le.trans hlow, hhigh⟩

theorem mod_eq_of_inWedge (h : Closes n r) (htwo : 2 ≤ n) {i j : Nat} {azimuth : Rat}
    (hi : r.InWedge i azimuth ∨ r.InGap i azimuth) (hj : r.InWedge j azimuth) : i % n = j % n := by
  obtain ⟨u, hu, hlow, hhigh⟩ := h.cell_of_inWedge_or_inGap htwo hi
  obtain ⟨v, hv, hlow', hhigh'⟩ := h.cell_of_inWedge_or_inGap htwo (Or.inl hj)
  exact h.windingStarts.cell_unique hlow hhigh hlow' hhigh' (hu.trans hv.symm)

/-- What is between two wedges is in no wedge. -/
theorem not_inWedge_of_inGap (h : Closes n r) (htwo : 2 ≤ n) {i j : Nat} {azimuth : Rat}
    (hi : r.InGap i azimuth) : ¬ r.InWedge j azimuth := by
  intro hj
  have hplace := h.mod_eq_of_inWedge htwo (Or.inr hi) hj
  have hplace' : (i + 1) % n = (j + 1) % n := Nat.ModEq.add_right 1 hplace
  -- in the same turn the gap lies behind the wedge
  have hwedge : r.InWedge i azimuth := (InArc.congr (h.windingStarts.modEq_of_mod_eq hplace.symm)
    (h.windingFinishes.modEq_of_mod_eq hplace'.symm) modEq_rfl).1 hj
  obtain ⟨u, hu, hlow, hhigh⟩ := (h.inGap_iff htwo i azimuth).1 hi
  obtain ⟨v, hv, hlow', hhigh'⟩ := (h.inWedge_iff htwo i azimuth).1 hwedge
  have hturn := h.windingStarts.sub_lt (show i + 1 < i + n by omega)
  have hsame : u = v := eq_of_modEq (hu.trans hv.symm) (by linarith) (by linarith)
  linarith

theorem inWedge_or_inGap (h : Closes n r) (htwo : 2 ≤ n) (azimuth : Rat) :
    ∃ i, r.InWedge i azimuth ∨ r.InGap i azimuth := by
  obtain ⟨i, u, -, hu, hlow, hhigh⟩ := h.windingStarts.exists_cell 0 azimuth
  refine ⟨i, ?_⟩
  rw [h.inWedge_iff htwo, h.inGap_iff htwo]
  by_cases hbefore : u < r.finishAt (i + 1)
  · exact Or.inl ⟨u, hu, hlow, hbefore⟩
  · exact Or.inr ⟨u, hu, not_lt.1 hbefore, hhigh⟩

/-- The wedge of an azimuth is that of the radial in whose cell it is, or one next to it. -/
theorem inWedge_near (h : Closes n r) (htwo : 2 ≤ n) {i j : Nat} {u azimuth : Rat}
    (hu : u ≡ azimuth [PMOD 360]) (hlow : r.start (i + 2) ≤ u) (hhigh : u < r.start (i + 3))
    (hj : r.InWedge j azimuth) : ∃ k, i ≤ k ∧ k ≤ i + 2 ∧ j % n = k % n := by
  obtain ⟨v, hv, hlow', hhigh'⟩ := h.cell_of_inWedge_or_inGap htwo (Or.inl hj)
  obtain ⟨hstart, hfinish⟩ := h.startAt_lt_and_lt_startAt i
  have hcell : ∀ k, r.startAt k ≤ u → u < r.startAt (k + 1) → j % n = k % n := by
    intro k hk hk'
    exact h.windingStarts.cell_unique hlow' hhigh' hk hk' (hv.trans hu.symm)
  by_cases hfirst : u < r.startAt (i + 1)
  · exact ⟨i, le_rfl, by omega, hcell i (hstart.le.trans hlow) hfirst⟩
  · by_cases hsecond : u < r.startAt (i + 2)
    · exact ⟨i + 1, by omega, by omega, hcell (i + 1) (not_lt.1 hfirst) hsecond⟩
    · exact ⟨i + 2, by omega, le_rfl, hcell (i + 2) (not_lt.1 hsecond) (hhigh.trans hfinish)⟩

end Closes

end Circuit

namespace Sweep

/-! ## Radials met in turn -/

/-- The radials met in turn on the way around. -/
def around (extents : List (Extent Rat)) (i : Nat) : Extent Rat :=
  extents.getD (i % extents.length) ⟨0, 0, 0⟩

theorem getElem?_mod_length {extents : List (Extent Rat)} (hne : 0 < extents.length) (i : Nat) :
    extents[i % extents.length]? = some (around extents i) := by
  rw [around, List.getD_eq_getElem _ _ (Nat.mod_lt i hne),
    List.getElem?_eq_getElem (Nat.mod_lt i hne)]

theorem around_add_length (extents : List (Extent Rat)) (i : Nat) :
    around extents (i + extents.length) = around extents i := by
  rw [around, around, Nat.add_mod_right]

-- Whatever place on a circle, it is met on the way around.
theorem exists_eq_succ_mod {k n : Nat} (hk : k < n) : ∃ i, k = (i + 1) % n := by
  refine ⟨k + n - 1, ?_⟩
  rw [Nat.sub_add_cancel (by omega), Nat.add_mod_right, Nat.mod_eq_of_lt hk]

theorem areNeighbors_around {extents : List (Extent Rat)} (hne : 0 < extents.length) (i : Nat) :
    AreNeighbors extents (i % extents.length) (around extents i) (around extents (i + 1)) := by
  refine ⟨getElem?_mod_length hne i, ?_⟩
  rw [Nat.mod_add_mod]
  exact getElem?_mod_length hne (i + 1)

theorem AreNeighbors.eq_around {extents : List (Extent Rat)} (hne : 0 < extents.length) {i : Nat}
    {extent next : Extent Rat} (h : AreNeighbors extents (i % extents.length) extent next) :
    extent = around extents i ∧ next = around extents (i + 1) := by
  obtain ⟨hextent, hnext⟩ := h
  rw [getElem?_mod_length hne] at hextent
  rw [Nat.mod_add_mod, getElem?_mod_length hne] at hnext
  exact ⟨(Option.some.inj hextent).symm, (Option.some.inj hnext).symm⟩

/-- Where the radials start that are met in turn, each turn further on. -/
def startOf (extents : List (Extent Rat)) : Nat → Rat := unroll (extents.map (·.start))

theorem startOf_modEq {extents : List (Extent Rat)} (hne : 0 < extents.length) (i : Nat) :
    startOf extents i ≡ (around extents i).start [PMOD 360] := by
  apply unroll_modEq
  rw [List.length_map, List.getElem?_map, getElem?_mod_length hne, Option.map_some]

/-- Where the radials of a sweep start that are met in turn, and how wide they are. -/
def circuit (tolerance : Rat) (extents : List (Extent Rat)) : Circuit :=
  ⟨tolerance, unroll (extents.map (·.start)), fun i => (around extents i).width⟩

theorem start_circuit_modEq (tolerance : Rat) {extents : List (Extent Rat)}
    (hne : 0 < extents.length) (i : Nat) :
    (circuit tolerance extents).start i ≡ (around extents i).start [PMOD 360] :=
  startOf_modEq hne i

theorem mismatch_around {tolerance : Rat} {extents : List (Extent Rat)}
    (htwo : 2 ≤ extents.length) (h : Winding extents.length (circuit tolerance extents).start)
    (i : Nat) :
    mismatch (around extents i) (around extents (i + 1)) = (circuit tolerance extents).gap i := by
  have hne : 0 < extents.length := by omega
  rw [mismatch, Circuit.gap, ← clockwiseDelta_congr (start_circuit_modEq tolerance hne i)
    (start_circuit_modEq tolerance hne (i + 1)),
    clockwiseDelta_of_le (h.lt_succ i).le (h.sub_lt (by omega))]
  rfl

theorem limit_rat (tolerance : Rat) (extent next : Extent Rat) :
    limit tolerance extent next = closable (max tolerance 0) extent.width next.width := by
  simp only [limit, closable, scalar_min_rat, scalar_max_rat, scalar_ofInt_rat, Int.cast_zero,
    Int.cast_one, Int.cast_ofNat, mul_one_div, min_assoc]

/-! ## Rays of a sweep -/

/-- How far the ray at which a radial ends is moved to meet the next one. -/
def shift (tolerance : Rat) (extent next : Extent Rat) : Rat :=
  if |mismatch extent next| ≤ limit tolerance extent next then mismatch extent next / 2 else 0

/-- A radial alone does not meet itself. -/
theorem shift_self (tolerance : Rat) (extent : Extent Rat) : shift tolerance extent extent = 0 := by
  have hmismatch : mismatch extent extent = -extent.width := by
    rw [mismatch, clockwiseDelta_self, zero_sub]
  rw [shift, hmismatch, abs_neg, limit_rat]
  by_cases hshared : |extent.width| ≤ closable (max tolerance 0) extent.width extent.width
  · have hhalf := hshared.trans (closable_le _ _ _).2.1
    have hpos := le_abs_self extent.width
    have hneg := neg_le_abs extent.width
    rw [if_pos hshared]
    linarith
  · rw [if_neg hshared]

/-- The boundary between two radials is where one ends and the next one starts, both moved. -/
theorem boundary_modEq (tolerance : Rat) (extent next : Extent Rat) :
    (boundary tolerance extent next).finish ≡
      extent.start + extent.width + shift tolerance extent next [PMOD 360] ∧
    (boundary tolerance extent next).start ≡
      next.start - shift tolerance extent next [PMOD 360] := by
  simp only [boundary, shift, scalar_abs_rat, scalar_le_rat, scalar_ofInt_rat, Int.cast_one,
    Int.cast_ofNat, mul_one_div]
  by_cases hshared : |mismatch extent next| ≤ limit tolerance extent next
  · rw [if_pos hshared, if_pos hshared]
    have hray := normalizeAzimuth_modEq (extent.start + extent.width + mismatch extent next / 2)
    -- halfway is as far from one side as from the other
    have hback : extent.start + extent.width + mismatch extent next / 2 =
        extent.start + clockwiseDelta extent.start next.start - mismatch extent next / 2 := by
      unfold mismatch
      ring
    have hway := add_clockwiseDelta_modEq extent.start next.start
    exact ⟨hray, hray.trans (hback ▸ hway.sub_right _)⟩
  · rw [if_neg hshared, if_neg hshared, add_zero, sub_zero]
    exact ⟨normalizeAzimuth_modEq _, normalizeAzimuth_modEq _⟩

/-- The rays of a wedge. -/
theorem rays_modEq {tolerance : Rat} {extents : List (Extent Rat)} {i : Nat} {span : RadialSpan}
    (hspan : (ofExtents tolerance extents).spans[i % extents.length]? = some span) :
    span.radial = (around extents i).radial ∧
      (ofExtents tolerance extents).ray span.startRay ≡ (around extents i).start -
        shift tolerance (around extents (i + extents.length - 1)) (around extents i) [PMOD 360] ∧
      (ofExtents tolerance extents).ray span.endRay ≡ (around extents i).start +
        (around extents i).width +
        shift tolerance (around extents i) (around extents (i + 1)) [PMOD 360] := by
  have hlt := (Array.getElem?_eq_some_iff.1 hspan).1
  rw [size_spans] at hlt
  have hne : 0 < extents.length := Nat.zero_lt_of_lt hlt
  by_cases htwo : 2 ≤ extents.length
  · have hprevious := before_congr (Nat.mod_mod i extents.length)
    have hnext : (i % extents.length + 1) % extents.length = (i + 1) % extents.length :=
      Nat.mod_add_mod i _ 1
    obtain ⟨found, hfound, hradial, hrays⟩ := span_ofExtents tolerance htwo
      (hprevious ▸ getElem?_mod_length hne (i + extents.length - 1)) (getElem?_mod_length hne i)
      (hnext ▸ getElem?_mod_length hne (i + 1))
    obtain rfl := Option.some.inj (hfound.symm.trans hspan)
    rw [hrays.ray_startRay, hrays.ray_endRay]
    exact ⟨hradial, (boundary_modEq _ _ _).2, (boundary_modEq _ _ _).1⟩
  · obtain ⟨extent, rfl⟩ := List.length_eq_one_iff.1 (show extents.length = 1 by omega)
    have haround : ∀ j, around [extent] j = extent := by
      intro j
      rw [around, List.length_singleton, Nat.mod_one]
      rfl
    rw [List.length_singleton, Nat.mod_one] at hspan
    obtain rfl := Option.some.inj hspan
    rw [haround, haround, haround, shift_self, sub_zero, add_zero]
    exact ⟨rfl, normalizeAzimuth_modEq _, normalizeAzimuth_modEq _⟩

/-- Whether an azimuth is between two wedges. -/
def InGap (sweep : Sweep Rat) (span next : RadialSpan) (azimuth : Rat) : Prop :=
  InArc (sweep.ray span.endRay) (sweep.ray next.startRay) azimuth

/-- The radials of a sweep that follow each other around the circle. -/
structure IsCircle (tolerance : Rat) (extents : List (Extent Rat)) : Prop where
  two_le : 2 ≤ extents.length
  ascending : Ascending (extents.map (·.start))
  closes : (circuit tolerance extents).Closes extents.length

namespace IsCircle

variable {tolerance : Rat} {extents : List (Extent Rat)}

theorem length_pos (h : IsCircle tolerance extents) : 0 < extents.length :=
  Nat.zero_lt_of_lt h.two_le

theorem mismatch_eq (h : IsCircle tolerance extents) (i : Nat) :
    mismatch (around extents i) (around extents (i + 1)) = (circuit tolerance extents).gap i :=
  mismatch_around h.two_le h.closes.toWinding i

theorem shift_eq (h : IsCircle tolerance extents) (i : Nat) :
    shift tolerance (around extents i) (around extents (i + 1)) =
      (circuit tolerance extents).shift i := by
  have htolerance : max tolerance 0 = tolerance := max_eq_left h.closes.tolerance_nonneg
  rw [shift, Circuit.shift, h.mismatch_eq, limit_rat, htolerance]
  rfl

theorem getElem?_spans_mod (h : IsCircle tolerance extents) (i : Nat) :
    ∃ span, (ofExtents tolerance extents).spans[(i + 1) % extents.length]? = some span ∧
      span.radial = (around extents (i + 1)).radial ∧
      (ofExtents tolerance extents).ray span.startRay ≡
        (circuit tolerance extents).startAt i [PMOD 360] ∧
      (ofExtents tolerance extents).ray span.endRay ≡
        (circuit tolerance extents).finishAt (i + 1) [PMOD 360] := by
  have hlt : (i + 1) % extents.length < (ofExtents tolerance extents).spans.size := by
    rw [size_spans]
    exact Nat.mod_lt _ h.length_pos
  obtain ⟨hradial, hstart, hfinish⟩ := rays_modEq (Array.getElem?_eq_getElem hlt)
  have hplace := (start_circuit_modEq tolerance h.length_pos (i + 1)).symm
  rw [show i + 1 + extents.length - 1 = i + extents.length by omega, around_add_length,
    h.shift_eq] at hstart
  rw [h.shift_eq, add_assoc] at hfinish
  refine ⟨_, Array.getElem?_eq_getElem hlt, hradial, ?_, ?_⟩
  · exact hstart.trans (hplace.sub_right _)
  · rw [Circuit.finishAt, add_assoc]
    exact hfinish.trans (hplace.add_right _)

theorem inWedge_iff (h : IsCircle tolerance extents) {i : Nat} {span : RadialSpan}
    (hspan : (ofExtents tolerance extents).spans[(i + 1) % extents.length]? = some span)
    (azimuth : Rat) :
    (ofExtents tolerance extents).InWedge span azimuth ↔
      (circuit tolerance extents).InWedge i azimuth := by
  obtain ⟨found, hfound, -, hstart, hfinish⟩ := h.getElem?_spans_mod i
  obtain rfl := Option.some.inj (hfound.symm.trans hspan)
  exact InArc.congr hstart hfinish modEq_rfl

theorem inGap_iff (h : IsCircle tolerance extents) {i : Nat} {span next : RadialSpan}
    (hspan : (ofExtents tolerance extents).spans[(i + 1) % extents.length]? = some span)
    (hnext : (ofExtents tolerance extents).spans[(i + 2) % extents.length]? = some next)
    (azimuth : Rat) :
    (ofExtents tolerance extents).InGap span next azimuth ↔
      (circuit tolerance extents).InGap i azimuth := by
  obtain ⟨found, hfound, -, -, hfinish⟩ := h.getElem?_spans_mod i
  obtain ⟨behind, hbehind, -, hstart, -⟩ := h.getElem?_spans_mod (i + 1)
  obtain rfl := Option.some.inj (hfound.symm.trans hspan)
  obtain rfl := Option.some.inj (hbehind.symm.trans hnext)
  exact InArc.congr hfinish hstart modEq_rfl

theorem exists_place (h : IsCircle tolerance extents) {k : Nat} {span : RadialSpan}
    (hspan : (ofExtents tolerance extents).spans[k]? = some span) :
    ∃ i, k = (i + 1) % extents.length := by
  have htwo := h.two_le
  refine exists_eq_succ_mod ?_
  rw [← size_spans tolerance extents]
  exact (Array.getElem?_eq_some_iff.1 hspan).1

theorem disjoint (h : IsCircle tolerance extents) {i j : Nat} {span other : RadialSpan}
    {azimuth : Rat} (hi : (ofExtents tolerance extents).spans[i]? = some span)
    (hj : (ofExtents tolerance extents).spans[j]? = some other)
    (hspan : (ofExtents tolerance extents).InWedge span azimuth)
    (hother : (ofExtents tolerance extents).InWedge other azimuth) : i = j := by
  obtain ⟨i, rfl⟩ := h.exists_place hi
  obtain ⟨j, rfl⟩ := h.exists_place hj
  exact Nat.ModEq.add_right 1 (h.closes.mod_eq_of_inWedge h.two_le
    (Or.inl ((h.inWedge_iff hi azimuth).1 hspan)) ((h.inWedge_iff hj azimuth).1 hother))

/-! ## The search -/

theorem mem_candidates (h : IsCircle tolerance extents) {i j : Nat} {span : RadialSpan}
    {u azimuth : Rat} (hu : u ≡ azimuth [PMOD 360])
    (hlow : (circuit tolerance extents).start (i + 2) ≤ u)
    (hhigh : u < (circuit tolerance extents).start (i + 3))
    (hspan : (ofExtents tolerance extents).spans[(j + 1) % extents.length]? = some span)
    (hwedge : (ofExtents tolerance extents).InWedge span azimuth) :
    span ∈ candidates (ofExtents tolerance extents).spans (i + 2) := by
  obtain ⟨k, hk, hk', hplace⟩ := h.closes.inWedge_near h.two_le hu hlow hhigh
    ((h.inWedge_iff hspan azimuth).1 hwedge)
  have hsame : (j + 1) % extents.length = (k + 1) % extents.length := Nat.ModEq.add_right 1 hplace
  refine mem_candidates_iff.2 ⟨(j + 1) % extents.length, hspan, ?_⟩
  rw [size_spans, areNear_mod_left]
  exact areNear_of_le hsame hk' (by omega)

theorem locate?_eq_some_iff (h : IsCircle tolerance extents) (azimuth : Rat) (span : RadialSpan) :
    (ofExtents tolerance extents).locate? azimuth = some span ↔
      span ∈ (ofExtents tolerance extents).spans ∧
        (ofExtents tolerance extents).InWedge span azimuth := by
  have hlength : (extents.map (·.start)).length = extents.length := List.length_map _
  obtain ⟨i, u, hi, hu, hlow, hhigh, hlocate⟩ := locate?_eq h.ascending.ordered
    (hlength ▸ h.length_pos) (nominalStarts_ofExtents tolerance extents)
    ((size_spans tolerance extents).trans hlength.symm) 2 azimuth
  obtain ⟨i, rfl⟩ := Nat.exists_eq_add_of_le' hi
  have hfinds : ∀ found, (ofExtents tolerance extents).locate? azimuth = some found →
      found ∈ (ofExtents tolerance extents).spans ∧
        (ofExtents tolerance extents).InWedge found azimuth := by
    intro found hfound
    obtain ⟨hcandidate, hwedge⟩ := inWedge_of_find? (hlocate ▸ hfound)
    obtain ⟨k, -, hk⟩ := List.mem_filterMap.1 hcandidate
    exact ⟨Array.mem_of_getElem? hk, hwedge⟩
  constructor
  · exact hfinds span
  · rintro ⟨hmem, hwedge⟩
    obtain ⟨k, hk⟩ := Array.mem_iff_getElem?.1 hmem
    obtain ⟨j, rfl⟩ := h.exists_place hk
    cases hfound : (ofExtents tolerance extents).locate? azimuth with
    | none =>
        rw [hlocate] at hfound
        exact absurd ((covers_iff _ _ _).2 hwedge)
          (List.find?_eq_none.1 hfound span (h.mem_candidates hu hlow hhigh hk hwedge))
    | some found =>
        -- no other wedge holds the azimuth
        obtain ⟨hmem', hwedge'⟩ := hfinds found hfound
        obtain ⟨k, hk'⟩ := Array.mem_iff_getElem?.1 hmem'
        obtain rfl := h.disjoint hk' hk hwedge' hwedge
        exact hk'.symm.trans hk

theorem locate?_eq_none_iff (h : IsCircle tolerance extents) (azimuth : Rat) :
    (ofExtents tolerance extents).locate? azimuth = none ↔
      ∃ i, (circuit tolerance extents).InGap i azimuth := by
  rw [Option.eq_none_iff_forall_ne_some]
  constructor
  · intro hnone
    obtain ⟨i, hwedge | hgap⟩ := h.closes.inWedge_or_inGap h.two_le azimuth
    · obtain ⟨span, hspan, -⟩ := h.getElem?_spans_mod i
      exact absurd ((h.locate?_eq_some_iff azimuth span).2
        ⟨Array.mem_of_getElem? hspan, (h.inWedge_iff hspan azimuth).2 hwedge⟩) (hnone span)
    · exact ⟨i, hgap⟩
  · rintro ⟨i, hgap⟩ span hfound
    obtain ⟨hmem, hwedge⟩ := (h.locate?_eq_some_iff azimuth span).1 hfound
    obtain ⟨k, hk⟩ := Array.mem_iff_getElem?.1 hmem
    obtain ⟨j, rfl⟩ := h.exists_place hk
    exact h.closes.not_inWedge_of_inGap h.two_le hgap ((h.inWedge_iff hk azimuth).1 hwedge)

end IsCircle

/-- The wedges of a sweep part the circle.  They are the wedges of radials as they are drawn, in the
same order. -/
structure PartsCircle (tolerance : Rat) (extents : List (Extent Rat)) (sweep : Sweep Rat) :
    Prop where
  radials : sweep.spans.toList.map (·.radial) = extents.map (·.radial)
  /-- Wedges have no azimuth in common. -/
  disjoint : ∀ (i j : Nat) span other azimuth, sweep.spans[i]? = some span →
    sweep.spans[j]? = some other → sweep.InWedge span azimuth → sweep.InWedge other azimuth → i = j
  /-- Neighboring wedges meet if the mismatch of their radials is closed. -/
  meet : ∀ i extent next span following azimuth, AreNeighbors extents i extent next →
    AreNeighbors sweep.spans.toList i span following →
    |mismatch extent next| ≤ closable tolerance extent.width next.width →
    ¬ sweep.InGap span following azimuth
  /-- The search finds the wedge that an azimuth is in. -/
  locate : ∀ azimuth span,
    sweep.locate? azimuth = some span ↔ span ∈ sweep.spans ∧ sweep.InWedge span azimuth
  /-- The search finds nothing in the gaps that are too wide to be closed, and only there. -/
  locate_none : ∀ azimuth, sweep.locate? azimuth = none ↔
    ∃ i extent next span following, AreNeighbors extents i extent next ∧
      AreNeighbors sweep.spans.toList i span following ∧
      closable tolerance extent.width next.width < mismatch extent next ∧
      sweep.InGap span following azimuth

theorem IsCircle.partsCircle {tolerance : Rat} {extents : List (Extent Rat)}
    (h : IsCircle tolerance extents) :
    PartsCircle tolerance extents (ofExtents tolerance extents) := by
  have hne := h.length_pos
  have hsize : (ofExtents tolerance extents).spans.toList.length = extents.length :=
    size_spans tolerance extents
  have hspans : ∀ (i : Nat) (span next : RadialSpan),
      AreNeighbors (ofExtents tolerance extents).spans.toList ((i + 1) % extents.length) span next ↔
        (ofExtents tolerance extents).spans[(i + 1) % extents.length]? = some span ∧
          (ofExtents tolerance extents).spans[(i + 2) % extents.length]? = some next := by
    intro i span next
    rw [AreNeighbors, hsize, Nat.mod_add_mod, Array.getElem?_toList, Array.getElem?_toList]
  refine ⟨?_, fun i j span other azimuth hi hj => h.disjoint hi hj, ?_, h.locate?_eq_some_iff, ?_⟩
  · refine List.ext_getElem? fun k => ?_
    rw [List.getElem?_map, List.getElem?_map, Array.getElem?_toList]
    by_cases hk : k < extents.length
    · obtain ⟨i, rfl⟩ := exists_eq_succ_mod hk
      obtain ⟨span, hspan, hradial, -⟩ := h.getElem?_spans_mod i
      rw [hspan, getElem?_mod_length hne, Option.map_some, Option.map_some, hradial]
    · rw [Array.getElem?_eq_none (hsize.trans_le (not_lt.1 hk)),
        List.getElem?_eq_none (not_lt.1 hk), Option.map_none, Option.map_none]
  · intro i extent next span following azimuth hextents hneighbors hshared hgap
    obtain ⟨i, rfl⟩ := exists_eq_succ_mod (List.getElem?_eq_some_iff.1 hextents.1).1
    obtain ⟨rfl, rfl⟩ := hextents.eq_around hne
    obtain ⟨hspan, hnext⟩ := (hspans i span following).1 hneighbors
    have hroom := h.closes.lt_gap_of_inGap ((h.inGap_iff hspan hnext azimuth).1 hgap)
    rw [h.mismatch_eq] at hshared
    exact absurd ((le_abs_self _).trans hshared) (not_le.2 hroom)
  · intro azimuth
    rw [h.locate?_eq_none_iff]
    constructor
    · rintro ⟨i, hgap⟩
      obtain ⟨span, hspan, -⟩ := h.getElem?_spans_mod i
      obtain ⟨next, hnext, -⟩ := h.getElem?_spans_mod (i + 1)
      refine ⟨(i + 1) % extents.length, around extents (i + 1), around extents (i + 2), span, next,
        areNeighbors_around hne (i + 1), (hspans i span next).2 ⟨hspan, hnext⟩, ?_,
        (h.inGap_iff hspan hnext azimuth).2 hgap⟩
      rw [h.mismatch_eq]
      exact h.closes.lt_gap_of_inGap hgap
    · rintro ⟨i, extent, next, span, following, hextents, hneighbors, -, hgap⟩
      obtain ⟨i, rfl⟩ := exists_eq_succ_mod (List.getElem?_eq_some_iff.1 hextents.1).1
      obtain ⟨hspan, hnext⟩ := (hspans i span following).1 hneighbors
      exact ⟨i, (h.inGap_iff hspan hnext azimuth).1 hgap⟩

/-! ## Sweeps that are built -/

theorem effectiveWidth_pos (count : Nat) (extent next : Extent Rat) :
    0 < effectiveWidth count extent next := by
  rw [effectiveWidth]
  by_cases husable : isUsableWidth extent.width = true
  · rw [if_pos husable]
    simp only [isUsableWidth, scalar_isFinite_rat, scalar_ofInt_rat, Int.cast_zero, Bool.true_and,
      Bool.and_eq_true, scalar_lt_rat] at husable
    exact husable.1
  · rw [if_neg husable]
    simp only [scalar_ofInt_rat, Int.cast_zero, Int.cast_one, scalar_lt_rat]
    generalize (if 1 < count then clockwiseDelta extent.start next.start else 0) = way
    by_cases hway : 0 < way
    · rw [if_pos hway]
      exact hway
    · rw [if_neg hway]
      exact one_pos

theorem width_pos_of_mem_drawn {radials : List (Radial Rat)} {extent : Extent Rat}
    (h : extent ∈ drawn radials) : 0 < extent.width := by
  obtain ⟨before, -, next, -, rfl⟩ := mem_widened h
  exact effectiveWidth_pos _ before next

theorem length_drawn_rat (radials : List (Radial Rat)) :
    (drawn radials).length = radials.countP (0 < ·.gates.size) := by
  rw [length_drawn]
  refine List.countP_congr fun radial _ => ?_
  simp only [isUsable, scalar_isFinite_rat, Bool.and_true]

theorem ascending_drawn {radials : List (Radial Rat)} {tolerance : Rat}
    (hoverlap : ∀ i extent next, AreNeighbors (drawn radials) i extent next →
      -mismatch extent next ≤ closable tolerance extent.width next.width) :
    Ascending ((drawn radials).map (·.start)) := by
  have hstarts : (drawn radials).map (·.start) = (extents radials).map (·.start) := by
    rw [drawn_eq, map_start_widened]
  have hle : ((drawn radials).map (·.start)).Pairwise (· ≤ ·) :=
    hstarts ▸ List.pairwise_map.2 (pairwise_extents radials)
  have hchain : ((drawn radials).map (·.start)).IsChain (· < ·) := by
    refine List.isChain_iff_getElem.2 fun i hi => ?_
    refine lt_of_le_of_ne (List.pairwise_iff_getElem.1 hle i (i + 1) _ hi (Nat.lt_succ_self i)) ?_
    -- where two start at the same azimuth one overlaps the other by its whole width
    intro hsame
    rw [List.length_map] at hi
    rw [List.getElem_map, List.getElem_map] at hsame
    have hlt : i < (drawn radials).length := by omega
    have hpos := width_pos_of_mem_drawn (List.getElem_mem hlt)
    have hneighbors := hoverlap i (drawn radials)[i] (drawn radials)[i + 1]
      ⟨List.getElem?_eq_getElem _, by rw [Nat.mod_eq_of_lt hi, List.getElem?_eq_getElem]⟩
    have hhalf := hneighbors.trans ((min_le_right _ _).trans (min_le_left _ _))
    rw [mismatch, hsame, clockwiseDelta_self] at hhalf
    linarith
  rw [hstarts] at hchain ⊢
  exact ascending_of_pairwise (List.isChain_iff_pairwise.1 hchain)

theorem isCircle_drawn {radials : List (Radial Rat)} {tolerance : Rat}
    (htolerance : 0 ≤ tolerance) (htwo : 2 ≤ radials.countP (0 < ·.gates.size))
    (hoverlap : ∀ i extent next, AreNeighbors (drawn radials) i extent next →
      -mismatch extent next ≤ closable tolerance extent.width next.width) :
    IsCircle tolerance (drawn radials) := by
  have hascending := ascending_drawn hoverlap
  rw [← length_drawn_rat] at htwo
  have hne : 0 < (drawn radials).length := by omega
  have hwinding := hascending.winding (by rw [List.length_map]; exact hne)
  rw [List.length_map] at hwinding
  refine ⟨htwo, hascending, hwinding, htolerance, ?_, ?_, ?_⟩
  · intro i
    exact congrArg Extent.width (around_add_length (drawn radials) i)
  · intro i
    exact width_pos_of_mem_drawn (List.mem_of_getElem? (getElem?_mod_length hne i))
  · intro i
    rw [← mismatch_around htwo hwinding]
    exact hoverlap _ _ _ (areNeighbors_around hne i)

/-- The wedges of a sweep that is built part the circle, and the search finds the one that an
azimuth is in, as long as no radial overlaps the next one by more than what a shared ray closes.
The widths are those that the radials are drawn with, which are positive. -/
theorem build_parts_circle {radials : List (Radial Rat)} {tolerance : Rat}
    (htolerance : 0 ≤ tolerance) (htwo : 2 ≤ radials.countP (0 < ·.gates.size))
    (hoverlap : ∀ i extent next, AreNeighbors (drawn radials) i extent next →
      -mismatch extent next ≤ closable tolerance extent.width next.width) :
    PartsCircle tolerance (drawn radials) (build radials tolerance) := by
  rw [build_eq]
  exact (isCircle_drawn htolerance htwo hoverlap).partsCircle

/-- Two radials that nearly meet, a wide gap, and a radial without a width that reaches the first
one across north. -/
theorem build_parts_circle_gap :
    let radials : List (Radial Rat) := [⟨10, 100, .literal8, .bytes #[1]⟩,
      ⟨111, 100, .literal8, .bytes #[1]⟩, ⟨200, 5, .literal8, .bytes #[]⟩,
      ⟨350, 0, .literal8, .bytes #[1]⟩]
    (0 : Rat) ≤ 2 ∧ 2 ≤ radials.countP (0 < ·.gates.size) ∧
    (∀ i extent next, AreNeighbors (drawn radials) i extent next →
      -mismatch extent next ≤ closable 2 extent.width next.width) ∧
    PartsCircle 2 (drawn radials) (build radials 2) := by
  intro radials
  have hcount : 2 ≤ radials.countP (0 < ·.gates.size) := by decide +kernel
  have hdrawn : drawn radials = [⟨0, 10, 100⟩, ⟨1, 111, 100⟩, ⟨3, 350, 20⟩] := by
    rw [drawn_of_pairwise rfl (by decide +kernel)]
    decide +kernel
  have hoverlap : ∀ i extent next, AreNeighbors (drawn radials) i extent next →
      -mismatch extent next ≤ closable 2 extent.width next.width := by
    rw [hdrawn]
    rintro i extent next ⟨hextent, hnext⟩
    have hi : i < 3 := (List.getElem?_eq_some_iff.1 hextent).1
    obtain rfl | rfl | rfl : i = 0 ∨ i = 1 ∨ i = 2 := by omega
    all_goals
      obtain rfl := Option.some.inj hextent
      obtain rfl := Option.some.inj hnext
      decide +kernel
  exact ⟨by norm_num, hcount, hoverlap, build_parts_circle (by norm_num) hcount hoverlap⟩

end Sweep

end WeatherRadar.Geo
