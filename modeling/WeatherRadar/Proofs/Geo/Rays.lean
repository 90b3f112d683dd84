import Mathlib.Data.List.Rotate
import WeatherRadar.Geo.Sweep
/-!
# Rays and wedges of a sweep

Neighbors on a circle are a rotation apart.  The wedge of a radial begins at the ray where the
boundary before it lets it start, and ends at the ray where the boundary behind it ends it
(`span_ofBoundaries`), so every wedge of a sweep that is built has a radial and two rays of its own
sweep (`mem_spans`).
-/

namespace WeatherRadar.Geo.Sweep

open Level3

/-! ## Neighbors on a circle -/

section Circle

variable {β : Type}

theorem successors_eq_rotate (xs : List β) : successors xs = xs.rotate 1 := by
  cases xs with
  | nil => rfl
  | cons x xs => rw [successors, List.rotate_cons_succ, List.rotate_zero]

theorem predecessors_eq_rotate (xs : List β) : predecessors xs = xs.rotate (xs.length - 1) := by
  rw [predecessors, successors_eq_rotate, List.reverse_rotate, List.reverse_reverse,
    List.length_reverse]
  cases xs with
  | nil => rfl
  | cons x xs =>
      cases xs with
      | nil => rw [List.rotate_singleton, List.rotate_singleton]
      | cons y ys =>
          rw [List.length_cons, List.length_cons, Nat.mod_eq_of_lt (by omega)]

/-- An item on a circle and the one that comes next. -/
def AreNeighbors (xs : List β) (i : Nat) (x next : β) : Prop :=
  xs[i]? = some x ∧ xs[(i + 1) % xs.length]? = some next

theorem length_successors (xs : List β) : (successors xs).length = xs.length := by
  rw [successors_eq_rotate, List.length_rotate]

theorem getElem?_successors {xs : List β} {i : Nat} (hi : i < xs.length) :
    (successors xs)[i]? = xs[(i + 1) % xs.length]? := by
  rw [successors_eq_rotate, List.getElem?_rotate hi]

theorem getElem?_predecessors {xs : List β} {i : Nat} (hi : i < xs.length) :
    (predecessors xs)[i]? = xs[(i + xs.length - 1) % xs.length]? := by
  rw [predecessors_eq_rotate, List.getElem?_rotate hi, Nat.add_sub_assoc (by omega)]

theorem before_congr {n i j : Nat} (h : i % n = j % n) : (i + n - 1) % n = (j + n - 1) % n := by
  rcases Nat.eq_zero_or_pos n with hzero | hpos
  · rw [hzero, Nat.mod_zero, Nat.mod_zero] at h
    rw [h]
  · rw [Nat.add_sub_assoc hpos, Nat.add_sub_assoc hpos, Nat.add_mod, h, ← Nat.add_mod]

/-- What comes before each member of a circle, and what comes behind it. -/
theorem before_eq_iff {n i j : Nat} (hi : i < n) (hj : j < n) :
    i = (j + n - 1) % n ↔ j = (i + 1) % n := by
  have hbefore : (j + n - 1) % n = if j = 0 then n - 1 else j - 1 := by
    split
    · rw [Nat.mod_eq_of_lt (by omega)]
      omega
    · rw [show j + n - 1 = j - 1 + n by omega, Nat.add_mod_right, Nat.mod_eq_of_lt (by omega)]
  have hbehind : (i + 1) % n = if i = n - 1 then 0 else i + 1 := by
    split
    · rw [show i + 1 = n by omega, Nat.mod_self]
    · rw [Nat.mod_eq_of_lt (by omega)]
  rw [hbefore, hbehind]
  split <;> split <;> omega

end Circle

/-! ## Numbers of rays -/

variable {α : Type}

/-- Where the radial before a boundary ends. -/
def Boundary.finish : Boundary α → α
  | shared ray => ray
  | apart finish _ => finish

/-- Where the radial behind a boundary starts. -/
def Boundary.start : Boundary α → α
  | shared ray => ray
  | apart _ start => start

theorem rayNumbers_cons (next : Nat) (boundary : Boundary α) (boundaries : List (Boundary α)) :
    rayNumbers next (boundary :: boundaries) =
      (next, next + boundary.rays.length - 1) ::
        rayNumbers (next + boundary.rays.length) boundaries := by
  cases boundary with
  | shared ray => rfl
  | apart finish start => rfl

theorem length_rayNumbers (next : Nat) (boundaries : List (Boundary α)) :
    (rayNumbers next boundaries).length = boundaries.length := by
  induction boundaries generalizing next with
  | nil => rfl
  | cons boundary boundaries ih => rw [rayNumbers_cons, List.length_cons, ih, List.length_cons]

/-- The numbers of a boundary lead to its rays. -/
theorem rayNumbers_spec (before : List α) (boundaries : List (Boundary α)) {i : Nat}
    {boundary : Boundary α} (hi : boundaries[i]? = some boundary) :
    ∃ numbers, (rayNumbers before.length boundaries)[i]? = some numbers ∧
      (before ++ boundaries.flatMap Boundary.rays)[numbers.1]? = some boundary.finish ∧
      (before ++ boundaries.flatMap Boundary.rays)[numbers.2]? = some boundary.start := by
  induction boundaries generalizing before i with
  | nil => cases hi
  | cons first rest ih =>
      cases i with
      | zero =>
          obtain rfl := Option.some.inj hi
          rw [rayNumbers_cons]
          refine ⟨_, rfl, ?_, ?_⟩
          · cases first with
            | shared ray => simp [Boundary.rays, Boundary.finish]
            | apart finish start => simp [Boundary.rays, Boundary.finish]
          · cases first with
            | shared ray => simp [Boundary.rays, Boundary.start]
            | apart finish start => simp [Boundary.rays, Boundary.start]
      | succ i =>
          have hrest := ih (before ++ first.rays) hi
          rw [List.append_assoc, ← List.flatMap_cons, List.length_append] at hrest
          rw [rayNumbers_cons, List.getElem?_cons_succ]
          exact hrest

/-- A wedge leads from the boundary before its radial to the one behind it. -/
structure HasRays (sweep : Sweep α) (span : RadialSpan) (start finish : α) : Prop where
  start : sweep.rays[span.startRay]? = some start
  finish : sweep.rays[span.endRay]? = some finish

theorem HasRays.ray_startRay [Scalar α] {sweep : Sweep α} {span : RadialSpan} {start finish : α}
    (h : sweep.HasRays span start finish) : sweep.ray span.startRay = start := by
  rw [ray, Array.getD_eq_getD_getElem?, h.start, Option.getD_some]

theorem HasRays.ray_endRay [Scalar α] {sweep : Sweep α} {span : RadialSpan} {start finish : α}
    (h : sweep.HasRays span start finish) : sweep.ray span.endRay = finish := by
  rw [ray, Array.getD_eq_getD_getElem?, h.finish, Option.getD_some]

theorem span_ofBoundaries {extents : List (Extent α)} {boundaries : List (Boundary α)}
    (hlength : boundaries.length = extents.length) {i : Nat} {extent : Extent α}
    {before behind : Boundary α} (hextent : extents[i]? = some extent)
    (hbefore : boundaries[(i + extents.length - 1) % extents.length]? = some before)
    (hbehind : boundaries[i]? = some behind) :
    ∃ span, (ofBoundaries extents boundaries).spans[i]? = some span ∧
      span.radial = extent.radial ∧
      (ofBoundaries extents boundaries).HasRays span before.start behind.finish := by
  obtain ⟨last, hlast, -, hstart⟩ := rayNumbers_spec [] boundaries hbefore
  obtain ⟨next, hnext, hfinish, -⟩ := rayNumbers_spec [] boundaries hbehind
  have hi : i < (rayNumbers 0 boundaries).length := by
    rw [length_rayNumbers]
    exact (List.getElem?_eq_some_iff.1 hbehind).1
  have hpair : ((predecessors (rayNumbers 0 boundaries)).zip (rayNumbers 0 boundaries))[i]? =
      some (last, next) := by
    rw [List.getElem?_zip_eq_some, getElem?_predecessors hi, length_rayNumbers, hlength]
    exact ⟨hlast, hnext⟩
  refine ⟨⟨extent.radial, last.2, next.1⟩, ?_, rfl, ?_, ?_⟩
  · rw [ofBoundaries, List.getElem?_toArray, List.getElem?_zipWith, hextent, hpair]
  · rw [ofBoundaries, List.getElem?_toArray]
    exact hstart
  · rw [ofBoundaries, List.getElem?_toArray]
    exact hfinish

/-! ## Sweeps that are built -/

variable [Scalar α]

theorem mem_extents {radials : List (Radial α)} {extent : Extent α}
    (h : extent ∈ extents radials) :
    ∃ radial, radials[extent.radial]? = some radial ∧ 0 < radial.gates.size ∧
      Scalar.isFinite radial.azimuth = true ∧ extent.start = normalizeAzimuth radial.azimuth ∧
      extent.width = radial.width := by
  rw [extents, List.mem_mergeSort, List.mem_map] at h
  obtain ⟨⟨radial, i⟩, hradial, rfl⟩ := h
  obtain ⟨hmem, husable⟩ := List.mem_filter.1 hradial
  rw [Bool.and_eq_true, decide_eq_true_eq] at husable
  exact ⟨radial, List.mem_zipIdx_iff_getElem?.1 hmem, husable.1, husable.2, rfl, rfl⟩

/-- Radials with the widths that they are drawn with. -/
def widened (extents : List (Extent α)) : List (Extent α) :=
  List.zipWith (fun extent next =>
    { extent with width := effectiveWidth extents.length extent next })
    extents (successors extents)

theorem drawn_eq (radials : List (Radial α)) : drawn radials = widened (extents radials) := rfl

theorem length_widened (extents : List (Extent α)) :
    (widened extents).length = extents.length := by
  rw [widened, List.length_zipWith, length_successors, Nat.min_self]

theorem getElem?_widened {extents : List (Extent α)} {i : Nat} {extent next : Extent α}
    (hextent : extents[i]? = some extent)
    (hnext : extents[(i + 1) % extents.length]? = some next) :
    (widened extents)[i]? =
      some { extent with width := effectiveWidth extents.length extent next } := by
  have hi := (List.getElem?_eq_some_iff.1 hextent).1
  rw [widened, List.getElem?_zipWith, getElem?_successors hi, hextent, hnext]

/-- Whether a radial has gates and a direction. -/
def isUsable (radial : Radial α) : Bool :=
  0 < radial.gates.size && Scalar.isFinite radial.azimuth

/-- The usable radials with their numbers, as they are given. -/
def usable (radials : List (Radial α)) : List (Extent α) :=
  (radials.zipIdx.filter fun (radial, _) => isUsable radial).map fun (radial, i) =>
    ⟨i, normalizeAzimuth radial.azimuth, radial.width⟩

theorem extents_eq (radials : List (Radial α)) :
    extents radials =
      (usable radials).mergeSort fun a b => Scalar.sortsBefore a.start b.start := rfl

/-- Radials whose starts are in order stay as they are given. -/
theorem drawn_of_pairwise {radials : List (Radial α)} {extents : List (Extent α)}
    (husable : usable radials = extents)
    (hsorted : extents.Pairwise fun a b => Scalar.sortsBefore a.start b.start = true) :
    drawn radials = widened extents := by
  rw [drawn_eq, extents_eq, husable, List.mergeSort_of_pairwise hsorted]

theorem length_drawn (radials : List (Radial α)) :
    (drawn radials).length = radials.countP isUsable := by
  calc (drawn radials).length
      = radials.zipIdx.countP (isUsable ∘ Prod.fst) := by
        rw [drawn_eq, length_widened, extents, List.length_mergeSort, List.length_map,
          ← List.countP_eq_length_filter]
        rfl
    _ = radials.countP isUsable := by rw [← List.countP_map, List.zipIdx_map_fst]

/-- Only the widths change. -/
theorem map_widened {β : Type} {f : Extent α → β}
    (hf : ∀ extent width, f { extent with width := width } = f extent) (extents : List (Extent α)) :
    (widened extents).map f = extents.map f := by
  have hlength : extents.length ≤ (successors extents).length := (length_successors extents).ge
  calc (widened extents).map f
      = (extents.zip (successors extents)).map (f ∘ Prod.fst) := by
        rw [widened, List.map_zipWith, List.map_zip_eq_zipWith]
        simp only [hf]
        rfl
    _ = extents.map f := by rw [← List.map_map, List.map_fst_zip hlength]

theorem map_start_widened (extents : List (Extent α)) :
    (widened extents).map (·.start) = extents.map (·.start) := map_widened (fun _ _ => rfl) extents

theorem mem_widened {extents : List (Extent α)} {extent : Extent α} (h : extent ∈ widened extents) :
    ∃ before ∈ extents, ∃ next ∈ extents,
      extent = { before with width := effectiveWidth extents.length before next } := by
  obtain ⟨i, hi⟩ := List.mem_iff_getElem?.1 h
  have hlt := (List.getElem?_eq_some_iff.1 hi).1
  rw [length_widened] at hlt
  have hnext : (i + 1) % extents.length < extents.length := Nat.mod_lt _ (by omega)
  rw [getElem?_widened (List.getElem?_eq_getElem hlt) (List.getElem?_eq_getElem hnext)] at hi
  exact ⟨extents[i], List.getElem_mem hlt, _, List.getElem_mem hnext, (Option.some.inj hi).symm⟩

/-- A radial that is drawn is one of the radials, and it has gates. -/
theorem mem_drawn {radials : List (Radial α)} {extent : Extent α} (h : extent ∈ drawn radials) :
    ∃ radial, radials[extent.radial]? = some radial ∧ 0 < radial.gates.size ∧
      extent.start = normalizeAzimuth radial.azimuth := by
  obtain ⟨before, hbefore, -, -, rfl⟩ := mem_widened h
  obtain ⟨radial, hfound, hgates, -, hazimuth, -⟩ := mem_extents hbefore
  exact ⟨radial, hfound, hgates, hazimuth⟩

/-- The sweep of radials as they are drawn. -/
def ofExtents (tolerance : α) : List (Extent α) → Sweep α
  | [] => ⟨#[], #[], #[]⟩
  | [e] => ⟨#[normalizeAzimuth e.start, normalizeAzimuth (e.start + e.width)],
      #[⟨e.radial, 0, 1⟩], #[e.start]⟩
  | extents =>
    ofBoundaries extents (List.zipWith (boundary tolerance) extents (successors extents))

theorem build_eq (radials : List (Radial α)) (tolerance : α) :
    build radials tolerance = ofExtents tolerance (drawn radials) := by
  rw [build]
  rcases drawn radials with _ | ⟨e, _ | ⟨next, rest⟩⟩
  · rfl
  · rfl
  · rfl

/-- The boundaries of a circle of radials, one behind each. -/
def boundaries (tolerance : α) (extents : List (Extent α)) : List (Boundary α) :=
  List.zipWith (boundary tolerance) extents (successors extents)

theorem length_boundaries (tolerance : α) (extents : List (Extent α)) :
    (boundaries tolerance extents).length = extents.length := by
  rw [boundaries, List.length_zipWith, length_successors, Nat.min_self]

theorem getElem?_boundaries {tolerance : α} {extents : List (Extent α)} {i : Nat}
    {extent next : Extent α} (hextent : extents[i]? = some extent)
    (hnext : extents[(i + 1) % extents.length]? = some next) :
    (boundaries tolerance extents)[i]? = some (boundary tolerance extent next) := by
  have hi := (List.getElem?_eq_some_iff.1 hextent).1
  rw [boundaries, List.getElem?_zipWith, getElem?_successors hi, hextent, hnext]

theorem ofExtents_of_two_le {tolerance : α} {extents : List (Extent α)}
    (htwo : 2 ≤ extents.length) :
    ofExtents tolerance extents = ofBoundaries extents (boundaries tolerance extents) := by
  rcases extents with _ | ⟨e, _ | ⟨next, rest⟩⟩
  · cases htwo
  · rw [List.length_singleton] at htwo
    omega
  · rfl

/-- The wedge of a radial on a circle of two at least. -/
theorem span_ofExtents (tolerance : α) {extents : List (Extent α)}
    (htwo : 2 ≤ extents.length) {i : Nat} {previous extent next : Extent α}
    (hprevious : extents[(i + extents.length - 1) % extents.length]? = some previous)
    (hextent : extents[i]? = some extent)
    (hnext : extents[(i + 1) % extents.length]? = some next) :
    ∃ span, (ofExtents tolerance extents).spans[i]? = some span ∧
      span.radial = extent.radial ∧
      (ofExtents tolerance extents).HasRays span (boundary tolerance previous extent).start
        (boundary tolerance extent next).finish := by
  have hi := (List.getElem?_eq_some_iff.1 hextent).1
  have hwrap : ((i + extents.length - 1) % extents.length + 1) % extents.length = i := by
    rw [Nat.mod_add_mod, Nat.sub_add_cancel (by omega), Nat.add_mod_right, Nat.mod_eq_of_lt hi]
  rw [ofExtents_of_two_le htwo]
  refine span_ofBoundaries (length_boundaries tolerance extents) hextent ?_
    (getElem?_boundaries hextent hnext)
  refine getElem?_boundaries hprevious ?_
  rw [hwrap]
  exact hextent

theorem nominalStarts_ofExtents (tolerance : α) (extents : List (Extent α)) :
    (ofExtents tolerance extents).nominalStarts = (extents.map (·.start)).toArray := by
  rcases extents with _ | ⟨e, _ | ⟨next, rest⟩⟩
  · rfl
  · rfl
  · rfl

theorem size_spans (tolerance : α) (extents : List (Extent α)) :
    (ofExtents tolerance extents).spans.size = extents.length := by
  rcases extents with _ | ⟨e, _ | ⟨next, rest⟩⟩
  · rfl
  · rfl
  · rw [ofExtents_of_two_le (by simp), ofBoundaries]
    simp [predecessors_eq_rotate, length_rayNumbers, length_boundaries]

/-- A mismatch is closed if it is no more than the tolerance, or zero if that is negative, and half
the width of either radial. -/
theorem closes_iff {tolerance : Float} {extent next : Extent Float} :
    Scalar.le (Scalar.abs (mismatch extent next)) (limit tolerance extent next) = true ↔
      Scalar.abs (clockwiseDelta extent.start next.start - extent.width) ≤
        Scalar.min (Scalar.min (Scalar.max tolerance 0.0) (extent.width * 0.5))
          (next.width * 0.5) := by
  have hzero : (Scalar.ofInt 0 : Float) = 0.0 := by decide +kernel
  have hhalf : (Scalar.ofInt 1 / Scalar.ofInt 2 : Float) = 0.5 := by decide +kernel
  rw [mismatch, limit, hzero, hhalf]
  exact decide_eq_true_iff

/-- A mismatch that is closed leaves one ray between two radials. -/
theorem start_boundary_eq_finish {tolerance : α} {extent next : Extent α}
    (hclosed : Scalar.le (Scalar.abs (mismatch extent next)) (limit tolerance extent next) = true) :
    (boundary tolerance extent next).start = (boundary tolerance extent next).finish := by
  rw [boundary, if_pos hclosed]
  rfl

/-- Where a mismatch is closed, a wedge ends at the ray at which the next one starts. -/
theorem wedges_meet {tolerance : α} {extents : List (Extent α)} (htwo : 2 ≤ extents.length)
    {i : Nat} {extent next : Extent α} (hneighbors : AreNeighbors extents i extent next)
    (hclosed : Scalar.le (Scalar.abs (mismatch extent next)) (limit tolerance extent next) = true) :
    let sweep := ofExtents tolerance extents
    ∃ span following, AreNeighbors sweep.spans.toList i span following ∧
      span.radial = extent.radial ∧ following.radial = next.radial ∧
      sweep.ray span.endRay = sweep.ray following.startRay := by
  intro sweep
  obtain ⟨hextent, hnext⟩ := hneighbors
  have hi := (List.getElem?_eq_some_iff.1 hextent).1
  have hback : ((i + 1) % extents.length + extents.length - 1) % extents.length = i := by
    rw [Nat.add_sub_assoc (by omega), Nat.mod_add_mod, Nat.add_assoc,
      Nat.add_sub_cancel' (by omega), Nat.add_mod_right, Nat.mod_eq_of_lt hi]
  have hbefore : (i + extents.length - 1) % extents.length < extents.length :=
    Nat.mod_lt _ (by omega)
  have hbehind : ((i + 1) % extents.length + 1) % extents.length < extents.length :=
    Nat.mod_lt _ (by omega)
  obtain ⟨span, hspan, hradial, hrays⟩ := span_ofExtents tolerance htwo
    (List.getElem?_eq_getElem hbefore) hextent hnext
  obtain ⟨following, hfollowing, hnextRadial, hnextRays⟩ := span_ofExtents tolerance htwo
    (hback.symm ▸ hextent) hnext (List.getElem?_eq_getElem hbehind)
  refine ⟨span, following, ⟨?_, ?_⟩, hradial, hnextRadial, ?_⟩
  · rw [Array.getElem?_toList]
    exact hspan
  · rw [Array.getElem?_toList, Array.length_toList, size_spans]
    exact hfollowing
  · rw [hrays.ray_endRay, hnextRays.ray_startRay, start_boundary_eq_finish hclosed]

theorem nominalStarts_build (radials : List (Radial α)) (tolerance : α) :
    (build radials tolerance).nominalStarts = ((extents radials).map (·.start)).toArray := by
  rw [build_eq, nominalStarts_ofExtents, drawn_eq, map_start_widened]

theorem size_spans_build (radials : List (Radial α)) (tolerance : α) :
    (build radials tolerance).spans.size = (extents radials).length := by
  rw [build_eq, size_spans, drawn_eq, length_widened]

theorem size_build_le (radials : List (Radial α)) (tolerance : α) :
    (build radials tolerance).spans.size ≤ radials.length := by
  rw [size_spans_build, extents, List.length_mergeSort, List.length_map]
  exact (List.length_filter_le _ _).trans List.length_zipIdx.le

/-- Every wedge of a sweep has a radial with gates and two rays of the sweep. -/
theorem mem_spans {radials : List (Radial α)} {tolerance : α} {span : RadialSpan}
    (h : span ∈ (build radials tolerance).spans) :
    (∃ radial, radials[span.radial]? = some radial) ∧
      ∃ start finish, (build radials tolerance).HasRays span start finish := by
  rw [build_eq] at h ⊢
  generalize hextents : drawn radials = extents at h ⊢
  have hmem : ∀ extent ∈ extents, ∃ radial, radials[extent.radial]? = some radial := by
    intro extent hextent
    obtain ⟨radial, hradial, -⟩ := mem_drawn (hextents ▸ hextent)
    exact ⟨radial, hradial⟩
  obtain ⟨i, hi⟩ := Array.mem_iff_getElem?.1 h
  have hlt : i < extents.length := by
    rw [← size_spans tolerance extents]
    exact (Array.getElem?_eq_some_iff.1 hi).1
  by_cases htwo : 2 ≤ extents.length
  · have hprevious : (i + extents.length - 1) % extents.length < extents.length :=
      Nat.mod_lt _ (by omega)
    have hnext : (i + 1) % extents.length < extents.length := Nat.mod_lt _ (by omega)
    obtain ⟨found, hfound, hradial, hrays⟩ := span_ofExtents tolerance htwo
      (List.getElem?_eq_getElem hprevious) (List.getElem?_eq_getElem hlt)
      (List.getElem?_eq_getElem hnext)
    obtain rfl := Option.some.inj (hfound.symm.trans hi)
    rw [hradial]
    exact ⟨hmem _ (List.getElem_mem hlt), _, _, hrays⟩
  · obtain ⟨extent, rfl⟩ := List.length_eq_one_iff.1 (show extents.length = 1 by omega)
    obtain rfl : i = 0 := by
      rw [List.length_singleton] at hlt
      omega
    obtain rfl := Option.some.inj hi
    exact ⟨hmem extent (List.mem_singleton_self extent), _, _, rfl, rfl⟩

end WeatherRadar.Geo.Sweep
