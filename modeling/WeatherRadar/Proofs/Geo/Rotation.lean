import WeatherRadar.Proofs.Azimuth
import WeatherRadar.Proofs.Geo.Rays
/-!
# Sweeps from another radial on

It makes no difference from which radial on a circle of radials is written down.  Its wedges and
rays are the same ones, and only the numbers change that they are counted with (`ofExtents_rotate`).
Neither does it matter in which direction north is: when all radials are turned, so are the rays
(`ofExtents_map`).
-/

namespace WeatherRadar.Geo

open AddCommGroup

/-- A wedge when radials and rays have other numbers. -/
def RadialSpan.renumber (place ray : Nat → Nat) (span : RadialSpan) : RadialSpan :=
  ⟨place span.radial, ray span.startRay, ray span.endRay⟩

namespace Sweep

/-! ## Neighbors -/

section Circle

variable {β γ : Type}

theorem successors_rotate (xs : List β) (n : Nat) :
    successors (xs.rotate n) = (successors xs).rotate n := by
  rw [successors_eq_rotate, successors_eq_rotate, List.rotate_rotate, List.rotate_rotate,
    Nat.add_comm]

theorem predecessors_rotate (xs : List β) (n : Nat) :
    predecessors (xs.rotate n) = (predecessors xs).rotate n := by
  rw [predecessors_eq_rotate, predecessors_eq_rotate, List.length_rotate, List.rotate_rotate,
    List.rotate_rotate, Nat.add_comm]

theorem successors_map (f : β → γ) (xs : List β) :
    successors (xs.map f) = (successors xs).map f := by
  rw [successors_eq_rotate, successors_eq_rotate, List.map_rotate]

theorem predecessors_map (f : β → γ) (xs : List β) :
    predecessors (xs.map f) = (predecessors xs).map f := by
  rw [predecessors_eq_rotate, predecessors_eq_rotate, List.length_map, List.map_rotate]

theorem eq_nil_or_singleton {xs : List β} (h : ¬ 2 ≤ xs.length) : xs = [] ∨ ∃ x, xs = [x] := by
  rcases xs with _ | ⟨x, _ | ⟨y, ys⟩⟩
  · exact Or.inl rfl
  · exact Or.inr ⟨x, rfl⟩
  · exact absurd (Nat.le_add_left 2 ys.length) h

theorem length_predecessors (xs : List β) : (predecessors xs).length = xs.length := by
  rw [predecessors_eq_rotate, List.length_rotate]

end Circle

/-! ## Numbers of rays -/

section Numbers

variable {α : Type}

/-- How many rays boundaries have. -/
def countRays (boundaries : List (Boundary α)) : Nat := (boundaries.flatMap Boundary.rays).length

theorem countRays_cons (boundary : Boundary α) (boundaries : List (Boundary α)) :
    countRays (boundary :: boundaries) = boundary.rays.length + countRays boundaries := by
  rw [countRays, List.flatMap_cons, List.length_append, countRays]

theorem rays_length_pos (boundary : Boundary α) : 0 < boundary.rays.length := by
  cases boundary with
  | shared ray => exact Nat.one_pos
  | apart finish start => exact Nat.two_pos

theorem rayNumbers_append (next : Nat) (first rest : List (Boundary α)) :
    rayNumbers next (first ++ rest) =
      rayNumbers next first ++ rayNumbers (next + countRays first) rest := by
  induction first generalizing next with
  | nil => rfl
  | cons boundary first ih =>
      rw [List.cons_append, rayNumbers_cons, rayNumbers_cons, ih, countRays_cons, Nat.add_assoc,
        List.cons_append]

theorem rayNumbers_add (next more : Nat) (boundaries : List (Boundary α)) :
    rayNumbers (next + more) boundaries =
      (rayNumbers next boundaries).map (Prod.map (· + more) (· + more)) := by
  induction boundaries generalizing next with
  | nil => rfl
  | cons boundary boundaries ih =>
      have hpos := rays_length_pos boundary
      rw [rayNumbers_cons, rayNumbers_cons, List.map_cons, ← ih, Prod.map_apply,
        Nat.add_right_comm next more, ← Nat.sub_add_comm (by omega)]

theorem rayNumbers_lt {next : Nat} {boundaries : List (Boundary α)} {numbers : Nat × Nat}
    (h : numbers ∈ rayNumbers next boundaries) :
    numbers.1 < next + countRays boundaries ∧ numbers.2 < next + countRays boundaries := by
  induction boundaries generalizing next with
  | nil => cases h
  | cons boundary boundaries ih =>
      have hpos := rays_length_pos boundary
      rw [rayNumbers_cons] at h
      rw [countRays_cons, ← Nat.add_assoc]
      rcases List.mem_cons.1 h with rfl | hrest
      · constructor
        · show next < _
          omega
        · show next + boundary.rays.length - 1 < _
          omega
      · exact ih hrest

theorem countRays_append (first rest : List (Boundary α)) :
    countRays (first ++ rest) = countRays first + countRays rest := by
  rw [countRays, List.flatMap_append, List.length_append, countRays, countRays]

/-- The number that a ray has among all rays when they are counted from another one on. -/
def recount (firstRay count ray : Nat) : Nat := (ray + firstRay) % count

theorem rayNumbers_append_comm (first rest : List (Boundary α)) :
    (rayNumbers 0 (rest ++ first)).map
        (Prod.map (recount (countRays first) (countRays (first ++ rest)))
          (recount (countRays first) (countRays (first ++ rest)))) =
      rayNumbers (countRays first) rest ++ rayNumbers 0 first := by
  rw [rayNumbers_append, List.map_append, countRays_append, Nat.zero_add]
  congr 1
  · -- the rays that stood behind
    rw [← Nat.zero_add (countRays first), rayNumbers_add, Nat.zero_add]
    refine List.map_congr_left fun numbers hnumbers => ?_
    obtain ⟨hfinish, hstart⟩ := rayNumbers_lt hnumbers
    refine Prod.ext ?_ ?_
    · exact Nat.mod_eq_of_lt (by omega)
    · exact Nat.mod_eq_of_lt (by omega)
  · -- the rays that stood in front
    rw [← Nat.zero_add (countRays rest), rayNumbers_add, Nat.zero_add, List.map_map]
    refine (List.map_congr_left fun numbers hnumbers => ?_).trans (List.map_id _)
    obtain ⟨hfinish, hstart⟩ := rayNumbers_lt hnumbers
    have hback : ∀ ray < countRays first,
        recount (countRays first) (countRays first + countRays rest) (ray + countRays rest) =
          ray := by
      intro ray hray
      rw [recount, Nat.add_assoc, Nat.add_comm (countRays rest), Nat.add_mod_right,
        Nat.mod_eq_of_lt (by omega)]
    exact Prod.ext (hback _ (by omega)) (hback _ (by omega))

theorem rayNumbers_rotate {boundaries : List (Boundary α)} {n : Nat} (hn : n ≤ boundaries.length) :
    (rayNumbers 0 (boundaries.rotate n)).map
        (Prod.map (recount (countRays (boundaries.take n)) (countRays boundaries))
          (recount (countRays (boundaries.take n)) (countRays boundaries))) =
      (rayNumbers 0 boundaries).rotate n := by
  have hsplit : rayNumbers 0 boundaries = rayNumbers 0 (boundaries.take n) ++
      rayNumbers (countRays (boundaries.take n)) (boundaries.drop n) := by
    rw [← Nat.zero_add (countRays _), ← rayNumbers_append, List.take_append_drop]
  have hmoved := rayNumbers_append_comm (boundaries.take n) (boundaries.drop n)
  have hrotate := List.rotate_append_length_eq (rayNumbers 0 (boundaries.take n))
    (rayNumbers (countRays (boundaries.take n)) (boundaries.drop n))
  rw [List.take_append_drop, ← List.rotate_eq_drop_append_take hn] at hmoved
  rw [length_rayNumbers, List.length_take, Nat.min_eq_left hn, ← hsplit] at hrotate
  exact hmoved.trans hrotate.symm

theorem flatMap_rays_rotate {boundaries : List (Boundary α)} {n : Nat}
    (hn : n ≤ boundaries.length) :
    (boundaries.rotate n).flatMap Boundary.rays =
      (boundaries.flatMap Boundary.rays).rotate (countRays (boundaries.take n)) := by
  have hsplit : boundaries.flatMap Boundary.rays =
      (boundaries.take n).flatMap Boundary.rays ++ (boundaries.drop n).flatMap Boundary.rays := by
    rw [← List.flatMap_append, List.take_append_drop]
  rw [hsplit, countRays, List.rotate_append_length_eq, List.rotate_eq_drop_append_take hn,
    List.flatMap_append]

end Numbers

/-! ## Wedges of radials that are turned -/

/-- A radial with another number that is turned. -/
def Extent.move (place : Nat → Nat) (turn : Rat → Rat) (extent : Extent Rat) : Extent Rat :=
  ⟨place extent.radial, turn extent.start, extent.width⟩

def Boundary.map (turn : Rat → Rat) : Boundary Rat → Boundary Rat
  | shared ray => shared (turn ray)
  | apart finish start => apart (turn finish) (turn start)

/-- The wedges of radials with the numbers of the rays behind each. -/
def wedges (extents : List (Extent Rat)) (numbers : List (Nat × Nat)) : List RadialSpan :=
  List.zipWith (fun extent ((_, startRay), (endRay, _)) =>
    (⟨extent.radial, startRay, endRay⟩ : RadialSpan)) extents ((predecessors numbers).zip numbers)

theorem spans_ofBoundaries (extents : List (Extent Rat)) (boundaries : List (Boundary Rat)) :
    (ofBoundaries extents boundaries).spans.toList = wedges extents (rayNumbers 0 boundaries) := rfl

theorem wedges_rotate {extents : List (Extent Rat)} {numbers : List (Nat × Nat)}
    (hlength : numbers.length = extents.length) (n : Nat) :
    wedges (extents.rotate n) (numbers.rotate n) = (wedges extents numbers).rotate n := by
  have hzip : ((predecessors numbers).zip numbers).rotate n =
      ((predecessors numbers).rotate n).zip (numbers.rotate n) :=
    List.zipWith_rotate_distrib Prod.mk _ _ n (length_predecessors numbers)
  rw [wedges, predecessors_rotate, ← hzip]
  refine (List.zipWith_rotate_distrib _ _ _ n ?_).symm
  rw [List.length_zip, length_predecessors, Nat.min_self, hlength]

theorem wedges_map (place ray : Nat → Nat) (turn : Rat → Rat) (extents : List (Extent Rat))
    (numbers : List (Nat × Nat)) :
    wedges (extents.map (Extent.move place turn)) (numbers.map (Prod.map ray ray)) =
      (wedges extents numbers).map (RadialSpan.renumber place ray) := by
  rw [wedges, wedges, predecessors_map, List.zip_map, List.zipWith_map, List.map_zipWith]
  rfl

theorem flatMap_rays_map (turn : Rat → Rat) (boundaries : List (Boundary Rat)) :
    (boundaries.map (Boundary.map turn)).flatMap Boundary.rays =
      (boundaries.flatMap Boundary.rays).map turn := by
  rw [List.flatMap_map, List.map_flatMap]
  congr 1
  funext boundary
  cases boundary with
  | shared ray => rfl
  | apart finish start => rfl

theorem rayNumbers_map (turn : Rat → Rat) (next : Nat) (boundaries : List (Boundary Rat)) :
    rayNumbers next (boundaries.map (Boundary.map turn)) = rayNumbers next boundaries := by
  induction boundaries generalizing next with
  | nil => rfl
  | cons boundary boundaries ih =>
      cases boundary with
      | shared ray => rw [List.map_cons, Boundary.map, rayNumbers, ih, rayNumbers]
      | apart finish start => rw [List.map_cons, Boundary.map, rayNumbers, ih, rayNumbers]

/-- What turns azimuths keeps the ways between them. -/
structure IsTurn (turn : Rat → Rat) : Prop where
  normalizeAzimuth_add (x way : Rat) :
    normalizeAzimuth (turn x + way) = turn (normalizeAzimuth (x + way))
  clockwiseDelta (x y : Rat) : clockwiseDelta (turn x) (turn y) = clockwiseDelta x y

theorem IsTurn.normalizeAzimuth {turn : Rat → Rat} (h : IsTurn turn) (x : Rat) :
    normalizeAzimuth (turn x) = turn (normalizeAzimuth x) := by
  have hadd := h.normalizeAzimuth_add x 0
  rwa [add_zero, add_zero] at hadd

theorem isTurn_id : IsTurn id := ⟨fun _ _ => rfl, fun _ _ => rfl⟩

/-- The azimuth that a turn by `c` leads to. -/
def turnAzimuth (c azimuth : Rat) : Rat := normalizeAzimuth (azimuth + c)

theorem isTurn_turnAzimuth (c : Rat) : IsTurn (turnAzimuth c) := by
  refine ⟨fun x way => ?_, fun x y => ?_⟩
  · refine normalizeAzimuth_eq_normalizeAzimuth_iff.2 ?_
    refine ((normalizeAzimuth_modEq (x + c)).add_right way).trans ?_
    rw [add_right_comm]
    exact ((normalizeAzimuth_modEq (x + way)).add_right c).symm
  · rw [turnAzimuth, turnAzimuth, clockwiseDelta_congr (normalizeAzimuth_modEq (x + c))
      (normalizeAzimuth_modEq (y + c)), clockwiseDelta_add_right]

section Turned

variable {turn : Rat → Rat} (hturn : IsTurn turn) (place : Nat → Nat)
include hturn

theorem widened_map (extents : List (Extent Rat)) :
    widened (extents.map (Extent.move place turn)) =
      (widened extents).map (Extent.move place turn) := by
  rw [widened, widened, successors_map, List.zipWith_map, List.map_zipWith, List.length_map]
  congr 1
  funext extent next
  simp only [Extent.move, effectiveWidth, hturn.clockwiseDelta]

theorem boundary_move (tolerance : Rat) (extent next : Extent Rat) :
    boundary tolerance (extent.move place turn) (next.move place turn) =
      (boundary tolerance extent next).map turn := by
  simp only [boundary, mismatch, limit, Extent.move, hturn.clockwiseDelta, add_assoc,
    hturn.normalizeAzimuth, hturn.normalizeAzimuth_add]
  split_ifs
  · rfl
  · rfl

theorem boundaries_map (tolerance : Rat) (extents : List (Extent Rat)) :
    boundaries tolerance (extents.map (Extent.move place turn)) =
      (boundaries tolerance extents).map (Boundary.map turn) := by
  rw [boundaries, boundaries, successors_map, List.zipWith_map, List.map_zipWith]
  congr 1
  funext extent next
  exact boundary_move hturn place tolerance extent next

/-- The sweep of radials that are turned is the turned sweep. -/
theorem ofExtents_map (tolerance : Rat) (extents : List (Extent Rat)) :
    (ofExtents tolerance (extents.map (Extent.move place turn))).rays.toList =
        (ofExtents tolerance extents).rays.toList.map turn ∧
      (ofExtents tolerance (extents.map (Extent.move place turn))).spans.toList =
        (ofExtents tolerance extents).spans.toList.map (RadialSpan.renumber place id) ∧
      (ofExtents tolerance (extents.map (Extent.move place turn))).nominalStarts.toList =
        (ofExtents tolerance extents).nominalStarts.toList.map turn := by
  have hstarts : (ofExtents tolerance (extents.map (Extent.move place turn))).nominalStarts.toList =
      (ofExtents tolerance extents).nominalStarts.toList.map turn := by
    rw [nominalStarts_ofExtents, nominalStarts_ofExtents, List.map_map, List.map_map]
    rfl
  by_cases htwo : 2 ≤ extents.length
  · rw [ofExtents_of_two_le htwo, ofExtents_of_two_le (by rwa [List.length_map])] at *
    refine ⟨?_, ?_, hstarts⟩
    · rw [boundaries_map hturn]
      exact flatMap_rays_map turn _
    · rw [spans_ofBoundaries, boundaries_map hturn, rayNumbers_map, spans_ofBoundaries,
        ← wedges_map, Prod.map_id, List.map_id]
  · refine ⟨?_, ?_, hstarts⟩
    · obtain rfl | ⟨extent, rfl⟩ := eq_nil_or_singleton htwo
      · rfl
      · simp only [ofExtents, List.map_cons, List.map_nil, Extent.move, hturn.normalizeAzimuth,
          hturn.normalizeAzimuth_add]
    · obtain rfl | ⟨extent, rfl⟩ := eq_nil_or_singleton htwo
      · rfl
      · rfl

end Turned

/-! ## Wedges from another radial on -/

theorem widened_rotate (extents : List (Extent Rat)) (n : Nat) :
    widened (extents.rotate n) = (widened extents).rotate n := by
  rw [widened, successors_rotate, List.length_rotate, ← List.zipWith_rotate_distrib, widened]
  rw [length_successors]

theorem boundaries_rotate (tolerance : Rat) (extents : List (Extent Rat)) (n : Nat) :
    boundaries tolerance (extents.rotate n) = (boundaries tolerance extents).rotate n := by
  rw [boundaries, successors_rotate, ← List.zipWith_rotate_distrib, boundaries]
  rw [length_successors]

/-- The sweep of radials from another one on has the same rays and wedges. -/
theorem ofExtents_rotate (tolerance : Rat) (extents : List (Extent Rat)) {n : Nat}
    (hn : n ≤ extents.length) :
    ∃ firstRay,
      (ofExtents tolerance (extents.rotate n)).rays.toList =
        (ofExtents tolerance extents).rays.toList.rotate firstRay ∧
      (ofExtents tolerance (extents.rotate n)).spans.toList.map
          (RadialSpan.renumber id (recount firstRay (ofExtents tolerance extents).rays.size)) =
        (ofExtents tolerance extents).spans.toList.rotate n ∧
      (ofExtents tolerance (extents.rotate n)).nominalStarts.toList =
        (ofExtents tolerance extents).nominalStarts.toList.rotate n := by
  have hstarts : (ofExtents tolerance (extents.rotate n)).nominalStarts.toList =
      (ofExtents tolerance extents).nominalStarts.toList.rotate n := by
    rw [nominalStarts_ofExtents, nominalStarts_ofExtents, List.map_rotate]
  by_cases htwo : 2 ≤ extents.length
  · have hboundaries : n ≤ (boundaries tolerance extents).length := by
      rwa [length_boundaries]
    rw [ofExtents_of_two_le htwo, ofExtents_of_two_le (by rwa [List.length_rotate])] at *
    refine ⟨countRays ((boundaries tolerance extents).take n), ?_, ?_, hstarts⟩
    · rw [boundaries_rotate]
      exact flatMap_rays_rotate hboundaries
    · rw [spans_ofBoundaries, boundaries_rotate, spans_ofBoundaries]
      have hsize : (ofBoundaries extents (boundaries tolerance extents)).rays.size =
          countRays (boundaries tolerance extents) := rfl
      have hlength : (rayNumbers 0 (boundaries tolerance extents)).length = extents.length := by
        rw [length_rayNumbers, length_boundaries]
      rw [hsize, ← wedges_rotate hlength, ← rayNumbers_rotate hboundaries,
        ← wedges_map id _ id (extents.rotate n)]
      exact congrArg (wedges · _) (List.map_id (extents.rotate n))
  · refine ⟨0, ?_, ?_, hstarts⟩
    · obtain rfl | ⟨extent, rfl⟩ := eq_nil_or_singleton htwo
      · rw [List.rotate_nil, List.rotate_zero]
      · rw [List.rotate_singleton, List.rotate_zero]
    · obtain rfl | ⟨extent, rfl⟩ := eq_nil_or_singleton htwo
      · rw [List.rotate_nil]
        exact (List.rotate_nil n).symm
      · rw [List.rotate_singleton]
        exact (List.rotate_singleton _ n).symm

/-! ## Turned sweeps -/

/-- The wedge of a sweep that a wedge of the turned sweep was. -/
def wedgeBefore (sweep : Sweep Rat) (place : Nat → Nat) (firstRay : Nat) (span : RadialSpan) :
    RadialSpan :=
  span.renumber place (recount firstRay sweep.rays.size)

/-- One sweep is another one turned, with its wedges and rays counted from other ones on and with
other numbers of the radials.  What number a radial had before is told by `place`. -/
structure IsTurned (turn : Rat → Rat) (place : Nat → Nat) (firstSpan firstRay : Nat)
    (sweep turned : Sweep Rat) : Prop where
  rays : turned.rays.toList = (sweep.rays.toList.map turn).rotate firstRay
  spans : turned.spans.toList.map (sweep.wedgeBefore place firstRay) =
    sweep.spans.toList.rotate firstSpan
  nominalStarts :
    turned.nominalStarts.toList = (sweep.nominalStarts.toList.map turn).rotate firstSpan

/-- The sweep of radials that are turned, from another one on and with other numbers. -/
theorem isTurned_ofExtents {turn : Rat → Rat} (hturn : IsTurn turn) (place : Nat → Nat)
    (tolerance : Rat) {extents turned : List (Extent Rat)} {n : Nat} (hn : n ≤ extents.length)
    (h : turned.map (Extent.move place id) = (extents.map (Extent.move id turn)).rotate n) :
    ∃ firstRay, IsTurned turn place n firstRay (ofExtents tolerance extents)
      (ofExtents tolerance turned) := by
  obtain ⟨hrays, hspans, hstarts⟩ := ofExtents_map isTurn_id place tolerance turned
  obtain ⟨hrays', hspans', hstarts'⟩ := ofExtents_map hturn id tolerance extents
  obtain ⟨firstRay, hrays'', hspans'', hstarts''⟩ := ofExtents_rotate tolerance
    (extents.map (Extent.move id turn)) (hn.trans (List.length_map _).ge)
  have hsize : (ofExtents tolerance (extents.map (Extent.move id turn))).rays.size =
      (ofExtents tolerance extents).rays.size := by
    rw [← Array.length_toList, hrays', List.length_map, Array.length_toList]
  have hsame : ∀ spans : List RadialSpan, spans.map (RadialSpan.renumber id id) = spans :=
    List.map_id
  refine ⟨firstRay, ?_, ?_, ?_⟩
  · rw [← hrays', ← hrays'', ← h, hrays, List.map_id]
  · rw [h] at hspans
    rw [hspans, hsize, List.map_map, hspans', hsame] at hspans''
    exact hspans''
  · rw [← hstarts', ← hstarts'', ← h, hstarts, List.map_id]

end Sweep

end WeatherRadar.Geo
