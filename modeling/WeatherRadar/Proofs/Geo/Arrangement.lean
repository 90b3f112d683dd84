import Mathlib.Data.List.Nodup
import WeatherRadar.Proofs.Geo.Rotation
import WeatherRadar.Proofs.Number.FloatRemainder
/-!
# How the wedges of a sweep are arranged

The rays of a sweep are counted boundary by boundary.  So a wedge can only end at the ray where the
next one starts (`ofBoundaries_meets_iff`), and every ray belongs to a wedge.  The wedges are those
of the usable radials, in the order of their starts; radials that start alike stay in the order in
which they were given (`comesBefore_extents`).  `build_arranged` puts both together.
-/

namespace WeatherRadar.Geo.Sweep

open Level3

/-! ## Numbers of rays -/

section Numbers

variable {α : Type} {boundaries : List (Boundary α)}

/-- How many rays there are before a boundary. -/
def raysBefore (boundaries : List (Boundary α)) (i : Nat) : Nat := countRays (boundaries.take i)

def Boundary.isShared : Boundary α → Bool
  | shared _ => true
  | apart _ _ => false

theorem Boundary.rays_length (boundary : Boundary α) :
    boundary.rays.length = if boundary.isShared then 1 else 2 := by
  cases boundary with
  | shared ray => rfl
  | apart finish start => rfl

theorem raysBefore_zero (boundaries : List (Boundary α)) : raysBefore boundaries 0 = 0 := by
  unfold raysBefore countRays
  rfl

theorem raysBefore_length (boundaries : List (Boundary α)) :
    raysBefore boundaries boundaries.length = countRays boundaries := by
  unfold raysBefore
  rw [List.take_length]

theorem raysBefore_succ {i : Nat} {boundary : Boundary α} (hi : boundaries[i]? = some boundary) :
    raysBefore boundaries (i + 1) =
      raysBefore boundaries i + if boundary.isShared then 1 else 2 := by
  unfold raysBefore
  rw [List.take_add_one, hi, Option.toList_some, countRays_append, countRays_cons,
    boundary.rays_length]
  rfl

/-- A boundary has the numbers of its first ray and of its last one. -/
theorem getElem?_rayNumbers {i : Nat} (hi : i < boundaries.length) :
    (rayNumbers 0 boundaries)[i]? =
      some (raysBefore boundaries i, raysBefore boundaries (i + 1) - 1) := by
  have hsplit : rayNumbers 0 boundaries = rayNumbers 0 (boundaries.take i) ++
      rayNumbers (raysBefore boundaries i) (boundaries.drop i) := by
    conv_lhs => rw [← List.take_append_drop i boundaries, rayNumbers_append, Nat.zero_add]
    rfl
  have hbefore : (rayNumbers 0 (boundaries.take i)).length = i := by
    rw [length_rayNumbers, List.length_take_of_le (by omega)]
  rw [hsplit, List.getElem?_append_right (by omega), hbefore, Nat.sub_self,
    List.drop_eq_getElem_cons hi, rayNumbers_cons, List.getElem?_cons_zero, Boundary.rays_length,
    ← raysBefore_succ (List.getElem?_eq_getElem hi)]

theorem raysBefore_lt_succ {i : Nat} (hi : i < boundaries.length) :
    raysBefore boundaries i < raysBefore boundaries (i + 1) := by
  rw [raysBefore_succ (List.getElem?_eq_getElem hi)]
  split <;> omega

theorem raysBefore_lt {i j : Nat} (hij : i < j) (hj : j ≤ boundaries.length) :
    raysBefore boundaries i < raysBefore boundaries j := by
  induction j with
  | zero => omega
  | succ j ih =>
      have hstep : raysBefore boundaries j < raysBefore boundaries (j + 1) :=
        raysBefore_lt_succ (by omega)
      by_cases hlast : i = j
      · rwa [hlast]
      · have hbefore := ih (by omega) (by omega)
        omega

theorem raysBefore_le {i j : Nat} (hij : i ≤ j) (hj : j ≤ boundaries.length) :
    raysBefore boundaries i ≤ raysBefore boundaries j := by
  by_cases heq : i = j
  · rw [heq]
  · exact Nat.le_of_lt (raysBefore_lt (by omega) hj)

theorem raysBefore_inj {i j : Nat} (hi : i ≤ boundaries.length) (hj : j ≤ boundaries.length) :
    raysBefore boundaries i = raysBefore boundaries j ↔ i = j := by
  constructor
  · intro heq
    by_contra hne
    rcases Nat.lt_or_gt_of_ne hne with hlt | hlt
    · have := raysBefore_lt hlt hj
      omega
    · have := raysBefore_lt hlt hi
      omega
  · intro heq
    rw [heq]

/-- The first ray of a boundary is the last one of another only if it is the same boundary, and its
only ray. -/
theorem first_eq_last_iff {i k : Nat} {boundary : Boundary α} (hi : boundaries[i]? = some boundary)
    (hk : k < boundaries.length) :
    raysBefore boundaries i = raysBefore boundaries (k + 1) - 1 ↔
      i = k ∧ boundary.isShared = true := by
  have hilt := (List.getElem?_eq_some_iff.1 hi).1
  have hstep := raysBefore_succ hi
  rcases Nat.lt_trichotomy i k with hlt | rfl | hlt
  · have hbelow := raysBefore_lt hlt (Nat.le_of_lt hk)
    have hnext := raysBefore_lt_succ hk
    omega
  · cases hshared : boundary.isShared with
    | true =>
        rw [hshared, if_pos rfl] at hstep
        simp only [and_self, iff_true]
        omega
    | false =>
        rw [hshared, if_neg (by decide)] at hstep
        simp only [Bool.false_eq_true, and_false, iff_false]
        omega
  · have hnext := raysBefore_lt_succ hk
    have habove : raysBefore boundaries (k + 1) ≤ raysBefore boundaries i :=
      raysBefore_le hlt (Nat.le_of_lt hilt)
    omega

/-- Every ray is the first or the last one of a boundary. -/
theorem exists_boundary {ray n : Nat} (hn : n ≤ boundaries.length)
    (hray : ray < raysBefore boundaries n) :
    ∃ i < n, ray = raysBefore boundaries i ∨ ray = raysBefore boundaries (i + 1) - 1 := by
  induction n with
  | zero =>
      rw [raysBefore_zero] at hray
      omega
  | succ n ih =>
      by_cases hbefore : ray < raysBefore boundaries n
      · obtain ⟨i, hi, hplace⟩ := ih (by omega) hbefore
        exact ⟨i, by omega, hplace⟩
      · refine ⟨n, by omega, ?_⟩
        have hstep := raysBefore_succ (List.getElem?_eq_getElem hn)
        split at hstep <;> omega

theorem countRays_add_countP (boundaries : List (Boundary α)) :
    countRays boundaries + boundaries.countP Boundary.isShared = 2 * boundaries.length := by
  induction boundaries with
  | nil => rfl
  | cons boundary boundaries ih =>
      rw [countRays_cons, List.countP_cons, boundary.rays_length, List.length_cons]
      split <;> omega

end Numbers

/-! ## Wedges between neighbors -/

section Wedges

variable {α : Type} {extents : List (Extent α)} {boundaries : List (Boundary α)}

/-- A wedge starts at the last ray of the boundary before it, and ends at the first one of the
boundary behind it. -/
def wedgeOf (boundaries : List (Boundary α)) (extent : Extent α) (i : Nat) : RadialSpan :=
  ⟨extent.radial,
    raysBefore boundaries ((i + boundaries.length - 1) % boundaries.length + 1) - 1,
    raysBefore boundaries i⟩

theorem getElem?_ofBoundaries (hlength : boundaries.length = extents.length) {i : Nat}
    {extent : Extent α} (hextent : extents[i]? = some extent) :
    (ofBoundaries extents boundaries).spans[i]? = some (wedgeOf boundaries extent i) := by
  have hi := (List.getElem?_eq_some_iff.1 hextent).1
  have hbefore : (i + boundaries.length - 1) % boundaries.length < boundaries.length :=
    Nat.mod_lt _ (by omega)
  have hnumbers : i < (rayNumbers 0 boundaries).length := by
    rw [length_rayNumbers]
    omega
  have hpair : ((predecessors (rayNumbers 0 boundaries)).zip (rayNumbers 0 boundaries))[i]? =
      some ((raysBefore boundaries ((i + boundaries.length - 1) % boundaries.length),
        raysBefore boundaries ((i + boundaries.length - 1) % boundaries.length + 1) - 1),
        (raysBefore boundaries i, raysBefore boundaries (i + 1) - 1)) := by
    rw [List.getElem?_zip_eq_some, getElem?_predecessors hnumbers, length_rayNumbers,
      getElem?_rayNumbers hbefore, getElem?_rayNumbers (by omega)]
    exact ⟨rfl, rfl⟩
  rw [ofBoundaries, List.getElem?_toArray, List.getElem?_zipWith, hextent, hpair]
  rfl

theorem size_rays_ofBoundaries (extents : List (Extent α)) (boundaries : List (Boundary α)) :
    (ofBoundaries extents boundaries).rays.size = countRays boundaries := by
  unfold ofBoundaries countRays
  rw [List.size_toArray]

variable (hlength : boundaries.length = extents.length)
include hlength

theorem exists_of_span {i : Nat} {span : RadialSpan}
    (hspan : (ofBoundaries extents boundaries).spans[i]? = some span) :
    ∃ extent, extents[i]? = some extent ∧ span = wedgeOf boundaries extent i := by
  have hi : i < extents.length := by
    have hlt := (Array.getElem?_eq_some_iff.1 hspan).1
    simp only [ofBoundaries, List.size_toArray, List.length_zipWith] at hlt
    omega
  have hfound := getElem?_ofBoundaries hlength (List.getElem?_eq_getElem hi)
  exact ⟨extents[i], List.getElem?_eq_getElem hi, Option.some.inj (hspan.symm.trans hfound)⟩

/-- A wedge can end where the next one starts, and nowhere else where one does. -/
theorem ofBoundaries_meets_iff {i j : Nat} {span other : RadialSpan} {boundary : Boundary α}
    (hspan : (ofBoundaries extents boundaries).spans[i]? = some span)
    (hother : (ofBoundaries extents boundaries).spans[j]? = some other)
    (hboundary : boundaries[i]? = some boundary) :
    span.endRay = other.startRay ↔
      j = (i + 1) % boundaries.length ∧ boundary.isShared = true := by
  obtain ⟨extent, hextent, rfl⟩ := exists_of_span hlength hspan
  obtain ⟨extent', hextent', rfl⟩ := exists_of_span hlength hother
  have hi := (List.getElem?_eq_some_iff.1 hextent).1
  have hj := (List.getElem?_eq_some_iff.1 hextent').1
  rw [← before_eq_iff (by omega) (by omega)]
  exact first_eq_last_iff hboundary (Nat.mod_lt _ (by omega))

theorem endRay_inj {i j : Nat} {span other : RadialSpan}
    (hspan : (ofBoundaries extents boundaries).spans[i]? = some span)
    (hother : (ofBoundaries extents boundaries).spans[j]? = some other)
    (hsame : span.endRay = other.endRay) : i = j := by
  obtain ⟨extent, hextent, rfl⟩ := exists_of_span hlength hspan
  obtain ⟨extent', hextent', rfl⟩ := exists_of_span hlength hother
  have hi := (List.getElem?_eq_some_iff.1 hextent).1
  have hj := (List.getElem?_eq_some_iff.1 hextent').1
  exact (raysBefore_inj (by omega) (by omega)).1 hsame

theorem startRay_inj {i j : Nat} {span other : RadialSpan}
    (hspan : (ofBoundaries extents boundaries).spans[i]? = some span)
    (hother : (ofBoundaries extents boundaries).spans[j]? = some other)
    (hsame : span.startRay = other.startRay) : i = j := by
  obtain ⟨extent, hextent, rfl⟩ := exists_of_span hlength hspan
  obtain ⟨extent', hextent', rfl⟩ := exists_of_span hlength hother
  have hi := (List.getElem?_eq_some_iff.1 hextent).1
  have hj := (List.getElem?_eq_some_iff.1 hextent').1
  have hbefore : (i + boundaries.length - 1) % boundaries.length < boundaries.length :=
    Nat.mod_lt _ (by omega)
  have hbefore' : (j + boundaries.length - 1) % boundaries.length < boundaries.length :=
    Nat.mod_lt _ (by omega)
  have hstep := raysBefore_lt_succ hbefore
  have hstep' := raysBefore_lt_succ hbefore'
  -- Both are one less than a positive number of rays.
  have hcount : raysBefore boundaries ((i + boundaries.length - 1) % boundaries.length + 1) =
      raysBefore boundaries ((j + boundaries.length - 1) % boundaries.length + 1) := by
    unfold wedgeOf at hsame
    dsimp only at hsame
    omega
  have hplace := (raysBefore_inj (by omega) (by omega)).1 hcount
  have hbehind := (before_eq_iff hbefore (by omega)).1 (Nat.succ.inj hplace)
  have hbehind' := (before_eq_iff hbefore (by omega)).1 (rfl : _ = (i + boundaries.length - 1) % _)
  rw [hbehind, ← hbehind']

theorem rays_lt_ofBoundaries {span : RadialSpan}
    (hspan : span ∈ (ofBoundaries extents boundaries).spans) :
    span.startRay < countRays boundaries ∧ span.endRay < countRays boundaries := by
  obtain ⟨i, hi⟩ := Array.mem_iff_getElem?.1 hspan
  obtain ⟨extent, hextent, rfl⟩ := exists_of_span hlength hi
  have hlt := (List.getElem?_eq_some_iff.1 hextent).1
  have hbefore : (i + boundaries.length - 1) % boundaries.length < boundaries.length :=
    Nat.mod_lt _ (by omega)
  have hstep := raysBefore_lt_succ hbefore
  have hall : raysBefore boundaries ((i + boundaries.length - 1) % boundaries.length + 1) ≤
      raysBefore boundaries boundaries.length := raysBefore_le hbefore (Nat.le_refl _)
  rw [← raysBefore_length]
  constructor
  · show raysBefore boundaries _ - 1 < _
    omega
  · exact raysBefore_lt (by omega) (Nat.le_refl _)

theorem exists_wedge {ray : Nat} (hray : ray < countRays boundaries) :
    ∃ span ∈ (ofBoundaries extents boundaries).spans, span.startRay = ray ∨ span.endRay = ray := by
  rw [← raysBefore_length] at hray
  obtain ⟨i, hi, hplace⟩ := exists_boundary (Nat.le_refl _) hray
  have hmem : ∀ k (hk : k < extents.length),
      wedgeOf boundaries extents[k] k ∈ (ofBoundaries extents boundaries).spans := fun k hk =>
    Array.mem_of_getElem? (getElem?_ofBoundaries hlength (List.getElem?_eq_getElem hk))
  rcases hplace with rfl | rfl
  · exact ⟨_, hmem i (by omega), Or.inr rfl⟩
  · -- The last ray of a boundary starts the wedge behind it.
    have hbehind : (i + 1) % boundaries.length < boundaries.length := Nat.mod_lt _ (by omega)
    refine ⟨_, hmem ((i + 1) % boundaries.length) (by omega), Or.inl ?_⟩
    unfold wedgeOf
    dsimp only
    rw [← (before_eq_iff hi hbehind).2 rfl]

end Wedges

/-! ## Usable radials in order -/

section Order

variable {α : Type} [Scalar α]

theorem pairwise_usable (radials : List (Radial α)) :
    (usable radials).Pairwise fun a b => a.radial < b.radial := by
  have hnumbers : radials.zipIdx.Pairwise fun a b => a.2 < b.2 := by
    rw [← List.pairwise_map, List.zipIdx_map_snd]
    exact List.pairwise_lt_range'
  exact List.pairwise_map.2 (hnumbers.filter _)

theorem nodup_radial_extents (radials : List (Radial α)) :
    ((extents radials).map (·.radial)).Nodup := by
  have hperm : ((extents radials).map (·.radial)).Perm ((usable radials).map (·.radial)) :=
    (List.mergeSort_perm _ _).map _
  rw [hperm.nodup_iff]
  exact List.pairwise_map.2 ((pairwise_usable radials).imp Nat.ne_of_lt)

theorem exists_extent_iff {radials : List (Radial α)} {i : Nat} :
    (∃ extent ∈ extents radials, extent.radial = i) ↔
      ∃ radial, radials[i]? = some radial ∧ isUsable radial = true := by
  constructor
  · rintro ⟨extent, hextent, rfl⟩
    obtain ⟨radial, hradial, hgates, hfinite, -⟩ := mem_extents hextent
    refine ⟨radial, hradial, ?_⟩
    unfold isUsable
    rw [decide_eq_true hgates, hfinite]
    rfl
  · rintro ⟨radial, hradial, husable⟩
    refine ⟨⟨i, normalizeAzimuth radial.azimuth, radial.width⟩, ?_, rfl⟩
    rw [extents_eq, List.mem_mergeSort]
    apply List.mem_map.2
    exact ⟨(radial, i), List.mem_filter.2 ⟨List.mem_zipIdx_iff_getElem?.2 hradial, husable⟩, rfl⟩

theorem map_radial_widened (extents : List (Extent α)) :
    (widened extents).map (·.radial) = extents.map (·.radial) :=
  map_widened (fun _ _ => rfl) extents

end Order

/-- An azimuth stands before another one in their total order: it is less, or it is negative zero
and the other one is zero. -/
def StandsBefore (x y : Float) : Prop := x < y ∨ x = -0.0 ∧ y = 0.0

/-- One radial comes before another: it starts at an azimuth that stands before the other one's, or
at the same one, and is given before. -/
def ComesBefore (radials : List (Radial Float)) (i j : Nat) : Prop :=
  ∃ first later, radials[i]? = some first ∧ radials[j]? = some later ∧
    (StandsBefore (normalizeAzimuth first.azimuth) (normalizeAzimuth later.azimuth) ∨
      normalizeAzimuth first.azimuth = normalizeAzimuth later.azimuth ∧ i < j)

/-- Azimuths that are sorted by their ranks are in their total order. -/
theorem standsBefore_or_eq {x y : Float} (hx : x.isNaN = false) (hy : y.isNaN = false)
    (h : floatRank x ≤ floatRank y) : StandsBefore x y ∨ x = y := by
  obtain hlt | heq := Int.lt_or_eq_of_le h
  · exact Or.inl ((floatRank_lt_iff hx hy).1 hlt)
  · exact Or.inr (floatRank_inj.1 heq)

/-- The sort keeps radials that start alike in order. -/
theorem comesBefore_extents (radials : List (Radial Float)) :
    (extents radials).Pairwise fun a b => ComesBefore radials a.radial b.radial := by
  let before : Extent Float → Extent Float → Bool := fun a b =>
    floatRank a.start ≤ floatRank b.start
  let numbered := (usable radials).zipIdx.mergeSort (List.zipIdxLE before)
  have hnumbered : numbered.map (·.1) = extents radials := List.mergeSort_zipIdx
  have htrans : ∀ a b c : Extent Float, before a b = true → before b c = true →
      before a c = true := fun a b c hab hbc =>
    decide_eq_true ((of_decide_eq_true hab).trans (of_decide_eq_true hbc))
  have htotal : ∀ a b : Extent Float, (before a b || before b a) = true := by
    intro a b
    rw [Bool.or_eq_true]
    exact (le_total (floatRank a.start) (floatRank b.start)).imp (decide_eq_true ·)
      (decide_eq_true ·)
  have hsorted : numbered.Pairwise fun a b => List.zipIdxLE before a b = true :=
    List.pairwise_mergeSort (List.zipIdxLE_trans htrans) (List.zipIdxLE_total htotal) _
  have hplaces : numbered.Pairwise fun a b => a.2 ≠ b.2 := by
    apply List.pairwise_map.1
    rw [← List.nodup_iff_pairwise_ne, ((List.mergeSort_perm _ _).map Prod.snd).nodup_iff,
      List.zipIdx_map_snd]
    exact List.nodup_range'
  have hfound : ∀ a ∈ numbered, (usable radials)[a.2]? = some a.1 := by
    intro a ha
    exact List.mem_zipIdx_iff_getElem?.1 (List.mem_mergeSort.1 ha)
  have hradial : ∀ a ∈ numbered, ∃ radial, radials[a.1.radial]? = some radial ∧
      a.1.start = normalizeAzimuth radial.azimuth ∧ a.1.start.isNaN = false := by
    intro a ha
    obtain ⟨radial, hat, -, hfinite, hstart, -⟩ :=
      mem_extents (hnumbered ▸ List.mem_map_of_mem (f := Prod.fst) ha)
    exact ⟨radial, hat, hstart, hstart ▸ isNaN_normalizeAzimuth hfinite⟩
  rw [← hnumbered, List.pairwise_map]
  refine (hsorted.and hplaces).imp_of_mem ?_
  rintro a b ha hb ⟨hle, hne⟩
  obtain ⟨first, hfirst, hstart, haNumber⟩ := hradial a ha
  obtain ⟨later, hlater, hstart', hbNumber⟩ := hradial b hb
  refine ⟨first, later, hfirst, hlater, ?_⟩
  rw [← hstart, ← hstart']
  unfold List.zipIdxLE at hle
  split at hle
  · next hbefore =>
    refine (standsBefore_or_eq haNumber hbNumber (of_decide_eq_true hbefore)).imp_right
      fun hsame => ⟨hsame, ?_⟩
    have hback : before b.1 a.1 = true := decide_eq_true (hsame ▸ le_refl _)
    rw [if_pos hback] at hle
    have hlt : a.2 < b.2 := Nat.lt_of_le_of_ne (of_decide_eq_true hle) hne
    obtain ⟨ha', hea⟩ := List.getElem?_eq_some_iff.1 (hfound a ha)
    obtain ⟨hb', heb⟩ := List.getElem?_eq_some_iff.1 (hfound b hb)
    rw [← hea, ← heb]
    exact List.pairwise_iff_getElem.1 (pairwise_usable radials) _ _ ha' hb' hlt
  · cases hle

/-! ## Sweeps that are built -/

variable {α : Type}

/-- How many wedges end at the ray where the next one starts. -/
def sharedPairs (sweep : Sweep α) : Nat :=
  (sweep.spans.toList.zip (successors sweep.spans.toList)).countP fun (span, next) =>
    span.endRay == next.startRay

/-- The wedges are those of the usable radials in order, and use all of the rays and no others. -/
structure IsArranged (radials : List (Radial Float)) (sweep : Sweep Float) : Prop where
  mem_iff : ∀ i, (∃ span ∈ sweep.spans, span.radial = i) ↔
    ∃ radial, radials[i]? = some radial ∧ isUsable radial = true
  once : (sweep.spans.toList.map (·.radial)).Nodup
  inOrder : sweep.spans.toList.Pairwise fun a b => ComesBefore radials a.radial b.radial
  rays_lt : ∀ span ∈ sweep.spans,
    span.startRay < sweep.rays.size ∧ span.endRay < sweep.rays.size
  rays_used : ∀ ray < sweep.rays.size, ∃ span ∈ sweep.spans,
    span.startRay = ray ∨ span.endRay = ray

/-- Wedges on a circle of radials share the rays at which mismatches are closed, and no others. -/
structure SharesRays (tolerance : Float) (circle : List (Extent Float)) (sweep : Sweep Float) :
    Prop where
  /-- A wedge ends where another one starts just if that is the next one and the mismatch of both,
  the way from start to start less the width of the first, is no more than the tolerance and half
  the width of either. -/
  meets_iff : ∀ i extent next, AreNeighbors circle i extent next →
    ∃ span, sweep.spans[i]? = some span ∧ span.radial = extent.radial ∧
      ∀ (j : Nat) other, sweep.spans[j]? = some other →
        (span.endRay = other.startRay ↔ j = (i + 1) % circle.length ∧
          Scalar.abs (clockwiseDelta extent.start next.start - extent.width) ≤
            Scalar.min (Scalar.min (Scalar.max tolerance 0.0) (extent.width * 0.5))
              (next.width * 0.5))
  startRays : (sweep.spans.toList.map (·.startRay)).Nodup
  endRays : (sweep.spans.toList.map (·.endRay)).Nodup
  size_rays : sweep.rays.size + sweep.sharedPairs = 2 * circle.length

theorem nodup_map_of_inj {β : Type} [DecidableEq β] {spans : Array RadialSpan} {f : RadialSpan → β}
    (h : ∀ (i j : Nat) span other, spans[i]? = some span → spans[j]? = some other →
      f span = f other → i = j) : (spans.toList.map f).Nodup := by
  rw [List.nodup_iff_pairwise_ne, List.pairwise_map, List.pairwise_iff_getElem]
  intro i j hi hj hlt hsame
  have hplace := h i j _ _ (Array.getElem?_toList ▸ List.getElem?_eq_getElem hi)
    (Array.getElem?_toList ▸ List.getElem?_eq_getElem hj) hsame
  omega

theorem size_ofBoundaries {extents : List (Extent α)} {boundaries : List (Boundary α)}
    (hlength : boundaries.length = extents.length) :
    (ofBoundaries extents boundaries).spans.size = extents.length := by
  simp [ofBoundaries, predecessors_eq_rotate, length_rayNumbers, hlength]

theorem sharedPairs_ofBoundaries {extents : List (Extent α)} {boundaries : List (Boundary α)}
    (hlength : boundaries.length = extents.length) :
    (ofBoundaries extents boundaries).sharedPairs = boundaries.countP Boundary.isShared := by
  let meets : RadialSpan × RadialSpan → Bool := fun (span, next) => span.endRay == next.startRay
  let spans := (ofBoundaries extents boundaries).spans.toList
  have hsize : spans.length = boundaries.length := by
    rw [Array.length_toList, size_ofBoundaries hlength, hlength]
  have hpairs : (spans.zip (successors spans)).map meets = boundaries.map Boundary.isShared := by
    apply List.ext_getElem?
    intro i
    rw [List.getElem?_map, List.getElem?_map]
    by_cases hi : i < boundaries.length
    · have hnext : (i + 1) % boundaries.length < boundaries.length := Nat.mod_lt _ (by omega)
      obtain ⟨span, hspan⟩ : ∃ span, spans[i]? = some span :=
        ⟨_, List.getElem?_eq_getElem (hsize.symm ▸ hi)⟩
      obtain ⟨other, hother⟩ : ∃ other, spans[(i + 1) % boundaries.length]? = some other :=
        ⟨_, List.getElem?_eq_getElem (hsize.symm ▸ hnext)⟩
      have hpair : (spans.zip (successors spans))[i]? = some (span, other) := by
        rw [List.getElem?_zip_eq_some, getElem?_successors (by omega), hsize]
        exact ⟨hspan, hother⟩
      rw [Array.getElem?_toList] at hspan hother
      have hmeets := ofBoundaries_meets_iff hlength hspan hother (List.getElem?_eq_getElem hi)
      rw [hpair, List.getElem?_eq_getElem hi, Option.map_some, Option.map_some, Option.some_inj,
        Bool.eq_iff_iff, beq_iff_eq, hmeets]
      simp
    · rw [List.getElem?_eq_none (by rw [List.length_zip, length_successors]; omega),
        List.getElem?_eq_none (by omega)]
      rfl
  calc (ofBoundaries extents boundaries).sharedPairs
      = ((spans.zip (successors spans)).map meets).countP id := by
        rw [List.countP_map]
        rfl
    _ = boundaries.countP Boundary.isShared := by
        rw [hpairs, List.countP_map]
        rfl

variable [Scalar α]

theorem isShared_boundary (tolerance : α) (extent next : Extent α) :
    (boundary tolerance extent next).isShared =
      Scalar.le (Scalar.abs (mismatch extent next)) (limit tolerance extent next) := by
  unfold boundary
  dsimp only
  split
  · rename_i hclosed
    exact hclosed.symm
  · rename_i hopen
    exact (Bool.eq_false_iff.2 hopen).symm

theorem map_radial_ofExtents (tolerance : α) (extents : List (Extent α)) :
    (ofExtents tolerance extents).spans.toList.map (·.radial) = extents.map (·.radial) := by
  by_cases htwo : 2 ≤ extents.length
  · have hlength := length_boundaries tolerance extents
    rw [ofExtents_of_two_le htwo]
    apply List.ext_getElem?
    intro i
    rw [List.getElem?_map, List.getElem?_map, Array.getElem?_toList]
    cases hextent : extents[i]? with
    | some extent =>
        rw [getElem?_ofBoundaries hlength hextent]
        rfl
    | none =>
        rw [List.getElem?_eq_none_iff] at hextent
        rw [Array.getElem?_eq_none (by rw [size_ofBoundaries hlength]; omega)]
        rfl
  · rcases eq_nil_or_singleton htwo with rfl | ⟨extent, rfl⟩
    · rfl
    · rfl

theorem map_radial_build (radials : List (Radial α)) (tolerance : α) :
    (build radials tolerance).spans.toList.map (·.radial) =
      (extents radials).map (·.radial) := by
  rw [build_eq, map_radial_ofExtents, drawn_eq, map_radial_widened]

/-- All rays of a wedge are rays of its sweep, and there are no others. -/
theorem rays_ofExtents (tolerance : α) (extents : List (Extent α)) :
    let sweep := ofExtents tolerance extents
    (∀ span ∈ sweep.spans, span.startRay < sweep.rays.size ∧ span.endRay < sweep.rays.size) ∧
      ∀ ray < sweep.rays.size, ∃ span ∈ sweep.spans, span.startRay = ray ∨ span.endRay = ray := by
  intro sweep
  by_cases htwo : 2 ≤ extents.length
  · have hsweep : sweep = ofBoundaries extents (boundaries tolerance extents) :=
      ofExtents_of_two_le htwo
    have hlength := length_boundaries tolerance extents
    rw [hsweep, size_rays_ofBoundaries]
    exact ⟨fun span hspan => rays_lt_ofBoundaries hlength hspan,
      fun ray hray => exists_wedge hlength hray⟩
  · rcases eq_nil_or_singleton htwo with rfl | ⟨extent, rfl⟩
    · constructor
      · intro span hspan
        exact absurd hspan (Array.not_mem_empty span)
      · intro ray hray
        exact absurd hray (Nat.not_lt_zero ray)
    · have hwedge : (⟨extent.radial, 0, 1⟩ : RadialSpan) ∈ sweep.spans :=
        Array.mem_of_getElem? (i := 0) rfl
      constructor
      · intro span hspan
        obtain rfl : span = ⟨extent.radial, 0, 1⟩ := by simpa [sweep, ofExtents] using hspan
        exact ⟨Nat.zero_lt_two, Nat.one_lt_two⟩
      · intro ray hray
        have hcases : ray = 0 ∨ ray = 1 := by
          have hlt : ray < 2 := hray
          omega
        exact ⟨_, hwedge, hcases.imp Eq.symm Eq.symm⟩

theorem isArranged_build (radials : List (Radial Float)) (tolerance : Float) :
    (build radials tolerance).IsArranged radials := by
  have hradials := map_radial_build radials tolerance
  have hrays := rays_ofExtents tolerance (drawn radials)
  rw [← build_eq] at hrays
  constructor
  · intro i
    rw [← exists_extent_iff, ← List.mem_map, ← hradials, List.mem_map]
    simp only [Array.mem_toList_iff]
  · rw [hradials]
    exact nodup_radial_extents radials
  · rw [← List.pairwise_map, hradials, List.pairwise_map]
    exact comesBefore_extents radials
  · exact hrays.1
  · exact hrays.2

theorem sharesRays_ofExtents (tolerance : Float) {extents : List (Extent Float)}
    (htwo : 2 ≤ extents.length) :
    (ofExtents tolerance extents).SharesRays tolerance extents := by
  have hlength := length_boundaries tolerance extents
  rw [ofExtents_of_two_le htwo]
  constructor
  · rintro i extent next ⟨hextent, hnext⟩
    have hspan := getElem?_ofBoundaries hlength hextent
    refine ⟨_, hspan, rfl, fun j other hother => ?_⟩
    rw [ofBoundaries_meets_iff hlength hspan hother (getElem?_boundaries hextent hnext), hlength,
      isShared_boundary, closes_iff]
  · exact nodup_map_of_inj fun i j span other hspan hother =>
      startRay_inj hlength hspan hother
  · exact nodup_map_of_inj fun i j span other hspan hother =>
      endRay_inj hlength hspan hother
  · rw [size_rays_ofBoundaries, sharedPairs_ofBoundaries hlength, countRays_add_countP, hlength]

/-- A sweep has a wedge for each usable radial, in order of their starts.  A single wedge has two
rays.  Of two wedges or more, neighbors share a ray where their mismatch is closed, and nothing else
is shared. -/
theorem build_arranged (radials : List (Radial Float)) (tolerance : Float) :
    let sweep := build radials tolerance
    let count := radials.countP isUsable
    sweep.spans.size = count ∧ sweep.IsArranged radials ∧ (count = 1 → sweep.rays.size = 2) ∧
      (drawn radials).length = count ∧
      (2 ≤ count → sweep.SharesRays tolerance (drawn radials)) := by
  intro sweep count
  have hcount : (drawn radials).length = count := length_drawn radials
  have hsweep : sweep = ofExtents tolerance (drawn radials) := build_eq radials tolerance
  refine ⟨?_, isArranged_build radials tolerance, ?_, hcount, ?_⟩
  · rw [hsweep, size_spans, hcount]
  · intro hone
    obtain ⟨extent, hextent⟩ := List.length_eq_one_iff.1 (hcount.trans hone)
    rw [hsweep, hextent]
    rfl
  · intro htwo
    rw [hsweep]
    exact sharesRays_ofExtents tolerance (hcount.symm ▸ htwo)

end WeatherRadar.Geo.Sweep
