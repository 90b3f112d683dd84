import WeatherRadar.Proofs.Geo.Rotation
import WeatherRadar.Proofs.Geo.Winding
/-!
# No seam at north

When all radials are turned by the same angle, they stand in the same order around the circle, but
other ones are next to north (`extents_turnRadials`).  So the sweep of radials that are turned and
listed in another order is the turned sweep, counted from another wedge on (`build_turned`): the
same neighbors share a ray, the wedges are as wide as before, and each azimuth is in the wedge of
the same radial.
-/

namespace WeatherRadar.Geo.Sweep

open AddCommGroup Level3

/-! ## The order around the circle -/

theorem exists_append_of_pairwise {β : Type} (first : β → Prop) {rel : β → β → Prop} {xs : List β}
    (hxs : xs.Pairwise rel) (hfirst : ∀ x y, rel x y → first y → first x) :
    ∃ front back, xs = front ++ back ∧ (∀ x ∈ front, first x) ∧ ∀ x ∈ back, ¬ first x := by
  induction xs with
  | nil => exact ⟨[], [], rfl, fun x hx => absurd hx List.not_mem_nil,
      fun x hx => absurd hx List.not_mem_nil⟩
  | cons x xs ih =>
      obtain ⟨hrel, hrest⟩ := List.pairwise_cons.1 hxs
      by_cases hx : first x
      · obtain ⟨front, back, rfl, hfront, hback⟩ := ih hrest
        refine ⟨x :: front, back, rfl, fun y hy => ?_, hback⟩
        rcases List.mem_cons.1 hy with rfl | hy
        · exact hx
        · exact hfront y hy
      · refine ⟨[], x :: xs, rfl, fun y hy => absurd hy List.not_mem_nil, fun y hy => ?_⟩
        rcases List.mem_cons.1 hy with rfl | hy
        · exact hx
        · exact fun hfirst' => hx (hfirst x y (hrel y hy) hfirst')

theorem turnAzimuth_of_mem {c azimuth : Rat} (hlow : 0 ≤ azimuth) (hhigh : azimuth < 360) :
    (azimuth + normalizeAzimuth c < 360 → turnAzimuth c azimuth = azimuth + normalizeAzimuth c) ∧
      (¬ azimuth + normalizeAzimuth c < 360 →
        turnAzimuth c azimuth = azimuth + normalizeAzimuth c - 360) := by
  have hnonneg := normalizeAzimuth_nonneg c
  have hlt := normalizeAzimuth_lt c
  have hsame := (normalizeAzimuth_modEq c).add_left azimuth
  constructor
  · intro hbefore
    exact normalizeAzimuth_eq_iff.2 ⟨by linarith, hbefore, hsame⟩
  · intro hacross
    refine normalizeAzimuth_eq_iff.2 ⟨by linarith, by linarith, ?_⟩
    have hturn := add_self_modEq (azimuth + normalizeAzimuth c - 360)
    rw [sub_add_cancel] at hturn
    exact hturn.symm.trans hsame

/-- Azimuths in ascending order, turned, are in ascending order again from one of them on. -/
theorem exists_ascending_rotate {azimuths : List Rat} (h : Ascending azimuths) (c : Rat) :
    ∃ n ≤ azimuths.length, Ascending ((azimuths.map (turnAzimuth c)).rotate n) := by
  obtain ⟨front, back, rfl, hfront, hback⟩ := exists_append_of_pairwise
    (fun azimuth => azimuth + normalizeAzimuth c < 360) h.pairwise (fun x y hxy hy => by linarith)
  obtain ⟨hpfront, hpback, -⟩ := List.pairwise_append.1 h.pairwise
  have hrotate := List.rotate_append_length_eq (front.map (turnAzimuth c))
    (back.map (turnAzimuth c))
  rw [List.length_map, ← List.map_append] at hrotate
  -- what stays before north, and what is turned across
  have hfront' : ∀ x ∈ front, turnAzimuth c x = x + normalizeAzimuth c := by
    intro x hx
    have hmem := List.mem_append_left back hx
    exact (turnAzimuth_of_mem (h.nonneg x hmem) (h.lt x hmem)).1 (hfront x hx)
  have hback' : ∀ x ∈ back, turnAzimuth c x = x + normalizeAzimuth c - 360 := by
    intro x hx
    have hmem := List.mem_append_right front hx
    exact (turnAzimuth_of_mem (h.nonneg x hmem) (h.lt x hmem)).2 (hback x hx)
  refine ⟨front.length, by rw [List.length_append]; omega, ?_, ?_, ?_⟩
  · rw [hrotate, List.pairwise_append, List.pairwise_map, List.pairwise_map]
    refine ⟨?_, ?_, ?_⟩
    · refine hpback.imp_of_mem fun {x y} hx hy hxy => ?_
      rw [hback' x hx, hback' y hy]
      linarith
    · refine hpfront.imp_of_mem fun {x y} hx hy hxy => ?_
      rw [hfront' x hx, hfront' y hy]
      linarith
    · rintro x' hx' y' hy'
      obtain ⟨x, hx, rfl⟩ := List.mem_map.1 hx'
      obtain ⟨y, hy, rfl⟩ := List.mem_map.1 hy'
      have hlow := h.nonneg y (List.mem_append_left back hy)
      have hhigh := h.lt x (List.mem_append_right front hx)
      rw [hback' x hx, hfront' y hy]
      linarith
  · intro azimuth hazimuth
    obtain ⟨x, -, rfl⟩ := List.mem_map.1 (List.mem_rotate.1 hazimuth)
    exact normalizeAzimuth_nonneg _
  · intro azimuth hazimuth
    obtain ⟨x, -, rfl⟩ := List.mem_map.1 (List.mem_rotate.1 hazimuth)
    exact normalizeAzimuth_lt _

/-! ## Radials in another order -/

/-- Radials that are listed with their numbers, turned by `c`. -/
def turnRadials (c : Rat) (order : List (Radial Rat × Nat)) : List (Radial Rat) :=
  order.map fun (radial, _) => { radial with azimuth := turnAzimuth c radial.azimuth }

/-- The number of a radial before radials are listed in another order with their numbers. -/
def place (order : List (Radial Rat × Nat)) (i : Nat) : Nat := (order.map Prod.snd).getD i 0

/-- A radial with its number as it takes part in a sweep. -/
def numberedExtent (numbered : Radial Rat × Nat) : Extent Rat :=
  ⟨numbered.2, normalizeAzimuth numbered.1.azimuth, numbered.1.width⟩

theorem perm_extents (radials : List (Radial Rat)) :
    (extents radials).Perm
      ((radials.zipIdx.filter (0 < ·.1.gates.size)).map numberedExtent) := by
  refine (List.mergeSort_perm _ _).trans (List.Perm.of_eq ?_)
  simp only [scalar_isFinite_rat, Bool.and_true]
  rfl

theorem place_of_mem {order : List (Radial Rat × Nat)} {numbered : (Radial Rat × Nat) × Nat}
    (h : numbered ∈ order.zipIdx) : place order numbered.2 = numbered.1.2 := by
  rw [place, List.getD_eq_getElem?_getD, List.getElem?_map, List.mem_zipIdx_iff_getElem?.1 h]
  rfl

theorem perm_extents_turnRadials (c : Rat) (order : List (Radial Rat × Nat)) :
    ((extents (turnRadials c order)).map (Extent.move (place order) id)).Perm
      (((order.filter (0 < ·.1.gates.size)).map numberedExtent).map
        (Extent.move id (turnAzimuth c))) := by
  have hperm := (perm_extents (turnRadials c order)).map (Extent.move (place order) id)
  rw [turnRadials, List.zipIdx_map, List.filter_map, List.map_map, List.map_map] at hperm
  refine hperm.trans (List.Perm.of_eq ?_)
  have hsame : ∀ numbered ∈ order.zipIdx.filter (0 < ·.1.1.gates.size),
      Extent.move (place order) id (numberedExtent (Prod.map (fun (radial, _) =>
        { radial with azimuth := turnAzimuth c radial.azimuth }) id numbered)) =
        Extent.move id (turnAzimuth c) (numberedExtent numbered.1) := by
    intro numbered hnumbered
    have hplace := place_of_mem (List.mem_of_mem_filter hnumbered)
    simp only [Extent.move, numberedExtent, Prod.map, id, hplace,
      (isTurn_turnAzimuth c).normalizeAzimuth]
  calc _ = (order.zipIdx.filter (0 < ·.1.1.gates.size)).map
        ((Extent.move id (turnAzimuth c) ∘ numberedExtent) ∘ Prod.fst) :=
        List.map_congr_left hsame
    _ = ((order.zipIdx.map Prod.fst).filter (0 < ·.1.gates.size)).map
        (Extent.move id (turnAzimuth c) ∘ numberedExtent) := by
        rw [List.filter_map, List.map_map]
        rfl
    _ = _ := by rw [List.zipIdx_map_fst, List.map_map]

theorem ascending_extents {radials : List (Radial Rat)}
    (hdistinct : ((radials.filter (0 < ·.gates.size)).map
      fun radial => normalizeAzimuth radial.azimuth).Nodup) :
    Ascending ((extents radials).map (·.start)) := by
  have hstarts : ((extents radials).map (·.start)).Perm ((radials.filter (0 < ·.gates.size)).map
      fun radial => normalizeAzimuth radial.azimuth) := by
    refine ((perm_extents radials).map _).trans (List.Perm.of_eq ?_)
    nth_rewrite 2 [← List.zipIdx_map_fst 0 radials]
    rw [List.filter_map, List.map_map, List.map_map]
    rfl
  have hle := List.pairwise_map.2 (pairwise_extents radials)
  exact ascending_of_pairwise
    ((hle.and (hstarts.nodup_iff.2 hdistinct)).imp fun h => lt_of_le_of_ne h.1 h.2)

/-- The radials that are turned stand around the circle as before, counted from another one on. -/
theorem extents_turnRadials {radials : List (Radial Rat)} {order : List (Radial Rat × Nat)}
    (horder : order.Perm radials.zipIdx) (h : Ascending ((extents radials).map (·.start)))
    (c : Rat) :
    ∃ n ≤ (extents radials).length,
      (extents (turnRadials c order)).map (Extent.move (place order) id) =
        ((extents radials).map (Extent.move id (turnAzimuth c))).rotate n ∧
      Ascending ((extents (turnRadials c order)).map (·.start)) := by
  obtain ⟨n, hn, hascending⟩ := exists_ascending_rotate h c
  rw [List.length_map] at hn
  have hperm : ((extents (turnRadials c order)).map (Extent.move (place order) id)).Perm
      (((extents radials).map (Extent.move id (turnAzimuth c))).rotate n) := by
    have hnumbered := ((horder.filter (0 < ·.1.gates.size)).map numberedExtent).trans
      (perm_extents radials).symm
    exact (perm_extents_turnRadials c order).trans
      ((hnumbered.map _).trans (List.rotate_perm _ n).symm)
  have hrotated : (((extents radials).map (·.start)).map (turnAzimuth c)).rotate n =
      (((extents radials).map (Extent.move id (turnAzimuth c))).rotate n).map (·.start) := by
    rw [List.map_rotate, List.map_map, List.map_map]
    rfl
  have hturned : (extents (turnRadials c order)).map (·.start) =
      ((extents (turnRadials c order)).map (Extent.move (place order) id)).map (·.start) := by
    rw [List.map_map]
    rfl
  rw [hrotated] at hascending
  -- two orders of radials that start at different azimuths, both ascending
  have hle := List.pairwise_map.2 (pairwise_extents (turnRadials c order))
  have hle' := hascending.pairwise.imp fun {x y} hxy => le_of_lt hxy
  rw [hturned] at hle
  have heq := hperm.eq_of_pairwise (fun extent next hextent hnext hxy hyx =>
    List.inj_on_of_nodup_map hascending.pairwise.nodup (hperm.mem_iff.1 hextent) hnext
      (le_antisymm hxy hyx)) (List.pairwise_map.1 hle) (List.pairwise_map.1 hle')
  rw [hturned, heq]
  exact ⟨n, hn, rfl, hascending⟩

/-- The sweep of radials that are turned and listed in another order is the turned sweep. -/
theorem isTurned_build {radials : List (Radial Rat)} {order : List (Radial Rat × Nat)}
    (horder : order.Perm radials.zipIdx) (h : Ascending ((extents radials).map (·.start)))
    (tolerance c : Rat) :
    ∃ firstSpan firstRay, IsTurned (turnAzimuth c) (place order) firstSpan firstRay
      (build radials tolerance) (build (turnRadials c order) tolerance) := by
  obtain ⟨n, hn, hextents, -⟩ := extents_turnRadials horder h c
  have hdrawn : (drawn (turnRadials c order)).map (Extent.move (place order) id) =
      ((drawn radials).map (Extent.move id (turnAzimuth c))).rotate n := by
    rw [drawn_eq, drawn_eq, ← widened_map isTurn_id, hextents, widened_rotate,
      widened_map (isTurn_turnAzimuth c)]
  obtain ⟨firstRay, hturned⟩ := isTurned_ofExtents (isTurn_turnAzimuth c) (place order) tolerance
    (hn.trans (length_widened (extents radials)).ge) hdrawn
  rw [build_eq, build_eq]
  exact ⟨n, firstRay, hturned⟩

/-! ## What is kept -/

namespace IsTurned

variable {turn : Rat → Rat} {number : Nat → Nat} {firstSpan firstRay : Nat}
  {sweep turned : Sweep Rat}

theorem size_spans (h : IsTurned turn number firstSpan firstRay sweep turned) :
    turned.spans.size = sweep.spans.size := by
  have hlength := congrArg List.length h.spans
  rwa [List.length_map, List.length_rotate, Array.length_toList, Array.length_toList] at hlength

theorem size_rays (h : IsTurned turn number firstSpan firstRay sweep turned) :
    turned.rays.size = sweep.rays.size := by
  have hlength := congrArg List.length h.rays
  rwa [List.length_rotate, List.length_map, Array.length_toList, Array.length_toList] at hlength

theorem getElem?_spans (h : IsTurned turn number firstSpan firstRay sweep turned) {i : Nat}
    (hi : i < sweep.spans.size) :
    sweep.spans[(i + firstSpan) % sweep.spans.size]? =
      turned.spans[i]?.map (sweep.wedgeBefore number firstRay) := by
  have hrotate : (sweep.spans.toList.rotate firstSpan)[i]? = _ := List.getElem?_rotate hi
  rw [← h.spans, List.getElem?_map, Array.getElem?_toList, Array.getElem?_toList,
    Array.length_toList] at hrotate
  exact hrotate.symm

theorem areNeighbors (h : IsTurned turn number firstSpan firstRay sweep turned) {i : Nat}
    {span next : RadialSpan} (hnext : AreNeighbors turned.spans.toList i span next) :
    AreNeighbors sweep.spans.toList ((i + firstSpan) % sweep.spans.size)
      (sweep.wedgeBefore number firstRay span) (sweep.wedgeBefore number firstRay next) := by
  obtain ⟨hspan, hnext⟩ := hnext
  rw [Array.getElem?_toList] at hspan hnext
  rw [Array.length_toList, h.size_spans] at hnext
  have hi : i < sweep.spans.size := by
    rw [← h.size_spans]
    exact (Array.getElem?_eq_some_iff.1 hspan).1
  have hturn : ((i + 1) % sweep.spans.size + firstSpan) % sweep.spans.size =
      ((i + firstSpan) % sweep.spans.size + 1) % sweep.spans.size := by
    rw [Nat.mod_add_mod, Nat.mod_add_mod, Nat.add_right_comm]
  constructor
  · rw [Array.getElem?_toList, h.getElem?_spans hi, hspan, Option.map_some]
  · rw [Array.getElem?_toList, Array.length_toList, ← hturn,
      h.getElem?_spans (Nat.mod_lt _ (by omega)), hnext, Option.map_some]

theorem ray (h : IsTurned turn number firstSpan firstRay sweep turned) {i : Nat} {azimuth : Rat}
    (hray : turned.rays[i]? = some azimuth) :
    azimuth = turn (sweep.ray (recount firstRay sweep.rays.size i)) := by
  have hi : i < sweep.rays.size := by
    rw [← h.size_rays]
    exact (Array.getElem?_eq_some_iff.1 hray).1
  have hrotate : ((sweep.rays.toList.map turn).rotate firstRay)[i]? = _ :=
    List.getElem?_rotate (hi.trans_eq (List.length_map _).symm)
  rw [← h.rays, Array.getElem?_toList, hray, List.getElem?_map, List.length_map,
    Array.getElem?_toList, Array.length_toList] at hrotate
  obtain ⟨before, hbefore, rfl⟩ := Option.map_eq_some_iff.1 hrotate.symm
  rw [Sweep.ray, Array.getD_eq_getD_getElem?, recount, hbefore, Option.getD_some]

theorem bounds (h : IsTurned turn number firstSpan firstRay sweep turned) (hturn : IsTurn turn)
    {span : RadialSpan} {start finish : Rat} (hrays : turned.HasRays span start finish) :
    turned.bounds span =
      Prod.map turn id (sweep.bounds (sweep.wedgeBefore number firstRay span)) := by
  simp only [Sweep.bounds, hrays.ray_startRay, hrays.ray_endRay, wedgeBefore,
    RadialSpan.renumber, Prod.map_apply, h.ray hrays.start, h.ray hrays.finish,
    hturn.clockwiseDelta, id]

theorem covers (h : IsTurned turn number firstSpan firstRay sweep turned) (hturn : IsTurn turn)
    {span : RadialSpan} {start finish : Rat} (hrays : turned.HasRays span start finish)
    (azimuth : Rat) :
    turned.covers span (turn azimuth) =
      sweep.covers (sweep.wedgeBefore number firstRay span) azimuth := by
  simp only [Sweep.covers, h.bounds hturn hrays, Prod.map_fst, Prod.map_snd, hturn.clockwiseDelta,
    id]

theorem shares_iff (h : IsTurned turn number firstSpan firstRay sweep turned)
    {span next : RadialSpan} {start finish start' finish' : Rat}
    (hspan : turned.HasRays span start finish) (hnext : turned.HasRays next start' finish') :
    recount firstRay sweep.rays.size span.endRay = recount firstRay sweep.rays.size next.startRay ↔
      span.endRay = next.startRay := by
  have hend := (Array.getElem?_eq_some_iff.1 hspan.finish).1
  have hstart := (Array.getElem?_eq_some_iff.1 hnext.start).1
  rw [h.size_rays] at hend hstart
  constructor
  · intro hsame
    have hmod : span.endRay ≡ next.startRay [MOD sweep.rays.size] :=
      Nat.ModEq.add_right_cancel' firstRay hsame
    exact hmod.eq_of_lt_of_lt hend hstart
  · intro hsame
    rw [hsame]

end IsTurned

/-! ## The search -/

theorem find?_congr {β : Type} {p q : β → Bool} {xs : List β} (h : ∀ x ∈ xs, p x = q x) :
    xs.find? p = xs.find? q := by
  induction xs with
  | nil => rfl
  | cons x xs ih =>
      rw [List.find?_cons, List.find?_cons, h x List.mem_cons_self,
        ih fun y hy => h y (List.mem_cons_of_mem x hy)]

theorem exists_unroll_rotate (turn : Rat → Rat) {starts : List Rat} (hne : 0 < starts.length)
    (firstSpan i : Nat) :
    ∃ azimuth, unroll starts (i + firstSpan) ≡ azimuth [PMOD 360] ∧
      unroll ((starts.map turn).rotate firstSpan) i ≡ turn azimuth [PMOD 360] := by
  have hlength : ((starts.map turn).rotate firstSpan).length = starts.length := by
    rw [List.length_rotate, List.length_map]
  have hfound := List.getElem?_eq_getElem (Nat.mod_lt (i + firstSpan) hne)
  refine ⟨_, unroll_modEq hfound, unroll_modEq ?_⟩
  rw [List.getElem?_rotate (by rw [hlength, List.length_map]; exact Nat.mod_lt i hne), hlength,
    List.length_map, Nat.mod_add_mod, List.getElem?_map, hfound, Option.map_some]

theorem mod_eq_of_cells {turn : Rat → Rat} (hturn : IsTurn turn) {starts : List Rat}
    (hne : 0 < starts.length) {firstSpan : Nat} (h : Ascending starts)
    (h' : Ascending ((starts.map turn).rotate firstSpan)) {i i' : Nat} {u u' azimuth : Rat}
    (hu : u ≡ azimuth [PMOD 360]) (hlow : unroll starts i ≤ u) (hhigh : u < unroll starts (i + 1))
    (hu' : u' ≡ turn azimuth [PMOD 360])
    (hlow' : unroll ((starts.map turn).rotate firstSpan) i' ≤ u')
    (hhigh' : u' < unroll ((starts.map turn).rotate firstSpan) (i' + 1)) :
    i % starts.length = (i' + firstSpan) % starts.length := by
  have hlength : ((starts.map turn).rotate firstSpan).length = starts.length := by
    rw [List.length_rotate, List.length_map]
  have hwinding := h.winding hne
  have hwinding' := h'.winding (by rwa [hlength])
  rw [hlength] at hwinding'
  by_cases htwo : 2 ≤ starts.length
  · obtain ⟨x, hx, hx'⟩ := exists_unroll_rotate turn hne firstSpan i'
    obtain ⟨y, hy, hy'⟩ := exists_unroll_rotate turn hne firstSpan (i' + 1)
    have hturned := (InArc.congr hx' hy' modEq_rfl).1
      ((hwinding'.inArc_iff htwo i' (turn azimuth)).2 ⟨u', hu', hlow', hhigh'⟩)
    have hcell : InArc x y azimuth := by
      rw [InArc, ← hturn.clockwiseDelta x azimuth, ← hturn.clockwiseDelta x y]
      exact hturned
    rw [Nat.add_right_comm] at hy
    obtain ⟨v, hv, hvlow, hvhigh⟩ := (hwinding.inArc_iff htwo (i' + firstSpan) azimuth).1
      ((InArc.congr hx hy modEq_rfl).2 hcell)
    exact hwinding.cell_unique hlow hhigh hvlow hvhigh (hu.trans hv.symm)
  · rw [show starts.length = 1 by omega, Nat.mod_one, Nat.mod_one]

namespace IsTurned

variable {turn : Rat → Rat} {number : Nat → Nat} {firstSpan firstRay : Nat}
  {sweep turned : Sweep Rat}

theorem map_candidates (h : IsTurned turn number firstSpan firstRay sweep turned) {i i' : Nat}
    (hne : 0 < sweep.spans.size)
    (hplace : i % sweep.spans.size = (i' + firstSpan) % sweep.spans.size) :
    (candidates turned.spans i').map (sweep.wedgeBefore number firstRay) =
      candidates sweep.spans i := by
  have hspan : ∀ j, turned.spans[j % sweep.spans.size]?.map (sweep.wedgeBefore number firstRay) =
      sweep.spans[(j + firstSpan) % sweep.spans.size]? := by
    intro j
    rw [← h.getElem?_spans (Nat.mod_lt j hne), Nat.mod_add_mod]
  have hnext : (i' + 1 + firstSpan) % sweep.spans.size = (i + 1) % sweep.spans.size := by
    rw [Nat.add_right_comm]
    exact (Nat.ModEq.add_right 1 hplace).symm
  have hprevious : (i' + sweep.spans.size - 1 + firstSpan) % sweep.spans.size =
      (i + sweep.spans.size - 1) % sweep.spans.size := by
    rw [Nat.add_sub_assoc hne, Nat.add_sub_assoc hne, Nat.add_right_comm]
    exact (Nat.ModEq.add_right _ hplace).symm
  rw [candidates, List.map_filterMap, h.size_spans]
  simp only [candidates, List.filterMap_cons, List.filterMap_nil, hspan, hplace, hnext, hprevious]

theorem locate?_turn (h : IsTurned turn number firstSpan firstRay sweep turned)
    (hturn : IsTurn turn) {starts : List Rat} (hstarts : sweep.nominalStarts = starts.toArray)
    (hspans : sweep.spans.size = starts.length) (hascending : Ascending starts)
    (hascending' : Ascending ((starts.map turn).rotate firstSpan))
    (hrays : ∀ span ∈ turned.spans, ∃ start finish, turned.HasRays span start finish)
    (azimuth : Rat) :
    (turned.locate? (turn azimuth)).map (sweep.wedgeBefore number firstRay) =
      sweep.locate? azimuth := by
  by_cases hne : 0 < starts.length
  · have hlength : ((starts.map turn).rotate firstSpan).length = starts.length := by
      rw [List.length_rotate, List.length_map]
    have hstarts' : turned.nominalStarts = ((starts.map turn).rotate firstSpan).toArray := by
      rw [← Array.toList_inj, h.nominalStarts, hstarts]
    obtain ⟨i, u, -, hu, hlow, hhigh, hlocate⟩ :=
      locate?_eq hascending.ordered hne hstarts hspans 0 azimuth
    obtain ⟨i', u', -, hu', hlow', hhigh', hlocate'⟩ :=
      locate?_eq hascending'.ordered (by rwa [hlength]) hstarts'
        (h.size_spans.trans (hspans.trans hlength.symm)) 0 (turn azimuth)
    have hplace := mod_eq_of_cells hturn hne hascending hascending' hu hlow hhigh hu' hlow' hhigh'
    rw [← hspans] at hplace
    have hcovers : ∀ span ∈ candidates turned.spans i',
        turned.covers span (turn azimuth) =
          ((sweep.covers · azimuth) ∘ sweep.wedgeBefore number firstRay) span := by
      intro span hspan
      obtain ⟨k, -, hk⟩ := List.mem_filterMap.1 hspan
      obtain ⟨start, finish, hrays⟩ := hrays span (Array.mem_of_getElem? hk)
      exact h.covers hturn hrays azimuth
    rw [hlocate, hlocate', find?_congr hcovers, ← List.find?_map,
      h.map_candidates (hspans ▸ hne) hplace]
  · have hzero : sweep.spans.size = 0 := by omega
    rw [locate?_of_isEmpty hzero, locate?_of_isEmpty (h.size_spans.trans hzero), Option.map_none]

end IsTurned

/-! ## Sweeps that are built -/

/-- A sweep turned by `c`, with its wedges and rays counted from other ones on, and what that means:
nobody who looks at it can tell where north was. -/
structure IsTurnedBy (c : Rat) (number : Nat → Nat) (firstSpan firstRay : Nat)
    (sweep turned : Sweep Rat) : Prop
    extends IsTurned (turnAzimuth c) number firstSpan firstRay sweep turned where
  /-- Neighbors share a ray as before. -/
  shares : ∀ i span next, AreNeighbors turned.spans.toList i span next →
    ∃ before nextBefore, AreNeighbors sweep.spans.toList ((i + firstSpan) % sweep.spans.size)
        before nextBefore ∧
      before.radial = number span.radial ∧ nextBefore.radial = number next.radial ∧
      (before.endRay = nextBefore.startRay ↔ span.endRay = next.startRay)
  /-- Wedges are as wide as before, and their starts are turned. -/
  bounds : ∀ (i : Nat) span, turned.spans[i]? = some span →
    ∃ before, sweep.spans[(i + firstSpan) % sweep.spans.size]? = some before ∧
      before.radial = number span.radial ∧
      turned.bounds span = (turnAzimuth c (sweep.bounds before).1, (sweep.bounds before).2)
  /-- The search finds the wedge of the same radial as before. -/
  locate : ∀ azimuth, (turned.locate? (azimuth + c)).map (number ·.radial) =
    (sweep.locate? azimuth).map (·.radial)

theorem IsTurned.isTurnedBy {c : Rat} {number : Nat → Nat} {firstSpan firstRay : Nat}
    {sweep turned : Sweep Rat} {starts : List Rat}
    (h : IsTurned (turnAzimuth c) number firstSpan firstRay sweep turned)
    (hrays : ∀ span ∈ turned.spans, ∃ start finish, turned.HasRays span start finish)
    (hstarts : sweep.nominalStarts = starts.toArray) (hspans : sweep.spans.size = starts.length)
    (hascending : Ascending starts)
    (hascending' : Ascending ((starts.map (turnAzimuth c)).rotate firstSpan)) :
    IsTurnedBy c number firstSpan firstRay sweep turned := by
  have hturn := isTurn_turnAzimuth c
  refine ⟨h, ?_, ?_, ?_⟩
  · intro i span next hneighbors
    obtain ⟨start, finish, hspan⟩ := hrays span
      (Array.mem_toList_iff.1 (List.mem_of_getElem? hneighbors.1))
    obtain ⟨start', finish', hnext⟩ := hrays next
      (Array.mem_toList_iff.1 (List.mem_of_getElem? hneighbors.2))
    exact ⟨_, _, h.areNeighbors hneighbors, rfl, rfl, h.shares_iff hspan hnext⟩
  · intro i span hspan
    obtain ⟨start, finish, hbounds⟩ := hrays span (Array.mem_of_getElem? hspan)
    have hi : i < sweep.spans.size := by
      rw [← h.size_spans]
      exact (Array.getElem?_eq_some_iff.1 hspan).1
    refine ⟨_, ?_, rfl, h.bounds hturn hbounds⟩
    rw [h.getElem?_spans hi, hspan, Option.map_some]
  · intro azimuth
    have hlocate := h.locate?_turn hturn hstarts hspans hascending hascending' hrays azimuth
    rw [← hlocate, Option.map_map, ← locate?_congr turned (normalizeAzimuth_modEq (azimuth + c))]
    rfl

/-- There is no seam at north, and it makes no difference in which order radials are listed: the
sweep of radials that are turned is the turned sweep. -/
theorem build_turned {radials : List (Radial Rat)} {order : List (Radial Rat × Nat)}
    (horder : order.Perm radials.zipIdx)
    (hdistinct : ((radials.filter (0 < ·.gates.size)).map
      fun radial => normalizeAzimuth radial.azimuth).Nodup) (tolerance c : Rat) :
    ∃ firstSpan firstRay, IsTurnedBy c (place order) firstSpan firstRay
      (build radials tolerance) (build (turnRadials c order) tolerance) := by
  have hascending := ascending_extents hdistinct
  obtain ⟨-, -, -, hascending'⟩ := extents_turnRadials horder hascending c
  obtain ⟨firstSpan, firstRay, h⟩ := isTurned_build horder hascending tolerance c
  have hstarts := h.nominalStarts
  rw [nominalStarts_build, nominalStarts_build] at hstarts
  exact ⟨firstSpan, firstRay, h.isTurnedBy (fun span hspan => (mem_spans hspan).2)
    (nominalStarts_build radials tolerance)
    ((size_spans_build radials tolerance).trans (List.length_map _).symm) hascending
    (hstarts ▸ hascending')⟩

/-- Radials that meet at north, a gap and a radial without gates, turned until the gap is at
north. -/
theorem build_turned_gap_at_north :
    let radials : List (Radial Rat) := [⟨350, 10, .literal8, .bytes #[1]⟩,
      ⟨1 / 4, 5, .literal8, .bytes #[1]⟩, ⟨200, 3, .literal8, .bytes #[]⟩,
      ⟨-160, 0, .literal8, .bytes #[1]⟩]
    let order := radials.zipIdx.reverse
    order.Perm radials.zipIdx ∧
    ((radials.filter (0 < ·.gates.size)).map
      fun radial => normalizeAzimuth radial.azimuth).Nodup ∧
    ∃ firstSpan firstRay, IsTurnedBy 250 (place order) firstSpan firstRay
      (build radials (1 / 2)) (build (turnRadials 250 order) (1 / 2)) := by
  intro radials order
  have horder : order.Perm radials.zipIdx := List.reverse_perm _
  have hdistinct : ((radials.filter (0 < ·.gates.size)).map
      fun radial => normalizeAzimuth radial.azimuth).Nodup := by decide +kernel
  exact ⟨horder, hdistinct, build_turned horder hdistinct (1 / 2) 250⟩

end WeatherRadar.Geo.Sweep
