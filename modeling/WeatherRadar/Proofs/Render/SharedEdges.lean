import WeatherRadar.Proofs.Render.Agreement
/-!
# Quads that share edges

Where the mismatch between two radials is closed, their wedges have a ray in common, and quads at it
store the very same positions, as do quads one behind the other in a wedge (`build_shares_edges`).
Radials of different length and hidden gates shift the numbers of quads from wedge to wedge, so the
quad of a gate is found by counting the gates that are shown before it (`quadNumber`).
-/

namespace WeatherRadar.Render

open Geo Level3

/-! ## Numbers of quads -/

/-- Whether the radial under a number has a gate that is shown. -/
def IsShown (colors : LevelColors) (radials : List (Radial Float)) (number gate : Nat) : Prop :=
  ∃ radial level, radials[number]? = some radial ∧ radial.gates.toList[gate]? = some level ∧
    colors.isVisible level = true

/-- The levels of the radial of a wedge. -/
def spanLevels (radials : List (Radial Float)) (span : RadialSpan) : List UInt16 :=
  match radials[span.radial]? with
  | none => []
  | some radial => radial.gates.toList

/-- The number of the quad of a gate: as many gates are shown in the wedges before its own, and
before it in its own. -/
def quadNumber (colors : LevelColors) (radials : List (Radial Float)) (sweep : Sweep Float)
    (wedge gate : Nat) : Nat :=
  ((sweep.spans.toList.take wedge).map fun span =>
    (spanLevels radials span).countP colors.isVisible).sum +
  (((sweep.spans[wedge]?.map (spanLevels radials)).getD []).take gate).countP colors.isVisible

section Counting

variable {β γ : Type}

/-- An item of one of several lists comes behind all the lists before. -/
theorem getElem?_flatMap_take {f : β → List γ} {items : List β} {i j : Nat} {item : β} {x : γ}
    (hitem : items[i]? = some item) (hx : (f item)[j]? = some x) :
    (items.flatMap f)[((items.take i).map fun item => (f item).length).sum + j]? = some x := by
  induction items generalizing i with
  | nil => cases hitem
  | cons first items ih =>
      rw [List.flatMap_cons]
      cases i with
      | zero =>
          obtain rfl := Option.some.inj hitem
          rw [List.take_zero, List.map_nil, List.sum_nil, Nat.zero_add,
            List.getElem?_append_left (List.getElem?_eq_some_iff.1 hx).1]
          exact hx
      | succ i =>
          rw [List.take_succ_cons, List.map_cons, List.sum_cons, Nat.add_assoc,
            List.getElem?_append_right (Nat.le_add_right _ _), Nat.add_sub_cancel_left]
          exact ih hitem

/-- An item that passes a filter comes behind those before it that do. -/
theorem getElem?_filter_take {p : β → Bool} {items : List β} {i : Nat} {item : β}
    (hitem : items[i]? = some item) (hp : p item = true) :
    (items.filter p)[(items.take i).countP p]? = some item := by
  induction items generalizing i with
  | nil => cases hitem
  | cons first items ih =>
      cases i with
      | zero =>
          obtain rfl := Option.some.inj hitem
          rw [List.filter_cons_of_pos hp]
          rfl
      | succ i =>
          rw [List.take_succ_cons]
          by_cases hfirst : p first = true
          · rw [List.filter_cons_of_pos hfirst, List.countP_cons_of_pos hfirst,
              List.getElem?_cons_succ]
            exact ih hitem
          · rw [List.filter_cons_of_neg hfirst, List.countP_cons_of_neg hfirst]
            exact ih hitem

theorem countP_take_zipIdx (p : β → Bool) (items : List β) (i : Nat) :
    (items.zipIdx.take i).countP (fun (item, _) => p item) = (items.take i).countP p := by
  calc _ = ((items.zipIdx.take i).map Prod.fst).countP p := by rw [List.countP_map]; rfl
    _ = (items.take i).countP p := by rw [List.map_take, List.zipIdx_map_fst]

end Counting

section Numbers

variable {colors : LevelColors} {radials : List (Radial Float)} {sweep : Sweep Float}

/-- The gates of a wedge that are shown. -/
def wedgeGates (colors : LevelColors) (radials : List (Radial Float)) (span : RadialSpan) :
    List (RadialSpan × Nat) :=
  ((spanLevels radials span).zipIdx.filter fun (level, _) => colors.isVisible level).map
    fun (_, gate) => (span, gate)

theorem shownGates_eq_flatMap :
    shownGates colors radials sweep = sweep.spans.toList.flatMap (wedgeGates colors radials) := by
  rw [shownGates, coloredGates, List.map_flatMap]
  apply List.flatMap_congr
  intro span _
  rw [wedgeGates, spanLevels]
  cases radials[span.radial]? with
  | none => rfl
  | some radial => exact List.map_map

theorem length_wedgeGates (span : RadialSpan) :
    (wedgeGates colors radials span).length =
      (spanLevels radials span).countP colors.isVisible := by
  have hall := countP_take_zipIdx colors.isVisible (spanLevels radials span)
    (spanLevels radials span).length
  rw [List.take_length, List.take_of_length_le List.length_zipIdx.le] at hall
  rw [wedgeGates, List.length_map, ← List.countP_eq_length_filter, hall]

/-- A gate that is shown has the quad of its number. -/
theorem getElem?_shownGates {wedge : Nat} {span : RadialSpan}
    (hspan : sweep.spans[wedge]? = some span) {gate : Nat}
    (hshown : IsShown colors radials span.radial gate) :
    (shownGates colors radials sweep)[quadNumber colors radials sweep wedge gate]? =
      some (span, gate) := by
  obtain ⟨radial, level, hradial, hlevel, hvisible⟩ := hshown
  have hlevels : spanLevels radials span = radial.gates.toList := by rw [spanLevels, hradial]
  have hpair : (spanLevels radials span).zipIdx[gate]? = some (level, gate) := by
    rw [hlevels, List.getElem?_zipIdx, hlevel, Option.map_some, Nat.zero_add]
  have hgate : (wedgeGates colors radials span)[
      ((spanLevels radials span).take gate).countP colors.isVisible]? = some (span, gate) := by
    rw [wedgeGates, List.getElem?_map, ← countP_take_zipIdx, getElem?_filter_take hpair hvisible]
    rfl
  rw [← Array.getElem?_toList] at hspan
  have hplace := getElem?_flatMap_take hspan hgate
  simp only [length_wedgeGates] at hplace
  rw [shownGates_eq_flatMap, quadNumber, ← Array.getElem?_toList, hspan]
  exact hplace

end Numbers

/-! ## Corners of quads -/

namespace Mesh

/-- Where a corner of a quad is stored. -/
def corner? (mesh : Mesh) (quad corner : Nat) : Option (Float32 × Float32) :=
  mesh.positions[verticesPerGate * quad + corner]?

/-- Two quads have a corner in common: both store it, and at the same position. -/
def MeetAt (mesh : Mesh) (quad corner quad' corner' : Nat) : Prop :=
  ∃ position, mesh.corner? quad corner = some position ∧ mesh.corner? quad' corner' = some position

section Corners

variable {mesh : Mesh} {georeference : Georeference} {geometry : GateGeometry}
  {sweep : Sweep Float} {gates : List (RadialSpan × Nat)}

theorem ConsistsOf.corner?_eq (h : mesh.ConsistsOf georeference geometry sweep gates) {k : Nat}
    {span : RadialSpan} {gate corner : Nat} (hk : gates[k]? = some (span, gate))
    (hcorner : corner < verticesPerGate) :
    mesh.corner? k corner = (gateCorners georeference geometry sweep span gate)[corner]?.map
      (storedOffset georeference.origin) := by
  have hlength : ∀ item ∈ gates, ((gateCorners georeference geometry sweep item.1 item.2).map
      (storedOffset georeference.origin)).length = verticesPerGate := fun _ _ => rfl
  rw [corner?, ← Array.getElem?_toList, h.positions,
    getElem?_flatMap_of_length hlength k hcorner, hk, Option.bind_some, List.getElem?_map]

/-- Quads on two sides of a ray have its points in common. -/
theorem ConsistsOf.meet_on_ray (h : mesh.ConsistsOf georeference geometry sweep gates)
    {k k' gate : Nat} {span following : RadialSpan} (hk : gates[k]? = some (span, gate))
    (hk' : gates[k']? = some (following, gate))
    (hray : sweep.ray span.endRay = sweep.ray following.startRay) :
    mesh.MeetAt k 1 k' 0 ∧ mesh.MeetAt k 2 k' 3 := by
  have hcorner : ∀ edge, cornerAt georeference geometry sweep following.startRay edge =
      cornerAt georeference geometry sweep span.endRay edge := by
    intro edge
    rw [cornerAt, ← hray]
    rfl
  constructor
  · refine ⟨_, h.corner?_eq hk (by decide), (h.corner?_eq hk' (by decide)).trans ?_⟩
    exact congrArg (some ∘ storedOffset _) (hcorner gate)
  · refine ⟨_, h.corner?_eq hk (by decide), (h.corner?_eq hk' (by decide)).trans ?_⟩
    exact congrArg (some ∘ storedOffset _) (hcorner (gate + 1))

/-- Quads one behind the other have the points between them in common. -/
theorem ConsistsOf.meet_on_arc (h : mesh.ConsistsOf georeference geometry sweep gates)
    {k k' gate : Nat} {span : RadialSpan} (hk : gates[k]? = some (span, gate))
    (hk' : gates[k']? = some (span, gate + 1)) :
    mesh.MeetAt k 3 k' 0 ∧ mesh.MeetAt k 2 k' 1 :=
  ⟨⟨_, h.corner?_eq hk (by decide), h.corner?_eq hk' (by decide)⟩,
    ⟨_, h.corner?_eq hk (by decide), h.corner?_eq hk' (by decide)⟩⟩

end Corners

/-- Quads of a sweep that touch share their corners, however the gates around them are hidden.  The
quad of a gate of a wedge has the number `quad wedge gate`. -/
structure SharesEdges (mesh : Mesh) (radials : List (Radial Float)) (tolerance : Float)
    (colors : LevelColors) (quad : Nat → Nat → Nat) : Prop where
  /-- A gate that is shown in two radials has a side in common, if their mismatch, the way from
  start to start less the width of the first, is no more than the tolerance and half the width of
  either. -/
  sides : ∀ i extent next gate, Sweep.AreNeighbors (Sweep.drawn radials) i extent next →
    Scalar.abs (clockwiseDelta extent.start next.start - extent.width) ≤
      Scalar.min (Scalar.min (Scalar.max tolerance 0.0) (extent.width * 0.5)) (next.width * 0.5) →
    IsShown colors radials extent.radial gate → IsShown colors radials next.radial gate →
    mesh.MeetAt (quad i gate) 1 (quad ((i + 1) % (Sweep.drawn radials).length) gate) 0 ∧
      mesh.MeetAt (quad i gate) 2 (quad ((i + 1) % (Sweep.drawn radials).length) gate) 3
  /-- Gates one behind the other have the arc between them in common. -/
  arcs : ∀ (i : Nat) (extent : Sweep.Extent Float) gate, (Sweep.drawn radials)[i]? = some extent →
    IsShown colors radials extent.radial gate → IsShown colors radials extent.radial (gate + 1) →
    mesh.MeetAt (quad i gate) 3 (quad i (gate + 1)) 0 ∧
      mesh.MeetAt (quad i gate) 2 (quad i (gate + 1)) 1

section Shared

variable {colors : LevelColors} {radials : List (Radial Float)} {tolerance : Float}

theorem getElem?_spans_drawn (tolerance : Float) (htwo : 2 ≤ (Sweep.drawn radials).length) {i : Nat}
    {extent : Sweep.Extent Float} (hextent : (Sweep.drawn radials)[i]? = some extent) :
    ∃ span, (Sweep.build radials tolerance).spans[i]? = some span ∧
      span.radial = extent.radial := by
  have hbefore : (i + (Sweep.drawn radials).length - 1) % (Sweep.drawn radials).length <
      (Sweep.drawn radials).length := Nat.mod_lt _ (by omega)
  have hbehind : (i + 1) % (Sweep.drawn radials).length < (Sweep.drawn radials).length :=
    Nat.mod_lt _ (by omega)
  obtain ⟨span, hspan, hradial, -⟩ := Sweep.span_ofExtents tolerance htwo
    (List.getElem?_eq_getElem hbefore) hextent (List.getElem?_eq_getElem hbehind)
  rw [Sweep.build_eq]
  exact ⟨span, hspan, hradial⟩

theorem sharesEdges_of_consistsOf {mesh : Mesh} {georeference : Georeference}
    {geometry : GateGeometry} (htwo : 2 ≤ (Sweep.drawn radials).length)
    (hmesh : mesh.ConsistsOf georeference geometry (Sweep.build radials tolerance)
      (shownGates colors radials (Sweep.build radials tolerance))) :
    mesh.SharesEdges radials tolerance colors
      (quadNumber colors radials (Sweep.build radials tolerance)) := by
  constructor
  · intro i extent next gate hneighbors hclosed hshown hnextShown
    -- One wedge finishes at the ray where the next one starts, also from the last to the first.
    obtain ⟨span, behind, ⟨hspan, hbehind⟩, hradial, hnextRadial, hray⟩ :=
      Sweep.wedges_meet htwo hneighbors (Sweep.closes_iff.2 hclosed)
    rw [Array.length_toList, Sweep.size_spans] at hbehind
    rw [← Sweep.build_eq, Array.getElem?_toList] at hspan hbehind
    rw [← Sweep.build_eq] at hray
    exact hmesh.meet_on_ray (getElem?_shownGates hspan (hradial ▸ hshown))
      (getElem?_shownGates hbehind (hnextRadial ▸ hnextShown)) hray
  · intro i extent gate hextent hshown houterShown
    obtain ⟨span, hspan, hradial⟩ := getElem?_spans_drawn tolerance htwo hextent
    exact hmesh.meet_on_arc (getElem?_shownGates hspan (hradial ▸ hshown))
      (getElem?_shownGates hspan (hradial ▸ houterShown))

end Shared

/-- A mesh is built of two usable radials at least, and quads next to each other in it have the very
same corners: those of the last and the first wedge as well, and whatever gates are hidden. -/
theorem build_shares_edges (radials : List (Radial Float)) (tolerance : Float)
    (georeference : Georeference) {geometry : GateGeometry}
    (hgeometry : geometry.validate = .ok ()) (colors : LevelColors)
    (htwo : 2 ≤ radials.countP Sweep.isUsable) :
    let sweep := Sweep.build radials tolerance
    let quad := quadNumber colors radials sweep
    ∃ mesh, Mesh.build radials sweep georeference geometry colors = .ok mesh ∧
      mesh.ConsistsOf georeference geometry sweep (shownGates colors radials sweep) ∧
      (∀ i extent gate, (Sweep.drawn radials)[i]? = some extent →
        IsShown colors radials extent.radial gate →
        ∃ span, sweep.spans[i]? = some span ∧ span.radial = extent.radial ∧
          (shownGates colors radials sweep)[quad i gate]? = some (span, gate)) ∧
      mesh.SharesEdges radials tolerance colors quad := by
  intro sweep quad
  have hspans : ∀ span ∈ sweep.spans, (∃ radial, radials[span.radial]? = some radial) ∧
      ∃ start finish, sweep.HasRays span start finish := fun span => Sweep.mem_spans
  have hmesh := consistsOf_of_stores (stores_ofQuads georeference.origin
    (hasFourCorners_gateQuads georeference geometry sweep colors radials))
  have hdrawn : 2 ≤ (Sweep.drawn radials).length := by
    rw [Sweep.length_drawn]
    exact htwo
  refine ⟨_, ?_, hmesh, ?_, sharesEdges_of_consistsOf hdrawn hmesh⟩
  · rw [← quads_eq_gateQuads georeference geometry hspans, Mesh.build, Georeference.gateEdges,
      hgeometry]
    rfl
  · intro i extent gate hextent hshown
    obtain ⟨span, hspan, hradial⟩ := getElem?_spans_drawn tolerance hdrawn hextent
    exact ⟨span, hspan, hradial, getElem?_shownGates hspan (hradial ▸ hshown)⟩

/-- Two radials that meet at north, of different length and each with a hidden gate: quads 0 to 2
are those of gates 0, 2 and 3 of the first, quads 3 and 4 those of gates 0 and 1 of the second. -/
theorem build_shares_edges_at_north :
    let radials : List (Radial Float) := [⟨0.0, 1.0, .literal8, .bytes #[1, 0, 1, 1]⟩,
      ⟨359.0, 1.0, .literal8, .bytes #[1, 1, 0]⟩]
    let georeference : Georeference :=
      ⟨⟨"KTLX", "Twin Lakes", 35.3331, -97.2778, 370.0⟩, .wgs84⟩
    let geometry : GateGeometry := ⟨0.5, 2000.0, 1000.0⟩
    let colors : LevelColors := ⟨#[noDataColor, .opaqueColor 0 200 0], #[LevelColors.noValue, 17.0]⟩
    let sweep := Sweep.build radials 0.5
    geometry.validate = .ok () ∧ 2 ≤ radials.countP Sweep.isUsable ∧
    ∃ mesh, Mesh.build radials sweep georeference geometry colors = .ok mesh ∧
      mesh.ConsistsOf georeference geometry sweep (shownGates colors radials sweep) ∧
      mesh.MeetAt 3 1 0 0 ∧ mesh.MeetAt 3 2 0 3 ∧ mesh.MeetAt 1 3 2 0 ∧ mesh.MeetAt 1 2 2 1 := by
  intro radials georeference geometry colors sweep
  have hgeometry : geometry.validate = .ok () := by
    have hfault : geometry.fault? = none := by decide +kernel
    rw [GateGeometry.validate, hfault]
  have htwo : 2 ≤ radials.countP Sweep.isUsable := by decide +kernel
  have hdrawn : Sweep.drawn radials = [⟨0, 0.0, 1.0⟩, ⟨1, 359.0, 1.0⟩] := by
    rw [Sweep.drawn_of_pairwise rfl (by decide +kernel)]
    decide +kernel
  obtain ⟨mesh, hmesh, hconsists, -, hshares⟩ :=
    build_shares_edges radials 0.5 georeference hgeometry colors htwo
  have hspans : sweep.spans = #[⟨0, 2, 0⟩, ⟨1, 1, 2⟩] := by
    rw [show sweep = _ from Sweep.build_eq radials 0.5, hdrawn]
    decide +kernel
  have hnumbers : quadNumber colors radials sweep 1 0 = 3 ∧
      quadNumber colors radials sweep 0 0 = 0 ∧ quadNumber colors radials sweep 0 2 = 1 ∧
      quadNumber colors radials sweep 0 3 = 2 := by
    simp only [quadNumber, hspans]
    decide +kernel
  obtain ⟨hlast, hfirst, hinner, houter⟩ := hnumbers
  have hnorth := hshares.sides 1 ⟨1, 359.0, 1.0⟩ ⟨0, 0.0, 1.0⟩ 0
    ⟨by rw [hdrawn]; rfl, by rw [hdrawn]; rfl⟩ (by decide +kernel)
    ⟨_, _, rfl, rfl, rfl⟩ ⟨_, _, rfl, rfl, rfl⟩
  have harc := hshares.arcs 0 ⟨0, 0.0, 1.0⟩ 2 (by rw [hdrawn]; rfl) ⟨_, _, rfl, rfl, rfl⟩
    ⟨_, _, rfl, rfl, rfl⟩
  have haround : (1 + 1) % (Sweep.drawn radials).length = 0 := by rw [hdrawn]; rfl
  rw [haround, hlast, hfirst] at hnorth
  rw [hinner, houter] at harc
  exact ⟨hgeometry, htwo, mesh, hmesh, hconsists, hnorth.1, hnorth.2, harc.1, harc.2⟩

end Mesh

end WeatherRadar.Render
