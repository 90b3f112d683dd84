import Mathlib.Algebra.Order.BigOperators.Group.List
import Mathlib.Data.List.Perm.Subperm
import WeatherRadar.Proofs.Geo.Arrangement
import WeatherRadar.Proofs.Level3.WellFormed
import WeatherRadar.Proofs.Render.Quads
import WeatherRadar.Render.Frame
/-!
# How large meshes get

The radials of a product that was read, and the gates of each, are counted by 16-bit numbers that
are not negative.  That just keeps the number of vertices of a mesh below `2 ^ 32`, so that no index
is cut off.  A sweep may leave radials out but draws none twice, so that a mesh has no more vertices
than the policy estimates from all radials (`vertices_le_estimate`).  Both bounds hold of every mesh
frame of a product that was read (`mesh_within_limits`).
-/

namespace WeatherRadar.Render

open Geo Level3

/-! ## Gates that are drawn, counted -/

/-- The number of gates of a radial that are drawn. -/
def visibleCount (colors : LevelColors) (radial : Radial Float) : Nat :=
  radial.gates.toList.countP colors.isVisible

theorem estimateVertices_eq (colors : LevelColors) (radials : List (Radial Float)) :
    estimateVertices colors radials =
      verticesPerGate * (radials.map (visibleCount colors)).sum := by
  rw [estimateVertices, List.sum_eq_foldl, List.foldl_map, Nat.mul_comm]
  rfl

/-- What is found in different places of a list weighs no more than the whole list. -/
theorem sum_at_le_sum {β : Type} (items : List β) (weight : β → Nat) {places : List Nat}
    (hnodup : places.Nodup) (hplaces : ∀ i ∈ places, i < items.length) :
    (places.map fun i => (items[i]?.map weight).getD 0).sum ≤ (items.map weight).sum := by
  obtain ⟨ordered, hperm, hsub⟩ : places.Subperm (List.range items.length) :=
    List.subperm_of_subset hnodup fun i hi => List.mem_range.2 (hplaces i hi)
  have hall : ((List.range items.length).map fun i => (items[i]?.map weight).getD 0) =
      items.map weight := by
    refine List.ext_getElem (by simp) fun i hi _ => ?_
    rw [List.length_map, List.length_range] at hi
    simp [List.getElem?_eq_getElem hi]
  calc (places.map fun i => (items[i]?.map weight).getD 0).sum
      = (ordered.map fun i => (items[i]?.map weight).getD 0).sum := (hperm.map _).sum_nat.symm
    _ ≤ ((List.range items.length).map fun i => (items[i]?.map weight).getD 0).sum :=
        (hsub.map _).sum_le_sum fun _ _ => Nat.zero_le _
    _ = (items.map weight).sum := by rw [hall]

section Quads

variable (georeference : Georeference) (geometry : GateGeometry) (colors : LevelColors)
  (radials : List (Radial Float))

theorem length_gateQuads (sweep : Sweep Float) :
    (Mesh.gateQuads georeference geometry sweep colors radials).length =
      (sweep.spans.toList.map fun span =>
        (radials[span.radial]?.map (visibleCount colors)).getD 0).sum := by
  rw [Mesh.gateQuads, List.length_flatMap]
  congr 1
  apply List.map_congr_left
  intro span _
  cases radials[span.radial]? with
  | none => rfl
  | some radial =>
      calc _ = radial.gates.toList.zipIdx.countP (colors.isVisible ∘ Prod.fst) := by
            rw [List.length_map, ← List.countP_eq_length_filter]
            rfl
        _ = visibleCount colors radial := by
            rw [← List.countP_map, List.zipIdx_map_fst, visibleCount]

/-- A mesh has no more vertices than all radials together would take. -/
theorem vertices_le_estimate (tolerance : Float) :
    verticesPerGate * (Mesh.gateQuads georeference geometry (Sweep.build radials tolerance) colors
      radials).length ≤ estimateVertices colors radials := by
  have honce := (Sweep.isArranged_build radials tolerance).once
  rw [estimateVertices_eq, length_gateQuads]
  apply Nat.mul_le_mul_left
  have hsum := sum_at_le_sum radials (visibleCount colors) honce fun i hi => by
    obtain ⟨span, hspan, rfl⟩ := List.mem_map.1 hi
    obtain ⟨⟨radial, hradial⟩, -⟩ := Sweep.mem_spans (Array.mem_toList_iff.1 hspan)
    exact (List.getElem?_eq_some_iff.1 hradial).1
  rwa [List.map_map] at hsum

theorem longestRadial_le {n : Nat} (h : ∀ radial ∈ radials, radial.gates.size ≤ n) :
    longestRadial radials ≤ n := by
  have hfold : ∀ (sizes : List Nat) (start : Nat), start ≤ n → (∀ size ∈ sizes, size ≤ n) →
      sizes.foldl max start ≤ n := by
    intro sizes
    induction sizes with
    | nil => exact fun start hstart _ => hstart
    | cons size sizes ih =>
        intro start hstart hsizes
        exact ih _ (Nat.max_le.2 ⟨hstart, hsizes size List.mem_cons_self⟩)
          fun other hother => hsizes other (List.mem_cons_of_mem size hother)
  refine hfold _ 0 (Nat.zero_le n) fun size hsize => ?_
  obtain ⟨radial, hradial, rfl⟩ := List.mem_map.1 hsize
  exact h radial hradial

/-- The vertices of radials that are counted by 16-bit numbers have 32-bit numbers, if barely:
`4 * 32767 * 32767` is `2 ^ 32 - 262140`. -/
theorem vertices_lt (tolerance : Float) (hradials : radials.length ≤ 32767)
    (hgates : ∀ radial ∈ radials, radial.gates.size ≤ 32767) :
    verticesPerGate * (Mesh.gateQuads georeference geometry (Sweep.build radials tolerance) colors
      radials).length < 2 ^ 32 := by
  have hquads := Mesh.length_gateQuads_le georeference geometry (Sweep.build radials tolerance)
    colors radials
  have hwedges := (Sweep.size_build_le radials tolerance).trans hradials
  have hmost : (Mesh.gateQuads georeference geometry (Sweep.build radials tolerance) colors
      radials).length ≤ 32767 * 32767 :=
    hquads.trans (Nat.mul_le_mul hwedges (longestRadial_le radials hgates))
  rw [verticesPerGate]
  omega

end Quads

/-! ## Products that were read -/

/-- A product that was read has no more radials and gates than its packet can count. -/
theorem counts_le_of_wellFormed {product : Product Float} (h : product.WellFormed) :
    product.radials.length ≤ 32767 ∧
      ∀ radial ∈ product.radials, radial.gates.size ≤ 32767 := by
  rw [Product.WellFormed] at h
  split at h
  · refine ⟨?_, fun radial hradial => ?_⟩
    · have hcomplete := h.complete
      have hcount := h.radialCount_le
      omega
    · obtain ⟨packet, encoding, -, -, hpacked⟩ := h.packed
      obtain ⟨levels, hlevels, hsize, -⟩ := (hpacked radial hradial).gates
      have hcount := h.gatesPerRadial_le
      rw [hlevels, GateLevels.size]
      omega
  · rw [h.radials]
    exact ⟨Nat.zero_le _, fun radial hradial => absurd hradial List.not_mem_nil⟩

/-! ## Frames that are built -/

namespace Frame

variable {georeference : Georeference} {geometry : GateGeometry} {colors : LevelColors}
  {options : BuildOptions} {mesh : Mesh}

theorem build_eq_ok {product : Product Float} {palettes : PaletteTable} {stamp : FrameStamp}
    {frame : Frame} (h : build product georeference palettes options stamp = .ok frame) :
    ∃ colors, drawRadials product.radials georeference (.ofHeader product.header) colors options =
      .ok frame.geometry := by
  rw [build] at h
  obtain ⟨found, -, h⟩ := except_bind_eq_ok.1 h
  obtain ⟨drawn, hdrawn, h⟩ := except_bind_eq_ok.1 h
  obtain rfl := Except.ok.inj h
  exact ⟨_, hdrawn⟩

/-- Radials that are drawn as a mesh were to be drawn as one, and their mesh shows its quads. -/
theorem drawRadials_eq_mesh {radials : List (Radial Float)}
    (h : drawRadials radials georeference geometry colors options = .ok (.mesh mesh)) :
    options.kindFor (estimateVertices colors radials) = .mesh ∧
      mesh = Mesh.ofQuads georeference.origin (Mesh.gateQuads georeference geometry
        (Sweep.build radials options.tolerance) colors radials) := by
  have hspans : ∀ span ∈ (Sweep.build radials options.tolerance).spans,
      (∃ radial, radials[span.radial]? = some radial) ∧
        ∃ start finish, (Sweep.build radials options.tolerance).HasRays span start finish :=
    fun span => Sweep.mem_spans
  simp only [drawRadials] at h
  split at h
  · cases h
  cases hkind : options.kindFor (estimateVertices colors radials) with
  | raster =>
      simp only [hkind] at h
      obtain ⟨image, -, h⟩ := except_bind_eq_ok.1 h
      cases Except.ok.inj h
  | mesh =>
      simp only [hkind] at h
      obtain ⟨found, hfound, h⟩ := except_bind_eq_ok.1 h
      obtain rfl : found = mesh := FrameGeometry.mesh.inj (Except.ok.inj h)
      refine ⟨rfl, ?_⟩
      rw [← Mesh.quads_eq_gateQuads georeference geometry hspans]
      cases hgeometry : geometry.validate with
      | error fault =>
          rw [Mesh.build, Georeference.gateEdges, hgeometry] at hfound
          cases hfound
      | ok _ =>
          rw [Mesh.build, Georeference.gateEdges, hgeometry] at hfound
          exact (Except.ok.inj hfound).symm

end Frame

/-- The policy chooses a mesh for views that are near enough and meshes within its budget. -/
theorem kindFor_eq_mesh_iff {options : BuildOptions} {vertices : Nat}
    (hchosen : options.force = none) : options.kindFor vertices = .mesh ↔
      options.detail.meshMinZoom ≤ options.zoom ∧ vertices ≤ options.detail.maxMeshVertices := by
  have hboth : (decide (options.zoom ≥ options.detail.meshMinZoom) &&
      decide (vertices ≤ options.detail.maxMeshVertices)) = true ↔
      options.detail.meshMinZoom ≤ options.zoom ∧ vertices ≤ options.detail.maxMeshVertices := by
    rw [Bool.and_eq_true, decide_eq_true_eq, decide_eq_true_eq]
  rw [BuildOptions.kindFor, hchosen, Option.getD_none, DetailPolicy.choose, ← hboth]
  split
  · next hwithin => exact ⟨fun _ => hwithin, fun _ => rfl⟩
  · next hpast =>
      refine ⟨fun hmesh => ?_, fun hwithin => absurd hwithin hpast⟩
      cases hmesh

/-- A mesh frame of a product that was read has four vertices for each of its quads, and their
numbers are told in full, also where the mesh was forced.  If the policy chose the mesh, then the
view is near enough and the vertices are within its budget. -/
theorem mesh_within_limits {codec : Codec} {bytes : List UInt8} {product : Product Float}
    (hdecode : decodeWith codec bytes = .ok product) {georeference : Georeference}
    {palettes : PaletteTable} {options : BuildOptions} {stamp : FrameStamp} {frame : Frame}
    (hbuild : Frame.build product georeference palettes options stamp = .ok frame) {mesh : Mesh}
    (hmesh : frame.geometry = .mesh mesh) :
    ∃ quads, mesh.Shows georeference.origin quads ∧
      (∀ quad ∈ quads, quad.corners.length = 4) ∧
      mesh.vertexCount = 4 * quads.length ∧ mesh.vertexCount < 2 ^ 32 ∧
      (∀ index ∈ mesh.indices, index.toNat < mesh.vertexCount) ∧
      (options.force = none → options.detail.meshMinZoom ≤ options.zoom ∧
        mesh.vertexCount ≤ options.detail.maxMeshVertices) := by
  obtain ⟨colors, hdrawn⟩ := Frame.build_eq_ok hbuild
  rw [hmesh] at hdrawn
  obtain ⟨hkind, hquads⟩ := Frame.drawRadials_eq_mesh hdrawn
  obtain ⟨message, heading, hmessage, -⟩ := decodeWith_eq_ok hdecode
  obtain ⟨hradials, hgates⟩ := counts_le_of_wellFormed (wellFormed_of_decodeMessage hmessage)
  have hfour := Mesh.hasFourCorners_gateQuads georeference (.ofHeader product.header)
    (Sweep.build product.radials options.tolerance) colors product.radials
  have hsmall := vertices_lt georeference (.ofHeader product.header) colors product.radials
    options.tolerance hradials hgates
  have hshown := Mesh.shows_ofQuads georeference.origin hfour hsmall.le
  rw [← hquads] at hshown
  have hcount := hshown.vertexCount hfour
  refine ⟨_, hshown, hfour, hcount, ?_, (hshown.consistent hfour).2.2, ?_⟩
  · rw [hcount]
    exact hsmall
  · intro hchosen
    obtain ⟨hzoom, hbudget⟩ := (kindFor_eq_mesh_iff hchosen).1 hkind
    have hestimate := vertices_le_estimate georeference (.ofHeader product.header) colors
      product.radials options.tolerance
    rw [hcount]
    exact ⟨hzoom, hestimate.trans hbudget⟩

/-! ## A small product -/

theorem estimateVertices_le (colors : LevelColors) (radials : List (Radial Float)) :
    estimateVertices colors radials ≤
      verticesPerGate * (radials.map fun radial => radial.gates.size).sum := by
  rw [estimateVertices_eq]
  apply Nat.mul_le_mul_left
  apply List.sum_le_sum
  intro radial _
  rw [← Mesh.length_toList_gates]
  exact List.countP_le_length

/-- A product that can be drawn has a mesh frame if that is the kind of frame for its gates. -/
theorem Frame.exists_mesh {product : Product Float} {georeference : Georeference}
    {palettes : PaletteTable} {options : BuildOptions} (stamp : FrameStamp)
    {found : Frame.Ingredients} (hfound : Frame.ingredients product palettes = .ok found)
    (hgeometry : (GateGeometry.ofHeader product.header).validate = .ok ())
    (husable : 0 < product.radials.countP Sweep.isUsable)
    (hkind : ∀ colors, options.kindFor (estimateVertices colors product.radials) = .mesh) :
    ∃ frame mesh, Frame.build product georeference palettes options stamp = .ok frame ∧
      frame.geometry = .mesh mesh := by
  have hsome : (Sweep.build product.radials options.tolerance).isEmpty = false := by
    rw [Sweep.isEmpty, Array.isEmpty_eq_false_iff, ← Array.size_pos_iff, Sweep.build_eq,
      Sweep.size_spans, Sweep.length_drawn]
    exact husable
  rw [Frame.build, hfound]
  simp only [Frame.drawRadials, hsome, hkind, Mesh.build, Georeference.gateEdges, hgeometry]
  exact ⟨_, _, rfl, rfl⟩

theorem Frame.ingredients_eq_ok {product : Product Float} {palettes : PaletteTable}
    {validTime : Instant} {palette : Palette} {levels : DataLevels}
    (hmoment : product.moment = .radial) (hrenderable : product.isRenderable = true)
    (htime : product.header.timestamp? = some validTime)
    (hpalette : palettes.get? product.header.code = some palette)
    (hlevels : product.dataLevels? = some levels) :
    Frame.ingredients product palettes = .ok ⟨validTime, palette, levels⟩ := by
  simp only [Frame.ingredients, hmoment, hrenderable, htime, hpalette, hlevels]
  rfl

/-- Two radials of three gates and one that was left out are drawn as a mesh with any palette for
the product. -/
theorem exists_mesh_droppedSample (georeference : Georeference) (stamp : FrameStamp)
    {palettes : PaletteTable} {palette : Palette} (hpalette : palettes.get? 94 = some palette) :
    ∃ product frame mesh, decodeWith Codec.standard droppedSample = .ok product ∧
      product.droppedRadials.length = 1 ∧
      Frame.build product georeference palettes {} stamp = .ok frame ∧
      frame.geometry = .mesh mesh := by
  have hchecked : ((decodeWith Codec.standard droppedSample :
      Except Error (Product Float)).toOption.any fun product =>
        decide (product.droppedRadials.length = 1) &&
        decide (product.moment = .radial) && product.isRenderable &&
        product.header.timestamp?.isSome && decide (product.header.code = 94) &&
        product.dataLevels?.isSome &&
        (GateGeometry.ofHeader product.header).fault?.isNone &&
        decide (0 < product.radials.countP Sweep.isUsable) &&
        decide ((product.radials.map fun radial => radial.gates.size).sum = 6)) = true := by
    decide +kernel
  obtain ⟨product, hdecode, hpassed⟩ := exists_ok_of_any hchecked
  simp only [Bool.and_eq_true, decide_eq_true_eq, Option.isSome_iff_exists,
    Option.isNone_iff_eq_none] at hpassed
  obtain ⟨⟨⟨⟨⟨⟨⟨⟨hdropped, hmoment⟩, hrenderable⟩, validTime, htime⟩, hcode⟩, levels, hlevels⟩,
    hvalid⟩, husable⟩, hgates⟩ := hpassed
  have hfound := Frame.ingredients_eq_ok hmoment hrenderable htime (hcode ▸ hpalette) hlevels
  have hgeometry : (GateGeometry.ofHeader product.header).validate = .ok () := by
    rw [GateGeometry.validate, hvalid]
  have hzoom : ({} : BuildOptions).detail.meshMinZoom ≤ ({} : BuildOptions).zoom := by
    decide +kernel
  have hkind : ∀ colors,
      ({} : BuildOptions).kindFor (estimateVertices colors product.radials) = .mesh := by
    intro colors
    have hestimate := estimateVertices_le colors product.radials
    rw [hgates] at hestimate
    exact (kindFor_eq_mesh_iff rfl).2 ⟨hzoom, hestimate.trans (by decide)⟩
  obtain ⟨frame, mesh, hbuild, hmesh⟩ := Frame.exists_mesh stamp hfound hgeometry husable hkind
  exact ⟨product, frame, mesh, hdecode, hdropped, hbuild, hmesh⟩

/-- Two radials of three gates and one that was left out, drawn as the policy chooses. -/
theorem mesh_within_limits_dropped :
    let georeference : Georeference :=
      ⟨⟨"KTLX", "Twin Lakes", 35.3331, -97.2778, 370.0⟩, .wgs84⟩
    let palettes : PaletteTable :=
      ⟨[(94, ⟨"Reflectivity", none, [⟨5.0, .opaqueColor 0 200 0, none⟩], standardRangeFolded⟩)]⟩
    let options : BuildOptions := {}
    ∃ product frame mesh, decodeWith Codec.standard droppedSample = .ok product ∧
      product.droppedRadials.length = 1 ∧
      Frame.build product georeference palettes options ⟨1, ⟨0⟩⟩ = .ok frame ∧
      frame.geometry = .mesh mesh ∧ options.force = none ∧
      ∃ quads, mesh.Shows georeference.origin quads ∧
        (∀ quad ∈ quads, quad.corners.length = 4) ∧
        mesh.vertexCount = 4 * quads.length ∧ mesh.vertexCount < 2 ^ 32 ∧
        (∀ index ∈ mesh.indices, index.toNat < mesh.vertexCount) ∧
        options.detail.meshMinZoom ≤ options.zoom ∧
        mesh.vertexCount ≤ options.detail.maxMeshVertices := by
  intro georeference palettes options
  have hpalette : palettes.get? 94 = some _ := rfl
  obtain ⟨product, frame, mesh, hdecode, hdropped, hbuild, hmesh⟩ :=
    exists_mesh_droppedSample georeference ⟨1, ⟨0⟩⟩ hpalette
  obtain ⟨quads, hshown, hfour, hcount, hsmall, hindices, hpolicy⟩ :=
    mesh_within_limits hdecode hbuild hmesh
  exact ⟨product, frame, mesh, hdecode, hdropped, hbuild, hmesh, rfl, quads, hshown, hfour,
    hcount, hsmall, hindices, hpolicy rfl⟩

end WeatherRadar.Render
