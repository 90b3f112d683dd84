import Mathlib.Data.List.Flatten
import WeatherRadar.Proofs.Geo.PolarTable
import WeatherRadar.Proofs.Render.Quads
import WeatherRadar.Render.Raster
/-!
# Meshes and raster images agree

A mesh goes through the gates of a sweep wedge by wedge, a raster image asks a table for the gate
under each pixel.  Both draw the same gates in the same colors (`frames_agree`).
-/

namespace WeatherRadar.Render

open Geo Level3

/-! ## Gates that a mesh draws -/

/-- The gates of the wedges of a sweep: wedge by wedge and outward. -/
def sweepGates (radials : List (Radial Float)) (sweep : Sweep Float) : List (RadialSpan × Nat) :=
  sweep.spans.toList.flatMap fun span =>
    match radials[span.radial]? with
    | none => []
    | some radial => (List.range radial.gates.size).map (span, ·)

/-- The corners of a gate between the rays of a wedge. -/
def gateCorners (georeference : Georeference) (geometry : GateGeometry) (sweep : Sweep Float)
    (span : RadialSpan) (gate : Nat) : List GeoPoint :=
  [Mesh.cornerAt georeference geometry sweep span.startRay gate,
    Mesh.cornerAt georeference geometry sweep span.endRay gate,
    Mesh.cornerAt georeference geometry sweep span.endRay (gate + 1),
    Mesh.cornerAt georeference geometry sweep span.startRay (gate + 1)]

/-- A mesh of quads for some gates, one behind the other.  The vertices of the `k`-th gate start at
`4 * k`. -/
structure Mesh.ConsistsOf (mesh : Mesh) (georeference : Georeference) (geometry : GateGeometry)
    (sweep : Sweep Float) (gates : List (RadialSpan × Nat)) : Prop where
  positions : mesh.positions.toList = gates.flatMap fun (span, gate) =>
    (gateCorners georeference geometry sweep span gate).map
      (Mesh.storedOffset georeference.origin)
  indices : mesh.indices.toList = (List.range gates.length).flatMap Mesh.quadIndices

/-- The gates of a sweep that have a color, with their levels. -/
def coloredGates (colors : LevelColors) (radials : List (Radial Float)) (sweep : Sweep Float) :
    List (RadialSpan × UInt16 × Nat) :=
  sweep.spans.toList.flatMap fun span =>
    match radials[span.radial]? with
    | none => []
    | some radial =>
      (radial.gates.toList.zipIdx.filter fun (level, _) => !(colors.color level).isTransparent).map
        (span, ·)

def shownGates (colors : LevelColors) (radials : List (Radial Float)) (sweep : Sweep Float) :
    List (RadialSpan × Nat) :=
  (coloredGates colors radials sweep).map fun (span, _, gate) => (span, gate)

section Gates

variable {colors : LevelColors} {radials : List (Radial Float)} {sweep : Sweep Float}

theorem mem_coloredGates {span : RadialSpan} {level : UInt16} {gate : Nat} :
    (span, level, gate) ∈ coloredGates colors radials sweep ↔ span ∈ sweep.spans ∧
      ∃ radial, radials[span.radial]? = some radial ∧ radial.gates.toList[gate]? = some level ∧
        (colors.color level).isTransparent = false := by
  rw [coloredGates, List.mem_flatMap]
  constructor
  · rintro ⟨found, hfound, hmem⟩
    cases hradial : radials[found.radial]? with
    | none =>
        rw [hradial] at hmem
        cases hmem
    | some radial =>
        rw [hradial] at hmem
        obtain ⟨_, hpair, heq⟩ := List.mem_map.1 hmem
        cases heq
        obtain ⟨hlevel, hcolor⟩ := List.mem_filter.1 hpair
        rw [Bool.not_eq_true'] at hcolor
        exact ⟨Array.mem_toList_iff.1 hfound, radial, hradial,
          List.mem_zipIdx_iff_getElem?.1 hlevel, hcolor⟩
  · rintro ⟨hspan, radial, hradial, hlevel, hcolor⟩
    refine ⟨span, Array.mem_toList_iff.2 hspan, ?_⟩
    rw [hradial]
    refine List.mem_map_of_mem (List.mem_filter.2 ⟨List.mem_zipIdx_iff_getElem?.2 hlevel, ?_⟩)
    exact congrArg not hcolor

theorem shownGates_sublist (colors : LevelColors) (radials : List (Radial Float))
    (sweep : Sweep Float) :
    (shownGates colors radials sweep).Sublist (sweepGates radials sweep) := by
  rw [shownGates, coloredGates, sweepGates, List.map_flatMap]
  apply List.Sublist.flatMap_right
  intro span _
  cases radials[span.radial]? with
  | none => exact .slnil
  | some radial =>
      have hnumbers : radial.gates.toList.zipIdx.map Prod.snd = List.range radial.gates.size := by
        rw [List.zipIdx_map_snd, List.range_eq_range', Mesh.length_toList_gates]
      dsimp only
      rw [← hnumbers, List.map_map, List.map_map]
      exact List.filter_sublist.map _

theorem gateQuads_eq (georeference : Georeference) (geometry : GateGeometry) :
    Mesh.gateQuads georeference geometry sweep colors radials =
      (coloredGates colors radials sweep).map fun (span, level, gate) =>
        Mesh.gateQuad georeference geometry sweep colors span level gate := by
  rw [Mesh.gateQuads, coloredGates, List.map_flatMap]
  apply List.flatMap_congr
  intro span _
  cases radials[span.radial]? with
  | none => rfl
  | some radial =>
      dsimp only
      rw [List.map_map]
      rfl

theorem consistsOf_of_stores {mesh : Mesh} {georeference : Georeference} {geometry : GateGeometry}
    (h : mesh.Stores georeference.origin
      (Mesh.gateQuads georeference geometry sweep colors radials)) :
    mesh.ConsistsOf georeference geometry sweep (shownGates colors radials sweep) := by
  obtain ⟨-, hpositions, -, -, hindices⟩ := h
  rw [gateQuads_eq] at hpositions hindices
  constructor
  · rw [hpositions, List.flatMap_map, shownGates, List.flatMap_map]
    rfl
  · rw [hindices, List.length_map, shownGates, List.length_map]

end Gates

/-! ## Colors of vertices and pixels -/

theorem get?_gates (gates : GateLevels) (gate : Nat) : gates.get? gate = gates.toList[gate]? := by
  cases gates with
  | bytes levels =>
      rw [GateLevels.get?, GateLevels.toList, List.getElem?_map, Array.getElem?_toList]
  | words levels => rw [GateLevels.get?, GateLevels.toList, Array.getElem?_toList]

namespace RasterImage

theorem build_eq {geometry : GateGeometry} (hgeometry : geometry.validate = .ok ())
    (radials : List (Radial Float)) (sweep : Sweep Float) (georeference : Georeference)
    (colors : LevelColors) (most : Nat) :
    build radials sweep georeference geometry colors most =
      (coveringGrid georeference geometry (longestRadial radials) most).map fun grid =>
        ofTable grid (PolarTable.build grid georeference sweep geometry (longestRadial radials))
          radials.toArray colors := by
  cases hgrid : coveringGrid georeference geometry (longestRadial radials) most with
  | error fault =>
      simp only [build, hgeometry, hgrid]
      rfl
  | ok grid =>
      simp only [build, hgeometry, hgrid]
      rfl

theorem getElem?_ofTable {grid : RasterGrid Float} (table : PolarTable)
    (radials : Array (Radial Float)) (colors : LevelColors) {pixel : Nat}
    (hpixel : pixel < grid.pixelCount) : (ofTable grid table radials colors).pixels[pixel]? =
      some (colorUnder table radials colors pixel) := by
  rw [ofTable, Array.getElem?_ofFn, dif_pos hpixel]

theorem colorUnder_of_none {table : PolarTable} {radials : Array (Radial Float)}
    {colors : LevelColors} {pixel : Nat} (h : table.get? pixel = none) :
    colorUnder table radials colors pixel = noDataColor := by
  rw [colorUnder, h]
  rfl

theorem colorUnder_of_some {table : PolarTable} {radials : List (Radial Float)}
    {colors : LevelColors} {pixel number gate : Nat} {radial : Radial Float}
    (h : table.get? pixel = some (number, gate)) (hradial : radials[number]? = some radial) :
    colorUnder table radials.toArray colors pixel =
      (radial.gates.toList[gate]?.map colors.color).getD noDataColor := by
  rw [colorUnder, h, ← get?_gates]
  simp only [Option.bind_eq_bind, Option.bind_some, List.getElem?_toArray, hradial]
  rw [Option.map_eq_bind]
  rfl

end RasterImage

theorem isTransparent_iff (color : Rgba) : color.isTransparent = true ↔ color.a = 0 := by
  rw [Rgba.isTransparent, beq_iff_eq]

/-! ## Agreement -/

/-- A pixel, with its entry in the table and its color, agrees with a mesh of quads for some
gates. -/
structure PixelAgrees (radials : List (Radial Float)) (sweep : Sweep Float) (mesh : Mesh)
    (gates : List (RadialSpan × Nat)) (entry : Option (Nat × Nat)) (color : Rgba) : Prop where
  /-- Where the table has no gate, nothing is shown. -/
  uncovered : entry = none → color.a = 0
  /-- The radial of an entry has a wedge, as long as the table can tell all radials apart. -/
  covered : radials.length ≤ 2 ^ 32 → ∀ radial gate, entry = some (radial, gate) →
    ∃ span ∈ sweep.spans, span.radial = radial
  /-- A gate of a wedge can be seen just if it has a quad. -/
  shown : ∀ span ∈ sweep.spans, ∀ gate, entry = some (span.radial, gate) →
    (color.a ≠ 0 ↔ (span, gate) ∈ gates)
  /-- Every vertex of its quad has the color of the pixel. -/
  colors : ∀ span gate k, entry = some (span.radial, gate) → gates[k]? = some (span, gate) →
    ∀ i < verticesPerGate, mesh.colors[verticesPerGate * k + i]? = some color

/-- Every pixel of an image agrees with a mesh of quads for some gates. -/
def Agrees (radials : List (Radial Float)) (sweep : Sweep Float) (mesh : Mesh)
    (gates : List (RadialSpan × Nat)) (table : PolarTable) (image : RasterImage) : Prop :=
  ∀ pixel < image.grid.pixelCount, ∃ color, image.pixels[pixel]? = some color ∧
    PixelAgrees radials sweep mesh gates (table.get? pixel) color

section Pixel

variable {colors : LevelColors} {radials : List (Radial Float)} {sweep : Sweep Float}

theorem mem_shownGates {span : RadialSpan} (hspan : span ∈ sweep.spans) {radial : Radial Float}
    (hradial : radials[span.radial]? = some radial) (gate : Nat) :
    (span, gate) ∈ shownGates colors radials sweep ↔
      ((radial.gates.toList[gate]?.map colors.color).getD noDataColor).a ≠ 0 := by
  rw [Ne, ← isTransparent_iff, shownGates, List.mem_map]
  constructor
  · rintro ⟨⟨found, level, gate'⟩, hmem, heq⟩
    cases heq
    obtain ⟨-, radial', hradial', hlevel, hcolor⟩ := mem_coloredGates.1 hmem
    obtain rfl := Option.some.inj (hradial.symm.trans hradial')
    rw [hlevel, Option.map_some, Option.getD_some, hcolor]
    exact Bool.false_ne_true
  · intro hvisible
    cases hlevel : radial.gates.toList[gate]? with
    | none =>
        rw [hlevel] at hvisible
        exact absurd rfl hvisible
    | some level =>
        rw [hlevel, Option.map_some, Option.getD_some, Bool.not_eq_true] at hvisible
        exact ⟨(span, level, gate),
          mem_coloredGates.2 ⟨hspan, radial, hradial, hlevel, hvisible⟩, rfl⟩

theorem getElem?_colors {mesh : Mesh} {georeference : Georeference} {geometry : GateGeometry}
    (hmesh : mesh.Stores georeference.origin
      (Mesh.gateQuads georeference geometry sweep colors radials))
    {k : Nat} {span : RadialSpan} {gate : Nat}
    (hk : (shownGates colors radials sweep)[k]? = some (span, gate)) :
    ∃ radial level, span ∈ sweep.spans ∧ radials[span.radial]? = some radial ∧
      radial.gates.toList[gate]? = some level ∧
      ∀ i < verticesPerGate,
        mesh.colors[verticesPerGate * k + i]? = some (colors.color level) := by
  rw [shownGates, List.getElem?_map, Option.map_eq_some_iff] at hk
  obtain ⟨⟨found, level, gate'⟩, hfound, heq⟩ := hk
  cases heq
  obtain ⟨hspan, radial, hradial, hlevel, -⟩ := mem_coloredGates.1 (List.mem_of_getElem? hfound)
  refine ⟨radial, level, hspan, hradial, hlevel, fun i hi => ?_⟩
  rw [← Array.getElem?_toList, hmesh.colors, getElem?_flatMap_replicate _ _ _ hi, gateQuads_eq,
    List.getElem?_map, hfound]
  rfl

theorem pixelAgrees {mesh : Mesh} {georeference : Georeference} {geometry : GateGeometry}
    (hmesh : mesh.Stores georeference.origin
      (Mesh.gateQuads georeference geometry sweep colors radials))
    (hspans : ∀ span ∈ sweep.spans, ∃ radial, radials[span.radial]? = some radial)
    {grid : RasterGrid Float} {gates pixel : Nat} (hpixel : pixel < grid.pixelCount) :
    let table := PolarTable.build grid georeference sweep geometry gates
    PixelAgrees radials sweep mesh (shownGates colors radials sweep) (table.get? pixel)
      (RasterImage.colorUnder table radials.toArray colors pixel) := by
  intro table
  constructor
  · intro hnone
    rw [RasterImage.colorUnder_of_none hnone]
    rfl
  · intro hcount radial gate hentry
    refine PolarTable.mem_of_get?_build (fun span hspan => ?_) hpixel hentry
    obtain ⟨radial, hradial⟩ := hspans span hspan
    have hnumber := (List.getElem?_eq_some_iff.1 hradial).1
    omega
  · intro span hspan gate hentry
    obtain ⟨radial, hradial⟩ := hspans span hspan
    rw [RasterImage.colorUnder_of_some hentry hradial, mem_shownGates hspan hradial]
  · intro span gate k hentry hk
    obtain ⟨radial, level, -, hradial, hlevel, hcolors⟩ := getElem?_colors hmesh hk
    rw [RasterImage.colorUnder_of_some hentry hradial, hlevel]
    exact hcolors

end Pixel

/-- A mesh and a raster image of the same radials agree.  The mesh has quads for some gates of the
sweep, and an image shows just these, in the colors of their quads, whichever grid is found for
it. -/
theorem frames_agree (radials : List (Radial Float)) (tolerance : Float)
    (georeference : Georeference) {geometry : GateGeometry}
    (hgeometry : geometry.validate = .ok ()) (colors : LevelColors) :
    let sweep := Sweep.build radials tolerance
    let tableOf := fun grid =>
      PolarTable.build grid georeference sweep geometry (longestRadial radials)
    let imageOn := fun grid =>
      RasterImage.ofTable grid (tableOf grid) radials.toArray colors
    ∃ mesh gates, Mesh.build radials sweep georeference geometry colors = .ok mesh ∧
      gates.Sublist (sweepGates radials sweep) ∧
      mesh.ConsistsOf georeference geometry sweep gates ∧
      (∀ most, RasterImage.build radials sweep georeference geometry colors most =
        (RasterImage.coveringGrid georeference geometry (longestRadial radials) most).map
          imageOn) ∧
      ∀ grid, Agrees radials sweep mesh gates (tableOf grid) (imageOn grid) := by
  intro sweep tableOf imageOn
  have hspans : ∀ span ∈ sweep.spans, (∃ radial, radials[span.radial]? = some radial) ∧
      ∃ start finish, sweep.HasRays span start finish := fun span => Sweep.mem_spans
  have hmesh := Mesh.stores_ofQuads georeference.origin
    (Mesh.hasFourCorners_gateQuads georeference geometry sweep colors radials)
  refine ⟨_, shownGates colors radials sweep, ?_, shownGates_sublist colors radials sweep,
    consistsOf_of_stores hmesh, ?_, ?_⟩
  · rw [← Mesh.quads_eq_gateQuads georeference geometry hspans, Mesh.build,
      Georeference.gateEdges, hgeometry]
    rfl
  · intro most
    exact RasterImage.build_eq hgeometry radials sweep georeference colors most
  · intro grid pixel hpixel
    exact ⟨_, RasterImage.getElem?_ofTable _ _ _ hpixel,
      pixelAgrees hmesh (fun span hspan => (hspans span hspan).1) hpixel⟩

/-- Radials of different length, one of them without a direction, and levels that are hidden or past
the last color. -/
theorem frames_agree_hidden_levels :
    let radials : List (Radial Float) := [⟨1.0, 1.0, .literal8, .bytes #[1, 0, 2]⟩,
      ⟨0.0 / 0.0, 1.0, .literal8, .bytes #[1, 1, 1, 1]⟩, ⟨0.0, 1.0, .literal8, .bytes #[0, 1]⟩]
    let georeference : Georeference :=
      ⟨⟨"KTLX", "Twin Lakes", 35.3331, -97.2778, 370.0⟩, .wgs84⟩
    let geometry : GateGeometry := ⟨0.5, 2000.0, 1000.0⟩
    let colors : LevelColors := ⟨#[noDataColor, .opaqueColor 0 200 0], #[LevelColors.noValue, 17.0]⟩
    let sweep := Sweep.build radials 0.5
    let tableOf := fun grid =>
      PolarTable.build grid georeference sweep geometry (longestRadial radials)
    let imageOn := fun grid =>
      RasterImage.ofTable grid (tableOf grid) radials.toArray colors
    geometry.validate = .ok () ∧
    ∃ mesh gates, Mesh.build radials sweep georeference geometry colors = .ok mesh ∧
      gates.Sublist (sweepGates radials sweep) ∧
      mesh.ConsistsOf georeference geometry sweep gates ∧
      (∀ most, RasterImage.build radials sweep georeference geometry colors most =
        (RasterImage.coveringGrid georeference geometry (longestRadial radials) most).map
          imageOn) ∧
      ∀ grid, Agrees radials sweep mesh gates (tableOf grid) (imageOn grid) := by
  intro radials georeference geometry colors sweep tableOf imageOn
  have hgeometry : geometry.validate = .ok () := by
    have hfault : geometry.fault? = none := by decide +kernel
    rw [GateGeometry.validate, hfault]
  exact ⟨hgeometry, frames_agree radials 0.5 georeference hgeometry colors⟩

end WeatherRadar.Render
