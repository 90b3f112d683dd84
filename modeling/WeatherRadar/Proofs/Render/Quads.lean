import Mathlib.Algebra.Ring.Nat
import WeatherRadar.Proofs.Blocks
import WeatherRadar.Proofs.Geo.Rays
import WeatherRadar.Render.Mesh
/-!
# The quads of a mesh

A mesh that is built shows the gates that have a color, each between the two rays of its wedge, as
if every corner were placed on its own (`build_shows_gates`).  That points are only computed on rays
that are needed, once for all gates, changes nothing: a ray beside a gate that is drawn is needed
(`needed_of_visible`), and its points reach to the far edge of the longest radial.
-/

namespace WeatherRadar.Render.Mesh

open WeatherRadar.Geo WeatherRadar.Level3

/-! ## Quads in a mesh -/

/-- Degrees east from one meridian to another, with whole turns taken off that make it more than
half a turn either way. -/
def degreesEast (start finish : Float) : Float :=
  let turned := finish - start + 180.0
  let wrapped :=
    if turned.abs < 360.0 then if turned < 0.0 then turned + 360.0 else turned
    else euclideanRemainder turned 360.0
  wrapped - 180.0

theorem degreesEast_eq (start finish : Float) :
    degreesEast start finish = Geodesic.wrapLongitude (finish - start) := by
  have hturn : (fullTurn : Float) = 360.0 := by decide +kernel
  have habs : (360.0 : Float).abs = 360.0 := by decide +kernel
  have hzero : (Scalar.ofInt 0 : Float) = 0.0 := by decide +kernel
  rw [degreesEast, Geodesic.wrapLongitude, hturn]
  generalize finish - start + 180.0 = turned
  by_cases hnear : turned.abs < 360.0
  · have hremainder : Scalar.remainder turned 360.0 = turned := by
      show floatRemainder turned 360.0 = turned
      rw [floatRemainder, habs, if_pos hnear]
    have hlt : Scalar.lt turned 0.0 = decide (turned < 0.0) := rfl
    simp only [if_pos hnear, euclideanRemainder, hremainder, hzero, hlt, decide_eq_true_eq]
  · rw [if_neg hnear]

/-- Where a corner is stored, as seen from a site: degrees east and degrees north, both rounded to
32 bits. -/
def storedOffset (site corner : GeoPoint) : Float32 × Float32 :=
  ((degreesEast site.lon corner.lon).toFloat32, (corner.lat - site.lat).toFloat32)

theorem storedOffset_eq (site corner : GeoPoint) : storedOffset site corner =
    ((offset site corner).1.toFloat32, (offset site corner).2.toFloat32) := by
  rw [storedOffset, degreesEast_eq]
  rfl

/-- A mesh that shows quads one behind the other, as seen from a site: four vertices and two
triangles for each. -/
structure Shows (mesh : Mesh) (site : GeoPoint) (quads : List Quad) : Prop where
  origin : mesh.origin = site
  /-- The corners, as degrees east and degrees north of the site. -/
  positions : mesh.positions.toList = quads.flatMap fun quad => quad.corners.map fun corner =>
    ((degreesEast site.lon corner.lon).toFloat32, (corner.lat - site.lat).toFloat32)
  values : mesh.values.toList =
    quads.flatMap fun quad => List.replicate verticesPerGate quad.value
  colors : mesh.colors.toList =
    quads.flatMap fun quad => List.replicate verticesPerGate quad.color
  indices : mesh.indices.toList.map UInt32.toNat =
    (List.range quads.length).flatMap fun k =>
      [0, 1, 2, 0, 2, 3].map (verticesPerGate * k + ·)

def HasFourCorners (quad : Quad) : Prop := quad.corners.length = verticesPerGate

theorem vertexCount_eq {mesh : Mesh} {site : GeoPoint} {quads : List Quad}
    (h : mesh.positions.toList = quads.flatMap fun quad => quad.corners.map (storedOffset site))
    (hfour : ∀ quad ∈ quads, HasFourCorners quad) :
    mesh.vertexCount = verticesPerGate * quads.length := by
  rw [Mesh.vertexCount, ← Array.length_toList, h]
  apply length_flatMap_of_length
  intro quad hquad
  rw [List.length_map]
  exact hfour quad hquad

theorem Shows.vertexCount {mesh : Mesh} {site : GeoPoint} {quads : List Quad}
    (h : mesh.Shows site quads) (hfour : ∀ quad ∈ quads, HasFourCorners quad) :
    mesh.vertexCount = verticesPerGate * quads.length := vertexCount_eq h.positions hfour

theorem Shows.consistent {mesh : Mesh} {site : GeoPoint} {quads : List Quad}
    (h : mesh.Shows site quads) (hfour : ∀ quad ∈ quads, HasFourCorners quad) :
    mesh.values.size = mesh.vertexCount ∧ mesh.colors.size = mesh.vertexCount ∧
      ∀ index ∈ mesh.indices, index.toNat < mesh.vertexCount := by
  rw [h.vertexCount hfour]
  refine ⟨?_, ?_, ?_⟩
  · rw [← Array.length_toList, h.values]
    exact length_flatMap_of_length fun _ _ => List.length_replicate
  · rw [← Array.length_toList, h.colors]
    exact length_flatMap_of_length fun _ _ => List.length_replicate
  · intro index hindex
    have hmem : index.toNat ∈ mesh.indices.toList.map UInt32.toNat :=
      List.mem_map_of_mem (Array.mem_toList_iff.2 hindex)
    rw [h.indices, List.mem_flatMap] at hmem
    obtain ⟨k, hk, hcorner⟩ := hmem
    rw [List.mem_range] at hk
    simp only [List.map_cons, List.map_nil, List.mem_cons, List.not_mem_nil, or_false,
      verticesPerGate] at hcorner ⊢
    omega

theorem foldl_pushVertex (mesh : Mesh) (corners : List GeoPoint) (value : Float32)
    (color : Rgba) :
    let pushed := corners.foldl (fun mesh corner => mesh.pushVertex corner value color) mesh
    pushed.origin = mesh.origin ∧ pushed.indices = mesh.indices ∧
      pushed.positions.toList = mesh.positions.toList ++ corners.map (storedOffset mesh.origin) ∧
      pushed.values.toList = mesh.values.toList ++ List.replicate corners.length value ∧
      pushed.colors.toList = mesh.colors.toList ++ List.replicate corners.length color := by
  induction corners generalizing mesh with
  | nil => simp
  | cons corner corners ih =>
      obtain ⟨horigin, hindices, hpositions, hvalues, hcolors⟩ :=
        ih (mesh.pushVertex corner value color)
      refine ⟨horigin, hindices, ?_, ?_, ?_⟩
      · rw [List.foldl_cons, hpositions]
        simp [pushVertex, storedOffset_eq]
      · rw [List.foldl_cons, hvalues]
        simp [pushVertex, List.replicate_succ]
      · rw [List.foldl_cons, hcolors]
        simp [pushVertex, List.replicate_succ]

/-- The corners of the two triangles of a quad, as 32-bit numbers. -/
def quadIndices (k : Nat) : List UInt32 :=
  [0, 1, 2, 0, 2, 3].map fun i => UInt32.ofNat (verticesPerGate * k + i)

/-- A mesh that stores quads one behind the other.  However many they are, each has its vertices;
the numbers of vertices are only told as far as 32 bits go. -/
structure Stores (mesh : Mesh) (site : GeoPoint) (quads : List Quad) : Prop where
  origin : mesh.origin = site
  positions : mesh.positions.toList =
    quads.flatMap fun quad => quad.corners.map (storedOffset site)
  values : mesh.values.toList =
    quads.flatMap fun quad => List.replicate verticesPerGate quad.value
  colors : mesh.colors.toList =
    quads.flatMap fun quad => List.replicate verticesPerGate quad.color
  indices : mesh.indices.toList = (List.range quads.length).flatMap quadIndices

theorem Stores.pushQuad {mesh : Mesh} {site : GeoPoint} {quads : List Quad}
    (h : mesh.Stores site quads) (hfour : ∀ quad ∈ quads, HasFourCorners quad) {quad : Quad}
    (hquad : HasFourCorners quad) : (mesh.pushQuad quad).Stores site (quads ++ [quad]) := by
  obtain ⟨horigin, hindices, hpositions, hvalues, hcolors⟩ :=
    foldl_pushVertex mesh quad.corners quad.value quad.color
  rw [hquad] at hvalues hcolors
  rw [h.origin] at hpositions
  constructor
  · exact horigin.trans h.origin
  · rw [List.flatMap_append, List.flatMap_singleton, ← h.positions]
    exact hpositions
  · rw [List.flatMap_append, List.flatMap_singleton, ← h.values]
    exact hvalues
  · rw [List.flatMap_append, List.flatMap_singleton, ← h.colors]
    exact hcolors
  · have hlast : quadIndices quads.length =
        let base := UInt32.ofNat mesh.vertexCount
        [base, base + 1, base + 2, base, base + 2, base + 3] := by
      simp [quadIndices, vertexCount_eq h.positions hfour]
    rw [List.length_append, List.length_singleton, List.range_succ, List.flatMap_append,
      List.flatMap_singleton, ← h.indices, hlast, Mesh.pushQuad, hindices, Array.toList_append]

theorem stores_ofQuads (site : GeoPoint) {quads : List Quad}
    (hfour : ∀ quad ∈ quads, HasFourCorners quad) : (ofQuads site quads).Stores site quads := by
  induction quads using List.reverseRecOn with
  | nil => exact ⟨rfl, rfl, rfl, rfl, rfl⟩
  | append_singleton quads quad ih =>
      have hfirst : ∀ quad ∈ quads, HasFourCorners quad :=
        fun other hother => hfour other (by simp [hother])
      have hlast := (ih hfirst).pushQuad hfirst (hfour quad (by simp))
      rw [ofQuads, List.foldl_append]
      exact hlast

theorem shows_ofQuads (site : GeoPoint) {quads : List Quad}
    (hfour : ∀ quad ∈ quads, HasFourCorners quad)
    (hsmall : verticesPerGate * quads.length ≤ 2 ^ 32) :
    (ofQuads site quads).Shows site quads := by
  have h := stores_ofQuads site hfour
  refine ⟨h.origin, h.positions, h.values, h.colors, ?_⟩
  rw [h.indices, List.map_flatMap]
  apply List.flatMap_congr
  intro k hk
  rw [List.mem_range] at hk
  rw [quadIndices, List.map_map]
  apply List.map_congr_left
  intro i hi
  have hcorner : i < 4 := by
    revert i
    decide
  have hroom : verticesPerGate * k + i < 2 ^ 32 := by
    rw [verticesPerGate] at hsmall ⊢
    omega
  exact UInt32.toNat_ofNat_of_lt' hroom

/-! ## Rays that are needed -/

section Needed

variable {colors : LevelColors} {radials : Array (Radial Float)} {spans : List RadialSpan}

/-- Whether the wedge of a span has a gate that is drawn. -/
def hasVisibleGate (colors : LevelColors) (radials : Array (Radial Float)) (span : RadialSpan) :
    Bool :=
  radials[span.radial]?.any fun radial => radial.gates.toList.any colors.isVisible

/-- Marks the rays of a span with a gate that is drawn. -/
def mark (colors : LevelColors) (radials : Array (Radial Float)) (needed : Array Bool)
    (span : RadialSpan) : Array Bool :=
  if hasVisibleGate colors radials span then
    (needed.setIfInBounds span.startRay true).setIfInBounds span.endRay true
  else needed

theorem neededRays_eq (colors : LevelColors) (radials : Array (Radial Float))
    (sweep : Sweep Float) : neededRays colors radials sweep =
      sweep.spans.toList.foldl (mark colors radials) (Array.replicate sweep.rays.size false) := by
  rw [neededRays, ← Array.foldl_toList]
  rfl

theorem getD_setIfInBounds_of_true {needed : Array Bool} {i : Nat} (j : Nat)
    (h : needed.getD i false = true) : (needed.setIfInBounds j true).getD i false = true := by
  rw [Array.getD_eq_getD_getElem?] at h ⊢
  rw [Array.getElem?_setIfInBounds]
  by_cases hji : j = i
  · subst hji
    have hlt : j < needed.size := by
      by_contra hge
      rw [Array.getElem?_eq_none (by omega)] at h
      cases h
    rw [if_pos rfl, if_pos hlt]
    rfl
  · rw [if_neg hji]
    exact h

theorem getD_setIfInBounds_self {needed : Array Bool} {i : Nat} (h : i < needed.size) :
    (needed.setIfInBounds i true).getD i false = true := by
  rw [Array.getD_eq_getD_getElem?, Array.getElem?_setIfInBounds_self_of_lt h]
  rfl

theorem size_mark (needed : Array Bool) (span : RadialSpan) :
    (mark colors radials needed span).size = needed.size := by
  rw [mark]
  split
  · rw [Array.size_setIfInBounds, Array.size_setIfInBounds]
  · rfl

theorem mark_of_true {needed : Array Bool} {i : Nat} (span : RadialSpan)
    (h : needed.getD i false = true) : (mark colors radials needed span).getD i false = true := by
  rw [mark]
  split
  · exact getD_setIfInBounds_of_true _ (getD_setIfInBounds_of_true _ h)
  · exact h

theorem foldl_mark_of_true {needed : Array Bool} {i : Nat} (h : needed.getD i false = true) :
    (spans.foldl (mark colors radials) needed).getD i false = true := by
  induction spans generalizing needed with
  | nil => exact h
  | cons span spans ih => exact ih (mark_of_true span h)

/-- Marks that are set stay, so the rays of a span with a gate that is drawn are marked at last. -/
theorem foldl_mark_of_mem {needed : Array Bool} {span : RadialSpan} (hspan : span ∈ spans)
    (hvisible : hasVisibleGate colors radials span = true) (hstart : span.startRay < needed.size)
    (hend : span.endRay < needed.size) :
    (spans.foldl (mark colors radials) needed).getD span.startRay false = true ∧
      (spans.foldl (mark colors radials) needed).getD span.endRay false = true := by
  induction spans generalizing needed with
  | nil => cases hspan
  | cons first spans ih =>
      rw [List.foldl_cons]
      rcases List.mem_cons.1 hspan with rfl | hrest
      · have hmarked : mark colors radials needed span =
            (needed.setIfInBounds span.startRay true).setIfInBounds span.endRay true := by
          rw [mark, if_pos hvisible]
        constructor
        · apply foldl_mark_of_true
          rw [hmarked]
          exact getD_setIfInBounds_of_true _ (getD_setIfInBounds_self hstart)
        · apply foldl_mark_of_true
          rw [hmarked]
          apply getD_setIfInBounds_self
          rw [Array.size_setIfInBounds]
          exact hend
      · apply ih hrest
        · rw [size_mark]
          exact hstart
        · rw [size_mark]
          exact hend

end Needed

theorem needed_of_visible {colors : LevelColors} {radials : Array (Radial Float)}
    {sweep : Sweep Float} {span : RadialSpan} (hspan : span ∈ sweep.spans)
    (hstart : span.startRay < sweep.rays.size) (hend : span.endRay < sweep.rays.size)
    (hvisible : hasVisibleGate colors radials span = true) :
    (neededRays colors radials sweep).getD span.startRay false = true ∧
      (neededRays colors radials sweep).getD span.endRay false = true := by
  rw [neededRays_eq]
  apply foldl_mark_of_mem (Array.mem_toList_iff.2 hspan) hvisible
  · rw [Array.size_replicate]
    exact hstart
  · rw [Array.size_replicate]
    exact hend

/-! ## Points on rays -/

section Points

variable (georeference : Georeference) (geometry : GateGeometry) (sweep : Sweep Float)

/-- The place of an edge of a gate on a ray.  The edges are as far apart as gates are long. -/
def cornerAt (ray edge : Nat) : GeoPoint :=
  let place := georeference.locate (sweep.ray ray)
    (geometry.firstGateRange + edge.toFloat * geometry.gateSpacing) geometry.elevation
  ⟨place.lat, place.lon⟩

/-- A gate of a wedge on the map. -/
def gateQuad (colors : LevelColors) (span : RadialSpan) (level : UInt16) (gate : Nat) : Quad where
  corners := [cornerAt georeference geometry sweep span.startRay gate,
    cornerAt georeference geometry sweep span.endRay gate,
    cornerAt georeference geometry sweep span.endRay (gate + 1),
    cornerAt georeference geometry sweep span.startRay (gate + 1)]
  value := colors.value level
  color := colors.color level

/-- The gates of some radials that have a color, wedge by wedge and outward. -/
def gateQuads (colors : LevelColors) (radials : List (Radial Float)) : List Quad :=
  sweep.spans.toList.flatMap fun span =>
    match radials[span.radial]? with
    | none => []
    | some radial =>
      (radial.gates.toList.zipIdx.filter fun (level, _) => !(colors.color level).isTransparent).map
        fun (level, gate) => gateQuad georeference geometry sweep colors span level gate

/-- The points that are computed beforehand, ray by ray. -/
def preparedPoints (colors : LevelColors) (radials : List (Radial Float)) :
    Array (Array GeoPoint) :=
  rayPoints georeference (georeference.edgeSamples geometry (longestRadial radials)) sweep
    (neededRays colors radials.toArray sweep)

variable {georeference geometry sweep}

theorem size_le_longestRadial {radials : List (Radial Float)} {radial : Radial Float}
    (h : radial ∈ radials) : radial.gates.size ≤ longestRadial radials := by
  have hfold : ∀ (sizes : List Nat) (start size : Nat), (size ≤ start ∨ size ∈ sizes) →
      size ≤ sizes.foldl max start := by
    intro sizes
    induction sizes with
    | nil =>
        intro start size hsize
        exact hsize.resolve_right (List.not_mem_nil)
    | cons first sizes ih =>
        intro start size hsize
        apply ih
        rcases hsize with hle | hmem
        · exact .inl (by omega)
        · rcases List.mem_cons.1 hmem with rfl | hrest
          · exact .inl (by omega)
          · exact .inr hrest
  exact hfold _ 0 _ (.inr (List.mem_map_of_mem h))

/-- On a needed ray, the points that are computed beforehand are those of the edges of gates. -/
theorem preparedPoints_of_needed (georeference : Georeference) (geometry : GateGeometry)
    {sweep : Sweep Float} {colors : LevelColors} {radials : List (Radial Float)} {ray : Nat}
    {azimuth : Float} (hray : sweep.rays[ray]? = some azimuth)
    (hneeded : (neededRays colors radials.toArray sweep).getD ray false = true) :
    ∃ points, (preparedPoints georeference geometry sweep colors radials)[ray]? = some points ∧
      points.size = longestRadial radials + 1 ∧
      ∀ edge < points.size,
        points[edge]? = some (cornerAt georeference geometry sweep ray edge) := by
  have hsize : (georeference.ray azimuth
      (georeference.edgeSamples geometry (longestRadial radials))).length =
        longestRadial radials + 1 := by
    rw [Georeference.ray, List.length_map, Georeference.edgeSamples, List.length_map,
      List.length_range]
  refine ⟨(georeference.ray azimuth
    (georeference.edgeSamples geometry (longestRadial radials))).toArray, ?_, ?_, ?_⟩
  · rw [preparedPoints, rayPoints, Array.getElem?_mapIdx, hray, Option.map_some, if_pos hneeded]
  · rw [List.size_toArray, hsize]
  · intro edge hedge
    rw [List.size_toArray, hsize] at hedge
    have hazimuth : sweep.ray ray = azimuth := by
      rw [Sweep.ray, Array.getD_eq_getD_getElem?, hray]
      rfl
    rw [List.getElem?_toArray, Georeference.ray, List.getElem?_map, Georeference.edgeSamples,
      List.getElem?_map, List.getElem?_range hedge, cornerAt, hazimuth]
    rfl

end Points

section Build

variable {colors : LevelColors} {radials : List (Radial Float)} {sweep : Sweep Float}
  {span : RadialSpan}

theorem length_toList_gates (gates : GateLevels) : gates.toList.length = gates.size := by
  cases gates with
  | bytes levels => rw [GateLevels.toList, List.length_map, Array.length_toList, GateLevels.size]
  | words levels => rw [GateLevels.toList, Array.length_toList, GateLevels.size]

theorem preparedPoints_of_ray (georeference : Georeference) (geometry : GateGeometry) {ray : Nat}
    {azimuth : Float} (hray : sweep.rays[ray]? = some azimuth) :
    ∃ points, (preparedPoints georeference geometry sweep colors radials)[ray]? = some points := by
  rw [preparedPoints, rayPoints, Array.getElem?_mapIdx, hray]
  exact ⟨_, rfl⟩

/-- A gate that is drawn finds its four corners among the points that are computed beforehand. -/
theorem quad_of_visible (georeference : Georeference) (geometry : GateGeometry)
    (hspan : span ∈ sweep.spans) {radial : Radial Float}
    (hradial : radials[span.radial]? = some radial) {start finish : Float}
    (hrays : sweep.HasRays span start finish) {gate : Nat} {level : UInt16}
    (hgate : radial.gates.toList[gate]? = some level) (hvisible : colors.isVisible level = true) :
    ∃ near far,
      (preparedPoints georeference geometry sweep colors radials)[span.startRay]? = some near ∧
      (preparedPoints georeference geometry sweep colors radials)[span.endRay]? = some far ∧
      gate + 1 < near.size ∧ gate + 1 < far.size ∧
      quad? near far colors gate level =
        some (gateQuad georeference geometry sweep colors span level gate) := by
  have hwedge : hasVisibleGate colors radials.toArray span = true := by
    rw [hasVisibleGate, List.getElem?_toArray, hradial, Option.any_some, List.any_eq_true]
    exact ⟨level, List.mem_of_getElem? hgate, hvisible⟩
  obtain ⟨hstart, hend⟩ := needed_of_visible hspan
    (Array.getElem?_eq_some_iff.1 hrays.start).1 (Array.getElem?_eq_some_iff.1 hrays.finish).1
    hwedge
  obtain ⟨near, hnear, hnearSize, hnearPoints⟩ :=
    preparedPoints_of_needed georeference geometry hrays.start hstart
  obtain ⟨far, hfar, hfarSize, hfarPoints⟩ :=
    preparedPoints_of_needed georeference geometry hrays.finish hend
  -- The samples reach one edge past the longest radial, so the far edge of a last gate is there.
  have hlevels : gate < radial.gates.toList.length := (List.getElem?_eq_some_iff.1 hgate).1
  rw [length_toList_gates] at hlevels
  have hlongest := size_le_longestRadial (List.mem_of_getElem? hradial)
  have hnearReach : gate + 1 < near.size := by omega
  have hfarReach : gate + 1 < far.size := by omega
  refine ⟨near, far, hnear, hfar, hnearReach, hfarReach, ?_⟩
  rw [quad?, hnearPoints gate (by omega), hfarPoints gate (by omega),
    hfarPoints (gate + 1) hfarReach, hnearPoints (gate + 1) hnearReach]
  rfl

/-- All that the quads of a wedge are looked up by is there. -/
def FindsAll (points : Array (Array GeoPoint)) (colors : LevelColors)
    (radials : List (Radial Float)) (span : RadialSpan) : Prop :=
  ∃ radial near far, radials[span.radial]? = some radial ∧
    points[span.startRay]? = some near ∧ points[span.endRay]? = some far ∧
    ∀ (gate : Nat) (level : UInt16), radial.gates.toList[gate]? = some level →
      colors.isVisible level = true → gate + 1 < near.size ∧ gate + 1 < far.size

theorem findsAll_preparedPoints (georeference : Georeference) (geometry : GateGeometry)
    (hspan : span ∈ sweep.spans) {radial : Radial Float}
    (hradial : radials[span.radial]? = some radial) {start finish : Float}
    (hrays : sweep.HasRays span start finish) :
    FindsAll (preparedPoints georeference geometry sweep colors radials) colors radials span := by
  obtain ⟨near, hnear⟩ := preparedPoints_of_ray georeference geometry hrays.start
  obtain ⟨far, hfar⟩ := preparedPoints_of_ray georeference geometry hrays.finish
  refine ⟨radial, near, far, hradial, hnear, hfar, ?_⟩
  intro gate level hgate hvisible
  obtain ⟨near', far', hnear', hfar', hnearReach, hfarReach, -⟩ :=
    quad_of_visible georeference geometry hspan hradial hrays hgate hvisible
  obtain rfl := Option.some.inj (hnear.symm.trans hnear')
  obtain rfl := Option.some.inj (hfar.symm.trans hfar')
  exact ⟨hnearReach, hfarReach⟩

theorem spanQuads_eq (georeference : Georeference) (geometry : GateGeometry)
    (hspan : span ∈ sweep.spans) {radial : Radial Float}
    (hradial : radials[span.radial]? = some radial) {start finish : Float}
    (hrays : sweep.HasRays span start finish) :
    spanQuads colors radials.toArray (preparedPoints georeference geometry sweep colors radials)
        span =
      (visibleGates colors radial.gates).map fun (gate, level) =>
        gateQuad georeference geometry sweep colors span level gate := by
  rw [spanQuads, List.getElem?_toArray, hradial]
  dsimp only
  rw [← List.filterMap_eq_map]
  apply List.filterMap_congr
  rintro ⟨gate, level⟩ hmem
  obtain ⟨⟨level', gate'⟩, hpair, heq⟩ := List.mem_map.1 hmem
  obtain ⟨rfl, rfl⟩ := Prod.mk.inj heq
  obtain ⟨hlevel, hvisible⟩ := List.mem_filter.1 hpair
  obtain ⟨near, far, hnear, hfar, -, -, hquad⟩ := quad_of_visible georeference geometry hspan
    hradial hrays (List.mem_zipIdx_iff_getElem?.1 hlevel) hvisible
  rw [Array.getD_eq_getD_getElem?, Array.getD_eq_getD_getElem?, hnear, hfar]
  exact hquad

theorem quads_eq_gateQuads (georeference : Georeference) (geometry : GateGeometry)
    (hspans : ∀ span ∈ sweep.spans, (∃ radial, radials[span.radial]? = some radial) ∧
      ∃ start finish, sweep.HasRays span start finish) :
    quads colors radials.toArray (preparedPoints georeference geometry sweep colors radials)
        sweep = gateQuads georeference geometry sweep colors radials := by
  rw [quads, gateQuads, List.flatMap_def, List.flatMap_def]
  congr 1
  apply List.map_congr_left
  intro span hmem
  have hspan : span ∈ sweep.spans := Array.mem_toList_iff.1 hmem
  obtain ⟨⟨radial, hradial⟩, start, finish, hrays⟩ := hspans span hspan
  rw [spanQuads_eq georeference geometry hspan hradial hrays, hradial, visibleGates,
    List.map_map]
  rfl

theorem hasFourCorners_gateQuads (georeference : Georeference) (geometry : GateGeometry)
    (sweep : Sweep Float) (colors : LevelColors) (radials : List (Radial Float)) :
    ∀ quad ∈ gateQuads georeference geometry sweep colors radials, HasFourCorners quad := by
  intro quad hquad
  obtain ⟨span, -, hmem⟩ := List.mem_flatMap.1 hquad
  cases hradial : radials[span.radial]? with
  | none =>
      rw [hradial] at hmem
      cases hmem
  | some radial =>
      rw [hradial] at hmem
      obtain ⟨-, -, rfl⟩ := List.mem_map.1 hmem
      rfl

/-- There are no more quads than gates of the longest radial in every wedge. -/
theorem length_gateQuads_le (georeference : Georeference) (geometry : GateGeometry)
    (sweep : Sweep Float) (colors : LevelColors) (radials : List (Radial Float)) :
    (gateQuads georeference geometry sweep colors radials).length ≤
      sweep.spans.size * longestRadial radials := by
  rw [gateQuads, ← Array.length_toList]
  induction sweep.spans.toList with
  | nil => exact Nat.zero_le _
  | cons span spans ih =>
      rw [List.flatMap_cons, List.length_append, List.length_cons, Nat.succ_mul, Nat.add_comm]
      refine Nat.add_le_add ih ?_
      cases hradial : radials[span.radial]? with
      | none => exact Nat.zero_le _
      | some radial =>
          rw [List.length_map]
          calc _ ≤ radial.gates.toList.zipIdx.length := List.length_filter_le _ _
            _ = radial.gates.size := by rw [List.length_zipIdx, length_toList_gates]
            _ ≤ longestRadial radials := size_le_longestRadial (List.mem_of_getElem? hradial)

end Build

/-- A mesh is built without a look-up past an end, and it shows just the gates that have a color,
each in its place. -/
theorem build_shows_gates (radials : List (Radial Float)) (tolerance : Float)
    (georeference : Georeference) {geometry : GateGeometry}
    (hgeometry : geometry.validate = .ok ()) (colors : LevelColors)
    (hsmall : verticesPerGate * (gateQuads georeference geometry
      (Sweep.build radials tolerance) colors radials).length < 2 ^ 32) :
    let sweep := Sweep.build radials tolerance
    (∀ span ∈ sweep.spans,
      FindsAll (preparedPoints georeference geometry sweep colors radials) colors radials span) ∧
    ∃ mesh, Mesh.build radials sweep georeference geometry colors = .ok mesh ∧
      mesh.Shows ⟨georeference.site.latitude, georeference.site.longitude⟩
        (gateQuads georeference geometry sweep colors radials) ∧
      mesh.values.size = mesh.vertexCount ∧ mesh.colors.size = mesh.vertexCount ∧
      ∀ index ∈ mesh.indices, index.toNat < mesh.vertexCount := by
  intro sweep
  have hspans : ∀ span ∈ sweep.spans, (∃ radial, radials[span.radial]? = some radial) ∧
      ∃ start finish, sweep.HasRays span start finish := fun span => Sweep.mem_spans
  have hfour := hasFourCorners_gateQuads georeference geometry sweep colors radials
  have hshown := shows_ofQuads georeference.origin hfour hsmall.le
  refine ⟨?_, _, ?_, hshown, hshown.consistent hfour⟩
  · intro span hspan
    obtain ⟨⟨radial, hradial⟩, start, finish, hrays⟩ := hspans span hspan
    exact findsAll_preparedPoints georeference geometry hspan hradial hrays
  · rw [← quads_eq_gateQuads georeference geometry hspans, Mesh.build, Georeference.gateEdges,
      hgeometry]
    rfl

/-- Two radials of different length around a gap, with hidden gates before and behind those that
are drawn, and one of hidden gates alone. -/
theorem build_shows_gates_hidden_levels :
    let radials : List (Radial Float) := [⟨1.0, 1.0, .literal8, .bytes #[1, 0, 1]⟩,
      ⟨90.0, 1.0, .literal8, .bytes #[0, 0, 0, 0]⟩, ⟨0.0, 1.0, .literal8, .bytes #[0, 1]⟩]
    let georeference : Georeference :=
      ⟨⟨"KTLX", "Twin Lakes", 35.3331, -97.2778, 370.0⟩, .wgs84⟩
    let geometry : GateGeometry := ⟨0.5, 2000.0, 1000.0⟩
    let colors : LevelColors := ⟨#[noDataColor, .opaqueColor 0 200 0], #[LevelColors.noValue, 17.0]⟩
    let sweep := Sweep.build radials 0.5
    geometry.validate = .ok () ∧
    verticesPerGate * (gateQuads georeference geometry sweep colors radials).length < 2 ^ 32 ∧
    (∀ span ∈ sweep.spans,
      FindsAll (preparedPoints georeference geometry sweep colors radials) colors radials span) ∧
    ∃ mesh, Mesh.build radials sweep georeference geometry colors = .ok mesh ∧
      mesh.Shows ⟨georeference.site.latitude, georeference.site.longitude⟩
        (gateQuads georeference geometry sweep colors radials) ∧
      mesh.values.size = mesh.vertexCount ∧ mesh.colors.size = mesh.vertexCount ∧
      ∀ index ∈ mesh.indices, index.toNat < mesh.vertexCount := by
  intro radials georeference geometry colors sweep
  have hgeometry : geometry.validate = .ok () := by
    have hfault : geometry.fault? = none := by decide +kernel
    rw [GateGeometry.validate, hfault]
  have hsmall : verticesPerGate *
      (gateQuads georeference geometry sweep colors radials).length < 2 ^ 32 := by
    have hquads := length_gateQuads_le georeference geometry sweep colors radials
    have hwedges : sweep.spans.size ≤ 3 := Sweep.size_build_le radials 0.5
    have hlongest : longestRadial radials = 4 := by decide
    rw [hlongest] at hquads
    rw [verticesPerGate]
    omega
  exact ⟨hgeometry, hsmall, build_shows_gates radials 0.5 georeference hgeometry colors hsmall⟩

end WeatherRadar.Render.Mesh
