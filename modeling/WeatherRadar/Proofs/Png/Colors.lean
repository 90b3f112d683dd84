import Mathlib.Data.Finset.Card
import WeatherRadar.Png.Indexed
import WeatherRadar.Proofs.Png.Rows
/-!
# The colors of pixels

Both ways to search pixels for colors add them to a palette one after the other and then give each
pixel the number of its color; they only differ in the order.  Either finds an image that shows the
pixels, unless there are more colors than a palette holds (`ofPixels?_answers`,
`ofChunks?_answers`).
-/

namespace WeatherRadar.Png

/-- The number of different colors. -/
def colorCount (colors : List Rgba) : Nat := colors.toFinset.card

/-- A palette of some colors has each of them once and no other. -/
structure IsPaletteOf (palette : Array Rgba) (colors : List Rgba) : Prop where
  nodup : palette.toList.Nodup
  mem_iff : ∀ color, color ∈ palette ↔ color ∈ colors

theorem colorCount_le {colors more : List Rgba} (h : ∀ color ∈ colors, color ∈ more) :
    colorCount colors ≤ colorCount more := by
  apply Finset.card_le_card
  intro color hcolor
  exact List.mem_toFinset.2 (h color (List.mem_toFinset.1 hcolor))

theorem IsPaletteOf.size_eq {palette : Array Rgba} {colors : List Rgba}
    (h : IsPaletteOf palette colors) : palette.size = colorCount colors := by
  have hsame : palette.toList.toFinset = colors.toFinset := by
    ext color
    rw [List.mem_toFinset, List.mem_toFinset, Array.mem_toList_iff, h.mem_iff]
  rw [colorCount, ← hsame, List.toFinset_card_of_nodup h.nodup, Array.length_toList]

namespace IndexedImage

/-! ## Adding a color -/

theorem addColor?_eq_some {palette more : Array Rgba} {color : Rgba}
    (h : addColor? palette color = some more) :
    (color ∈ palette ∧ more = palette) ∨
      (color ∉ palette ∧ palette.size < maxPaletteSize ∧ more = palette.push color) := by
  rw [addColor?] at h
  split at h
  · next hmem => exact .inl ⟨Array.contains_iff_mem.1 hmem, (Option.some.inj h).symm⟩
  · next hmem =>
      rw [Array.contains_iff_mem] at hmem
      split at h
      · cases h
      · next hsize => exact .inr ⟨hmem, by omega, (Option.some.inj h).symm⟩

theorem addColor?_eq_none {palette : Array Rgba} {color : Rgba}
    (h : addColor? palette color = none) : color ∉ palette ∧ maxPaletteSize ≤ palette.size := by
  rw [addColor?] at h
  split at h
  · cases h
  · next hmem =>
      rw [Array.contains_iff_mem] at hmem
      split at h
      · next hsize => exact ⟨hmem, hsize⟩
      · cases h

theorem idxOf?_of_mem {palette : Array Rgba} {color : Rgba} (h : color ∈ palette) :
    ∃ i, palette.idxOf? color = some i ∧ palette[i]? = some color := by
  obtain ⟨i, hi⟩ := Option.isSome_iff_exists.1 (Array.isSome_idxOf?.2 h)
  have hlist : palette.toList.toArray = palette := Array.toArray_toList
  refine ⟨i, hi, ?_⟩
  rw [← hlist, List.idxOf?_toArray, List.idxOf?_eq_some_iff] at hi
  obtain ⟨hlt, hat, -⟩ := hi
  rw [← Array.getElem?_toList, List.getElem?_eq_getElem hlt, hat]

/-- A color of a palette is found under its number. -/
theorem getElem?_indexIn {palette : Array Rgba} (hsize : palette.size ≤ maxPaletteSize)
    {color : Rgba} (h : color ∈ palette) :
    palette[(indexIn palette color).toNat]? = some color := by
  obtain ⟨i, hi, hat⟩ := idxOf?_of_mem h
  have hlt : i < palette.size := (Array.getElem?_eq_some_iff.1 hat).1
  have hsmall : i < 256 := Nat.lt_of_lt_of_le hlt hsize
  rw [indexIn, hi, Option.getD_some, UInt8.toNat_ofNat', Nat.mod_eq_of_lt hsmall, hat]

theorem idxOf?_push (palette : Array Rgba) (color other : Rgba) :
    (palette.push other).idxOf? color =
      (palette.idxOf? color).or (if other = color then some palette.size else none) := by
  have hlist : palette.toList.toArray = palette := Array.toArray_toList
  rw [← hlist, List.push_toArray, List.idxOf?_toArray, List.idxOf?_toArray, List.idxOf?,
    List.findIdx?_append, List.size_toArray]
  by_cases hsame : other = color
  · simp [hsame, List.findIdx?_cons]
  · simp [hsame, List.findIdx?_cons]

/-- Adding a color leaves the numbers of the others as they are. -/
theorem indexIn_addColor? {palette more : Array Rgba} {color other : Rgba}
    (h : addColor? palette other = some more) (hcolor : color ∈ palette) :
    indexIn more color = indexIn palette color := by
  rcases addColor?_eq_some h with ⟨-, rfl⟩ | ⟨-, -, rfl⟩
  · rfl
  · obtain ⟨i, hi, -⟩ := idxOf?_of_mem hcolor
    rw [indexIn, indexIn, idxOf?_push, hi, Option.some_or]

theorem mem_addColor? {palette more : Array Rgba} {color other : Rgba}
    (h : addColor? palette other = some more) :
    color ∈ more ↔ color ∈ palette ∨ color = other := by
  rcases addColor?_eq_some h with ⟨hmem, rfl⟩ | ⟨-, -, rfl⟩
  · exact ⟨.inl, fun hor => hor.elim id fun heq => heq ▸ hmem⟩
  · exact Array.mem_push

/-- A pixel that is pushed adds its color and then has its number. -/
theorem push?_eq (image : IndexedImage) (color : Rgba) :
    image.push? color = (addColor? image.palette color).map fun palette =>
      ⟨palette, image.indices.push (indexIn palette color)⟩ := by
  rw [push?, addColor?]
  cases hfind : image.palette.idxOf? color with
  | some i =>
      have hmem : image.palette.contains color = true := by
        rw [Array.contains_iff_mem, ← Array.isSome_idxOf?, hfind]
        rfl
      rw [if_pos hmem, Option.map_some, indexIn, hfind]
      rfl
  | none =>
      have hmem : ¬image.palette.contains color = true := by
        rw [Array.contains_iff_mem]
        exact Array.idxOf?_eq_none_iff.1 hfind
      rw [if_neg hmem]
      dsimp only
      split
      · rfl
      · rw [Option.map_some, indexIn, idxOf?_push, hfind, Option.none_or, if_pos rfl]
        rfl

/-! ## Adding colors one after the other -/

/-- What is found for some colors: a palette of them, or none if they are too many. -/
def IsPaletteIfFew (colors : List Rgba) : Option (Array Rgba) → Prop
  | some palette => IsPaletteOf palette colors ∧ palette.size ≤ maxPaletteSize
  | none => maxPaletteSize < colorCount colors

theorem isPaletteIfFew_addColor? {palette : Array Rgba} {seen : List Rgba}
    (h : IsPaletteIfFew seen (some palette)) (color : Rgba) :
    IsPaletteIfFew (seen ++ [color]) (addColor? palette color) := by
  obtain ⟨hpalette, hsize⟩ := h
  cases hadd : addColor? palette color with
  | none =>
      obtain ⟨hnew, hfull⟩ := addColor?_eq_none hadd
      have hwith : IsPaletteOf (palette.push color) (seen ++ [color]) := by
        constructor
        · rw [Array.toList_push, List.nodup_append_comm, List.singleton_append, List.nodup_cons]
          exact ⟨fun hmem => hnew (Array.mem_toList_iff.1 hmem), hpalette.nodup⟩
        · intro other
          rw [Array.mem_push, hpalette.mem_iff, List.mem_append, List.mem_singleton]
      have hcount := hwith.size_eq
      rw [Array.size_push] at hcount
      show maxPaletteSize < colorCount (seen ++ [color])
      omega
  | some more =>
      have hmem : ∀ other, other ∈ more ↔ other ∈ seen ++ [color] := by
        intro other
        rw [mem_addColor? hadd, hpalette.mem_iff, List.mem_append, List.mem_singleton]
      rcases addColor?_eq_some hadd with ⟨-, rfl⟩ | ⟨hnew, hroom, rfl⟩
      · exact ⟨⟨hpalette.nodup, hmem⟩, hsize⟩
      · refine ⟨⟨?_, hmem⟩, by rw [Array.size_push]; omega⟩
        rw [Array.toList_push, List.nodup_append_comm, List.singleton_append, List.nodup_cons]
        exact ⟨fun hold => hnew (Array.mem_toList_iff.1 hold), hpalette.nodup⟩

theorem isPaletteIfFew_foldlM {palette : Array Rgba} {seen : List Rgba}
    (h : IsPaletteIfFew seen (some palette)) (colors : List Rgba) :
    IsPaletteIfFew (seen ++ colors) (colors.foldlM addColor? palette) := by
  induction colors generalizing palette seen with
  | nil =>
      rw [List.append_nil]
      exact h
  | cons color colors ih =>
      have hfirst := isPaletteIfFew_addColor? h color
      rw [List.foldlM_cons]
      cases hadd : addColor? palette color with
      | none =>
          rw [hadd] at hfirst
          refine Nat.lt_of_lt_of_le hfirst (colorCount_le fun other hother => ?_)
          rw [List.mem_append, List.mem_singleton] at hother
          rw [List.mem_append, List.mem_cons]
          exact hother.imp_right .inl
      | some more =>
          rw [hadd] at hfirst
          have hrest := ih hfirst
          rw [List.append_assoc] at hrest
          exact hrest

theorem isPaletteIfFew_new (colors : List Rgba) :
    IsPaletteIfFew colors (colors.foldlM addColor? #[]) := by
  have hempty : IsPaletteIfFew [] (some #[]) :=
    ⟨⟨List.nodup_nil, fun color => by simp⟩, Nat.zero_le _⟩
  exact isPaletteIfFew_foldlM hempty colors

/-! ## Images of pixels -/

/-- An image that shows pixels by a palette of their colors. -/
structure Shows (image : IndexedImage) (pixels : List Rgba) : Prop where
  palette : IsPaletteOf image.palette pixels
  small : image.palette.size ≤ maxPaletteSize
  resolved : image.indices.toList.map (fun index => image.palette[index.toNat]?) =
    pixels.map some

theorem Shows.length_indices {image : IndexedImage} {pixels : List Rgba} (h : image.Shows pixels) :
    image.indices.toList.length = pixels.length := by
  rw [← List.length_map, h.resolved, List.length_map]

theorem Shows.colorCount_le {image : IndexedImage} {pixels : List Rgba} (h : image.Shows pixels) :
    colorCount pixels ≤ 256 := by
  rw [← h.palette.size_eq]
  exact h.small

theorem Shows.palette_ne_nil {image : IndexedImage} {pixels : List Rgba} (h : image.Shows pixels)
    (hsome : pixels ≠ []) : image.palette.toList ≠ [] := by
  obtain ⟨color, hcolor⟩ := List.exists_mem_of_ne_nil pixels hsome
  have hmem := Array.mem_toList_iff.2 ((h.palette.mem_iff color).2 hcolor)
  exact List.ne_nil_of_mem hmem

/-- What is found for pixels: an image that shows them, or none if they have too many colors. -/
def Answers (pixels : List Rgba) : Option IndexedImage → Prop
  | some image => image.Shows pixels
  | none => maxPaletteSize < colorCount pixels

/-- The numbers of pixels in a palette of their colors. -/
def numbered (pixels : List Rgba) (palette : Array Rgba) : IndexedImage :=
  ⟨palette, (pixels.map (indexIn palette)).toArray⟩

theorem shows_numbered {palette : Array Rgba} {pixels : List Rgba}
    (hpalette : IsPaletteOf palette pixels) (hsize : palette.size ≤ maxPaletteSize) :
    (numbered pixels palette).Shows pixels where
  palette := hpalette
  small := hsize
  resolved := by
    rw [numbered, List.map_map]
    apply List.map_congr_left
    intro color hcolor
    exact getElem?_indexIn hsize ((hpalette.mem_iff color).2 hcolor)

/-- Pixels that were pushed keep their numbers when another one is pushed. -/
theorem push?_numbered {palette : Array Rgba} {seen : List Rgba}
    (hseen : ∀ color ∈ seen, color ∈ palette) (color : Rgba) :
    (numbered seen palette).push? color =
      (addColor? palette color).map (numbered (seen ++ [color])) := by
  rw [push?_eq]
  apply Option.map_congr
  intro more hmore
  have hkept : seen.map (indexIn palette) = seen.map (indexIn more) :=
    List.map_congr_left fun other hother => (indexIn_addColor? hmore (hseen other hother)).symm
  rw [numbered, numbered, List.push_toArray, hkept, List.map_append, List.map_singleton]

/-- Pushing pixels gives the palette of their colors and then the number of each. -/
theorem foldlM_push? {palette : Array Rgba} {seen : List Rgba}
    (hseen : ∀ color ∈ seen, color ∈ palette) (pixels : List Rgba) :
    pixels.foldlM push? (numbered seen palette) =
      (pixels.foldlM addColor? palette).map (numbered (seen ++ pixels)) := by
  induction pixels generalizing palette seen with
  | nil =>
      rw [List.append_nil]
      rfl
  | cons color pixels ih =>
      rw [List.foldlM_cons, List.foldlM_cons, push?_numbered hseen]
      cases hadd : addColor? palette color with
      | none => rfl
      | some more =>
          have hmore : ∀ other ∈ seen ++ [color], other ∈ more := by
            intro other hother
            rw [List.mem_append, List.mem_singleton] at hother
            exact (mem_addColor? hadd).2 (hother.imp_left (hseen other))
          have hrest := ih hmore
          rw [List.append_assoc, List.singleton_append] at hrest
          exact hrest

theorem ofPixels?_eq (pixels : List Rgba) :
    ofPixels? pixels = (pixels.foldlM addColor? #[]).map (numbered pixels) := by
  have hnone : ∀ color ∈ ([] : List Rgba), color ∈ (#[] : Array Rgba) := by simp
  exact foldlM_push? hnone pixels

/-- Pixels are shown, with the colors in the order in which they occur, or they have too many. -/
theorem ofPixels?_answers (pixels : List Rgba) : Answers pixels (ofPixels? pixels) := by
  have hpalette := isPaletteIfFew_new pixels
  rw [ofPixels?_eq]
  cases hcolors : pixels.foldlM addColor? #[] with
  | none =>
      rw [hcolors] at hpalette
      exact hpalette
  | some palette =>
      rw [hcolors] at hpalette
      exact shows_numbered hpalette.1 hpalette.2

/-! ## Chunks of pixels -/

theorem flatten_chunksOf {size : Nat} (hsize : 0 < size) (pixels : Array Rgba) :
    (chunksOf size pixels).flatten = pixels.toList := by
  have hblocks : (chunksOf size pixels).flatten =
      (List.range ((pixels.size + size - 1) / size)).flatMap fun i =>
        (pixels.toList.drop (i * size)).take size := by
    rw [chunksOf, ← List.flatMap_def]
    simp only [← extract_block, Array.toArray_toList]
  have hall : pixels.size ≤ (pixels.size + size - 1) / size * size := by
    have hdiv := Nat.div_add_mod (pixels.size + size - 1) size
    have hmod := Nat.mod_lt (pixels.size + size - 1) hsize
    rw [Nat.mul_comm] at hdiv
    omega
  rw [hblocks, flatMap_blocks, List.take_of_length_le (by rwa [Array.length_toList])]

theorem addNew_spec {found : List Rgba} (color : Rgba) (h : found.Nodup) :
    (addNew found color).Nodup ∧ ∀ other, other ∈ addNew found color ↔
      other ∈ found ∨ other = color := by
  rw [addNew]
  split
  · next hmem =>
      rw [List.contains_iff_mem] at hmem
      exact ⟨h, fun other => ⟨.inl, fun hor => hor.elim id fun heq => heq ▸ hmem⟩⟩
  · next hmem =>
      rw [List.contains_iff_mem] at hmem
      exact ⟨List.nodup_cons.2 ⟨hmem, h⟩, fun other => by rw [List.mem_cons, or_comm]⟩

/-- The colors of a chunk are colors of its pixels, each once, and they are all of them unless they
are too many for a palette already. -/
structure AreChunkColors (found pixels : List Rgba) : Prop where
  nodup : found.Nodup
  subset : ∀ color ∈ found, color ∈ pixels
  complete : found.length ≤ maxPaletteSize → ∀ color ∈ pixels, color ∈ found

theorem areChunkColors_chunkColors (pixels : List Rgba) :
    AreChunkColors (chunkColors pixels) pixels := by
  rw [chunkColors]
  induction pixels using List.reverseRecOn with
  | nil => exact ⟨List.nodup_nil, by simp, by simp⟩
  | append_singleton pixels color ih =>
      rw [List.foldl_append, List.foldl_cons, List.foldl_nil]
      generalize pixels.foldl _ [] = found at ih ⊢
      split
      · next hfull =>
          exact ⟨ih.nodup, fun other hother => List.mem_append_left _ (ih.subset other hother),
            fun hsmall => absurd hsmall (by omega)⟩
      · next hroom =>
          obtain ⟨hnodup, hmem⟩ := addNew_spec color ih.nodup
          refine ⟨hnodup, ?_, ?_⟩
          · intro other hother
            rw [List.mem_append, List.mem_singleton]
            exact ((hmem other).1 hother).imp_left (ih.subset other)
          · intro hsmall other hother
            rw [List.mem_append, List.mem_singleton] at hother
            exact (hmem other).2 (hother.imp_left (ih.complete (by omega) other))

/-- The colors that are found in the chunks of some pixels. -/
def colorsIn (arrange : Nat → List Rgba → List Rgba) (chunks : List (List Rgba)) : List Rgba :=
  chunks.zipIdx.flatMap fun (chunk, i) => arrange i (chunkColors chunk)

variable {arrange : Nat → List Rgba → List Rgba}

theorem mem_colorsIn (harrange : ∀ i colors, (arrange i colors).Perm colors)
    {chunks : List (List Rgba)} {color : Rgba} :
    color ∈ colorsIn arrange chunks ↔ ∃ chunk ∈ chunks, color ∈ chunkColors chunk := by
  rw [colorsIn, List.mem_flatMap]
  constructor
  · rintro ⟨⟨chunk, i⟩, hchunk, hcolor⟩
    exact ⟨chunk, List.mem_of_getElem? (List.mem_zipIdx_iff_getElem?.1 hchunk),
      (harrange i _).mem_iff.1 hcolor⟩
  · rintro ⟨chunk, hchunk, hcolor⟩
    obtain ⟨i, hi⟩ := List.mem_iff_getElem?.1 hchunk
    exact ⟨(chunk, i), List.mem_zipIdx_iff_getElem?.2 hi, (harrange i _).mem_iff.2 hcolor⟩

/-- Where the colors found in chunks fit into a palette, no chunk was left before its end. -/
theorem isPaletteOf_chunks (harrange : ∀ i colors, (arrange i colors).Perm colors)
    {chunks : List (List Rgba)} {palette : Array Rgba}
    (h : IsPaletteOf palette (colorsIn arrange chunks)) (hsize : palette.size ≤ maxPaletteSize) :
    IsPaletteOf palette chunks.flatten := by
  refine ⟨h.nodup, fun color => ?_⟩
  rw [h.mem_iff, mem_colorsIn harrange, List.mem_flatten]
  constructor
  · rintro ⟨chunk, hchunk, hcolor⟩
    exact ⟨chunk, hchunk, (areChunkColors_chunkColors chunk).subset color hcolor⟩
  · rintro ⟨chunk, hchunk, hcolor⟩
    have hfound := areChunkColors_chunkColors chunk
    have hfew : (chunkColors chunk).length ≤ palette.size := by
      rw [h.size_eq, ← List.toFinset_card_of_nodup hfound.nodup]
      exact colorCount_le fun other hother => (mem_colorsIn harrange).2 ⟨chunk, hchunk, hother⟩
    exact ⟨chunk, hchunk, hfound.complete (by omega) color hcolor⟩

/-- The chunks that some workers search for colors. -/
def chunksFor (workers : Nat) (pixels : List Rgba) : List (List Rgba) :=
  chunksOf (chunkSize workers pixels.length) pixels.toArray

theorem flatten_chunksFor (workers : Nat) (pixels : List Rgba) :
    (chunksFor workers pixels).flatten = pixels :=
  flatten_chunksOf (Nat.lt_of_lt_of_le (by decide) (Nat.le_max_right _ 256)) pixels.toArray

theorem ofChunks?_eq (arrange : Nat → List Rgba → List Rgba) (workers : Nat)
    (pixels : List Rgba) :
    ofChunks? arrange workers pixels =
      ((colorsIn arrange (chunksFor workers pixels)).foldlM addColor? #[]).map
        (numbered pixels) := by
  have hnumbered : numbered pixels = fun palette =>
      (⟨palette, numberChunks palette (chunksFor workers pixels)⟩ : IndexedImage) := by
    funext palette
    rw [numberChunks, List.flatMap_def, ← List.map_flatten, flatten_chunksFor, numbered]
  rw [hnumbered, Option.map_eq_bind]
  rfl

/-- Pixels are shown, whatever the order in which the colors of chunks are taken, or they have too
many. -/
theorem ofChunks?_answers (harrange : ∀ i colors, (arrange i colors).Perm colors)
    (workers : Nat) (pixels : List Rgba) :
    Answers pixels (ofChunks? arrange workers pixels) := by
  have hpalette := isPaletteIfFew_new (colorsIn arrange (chunksFor workers pixels))
  rw [ofChunks?_eq]
  cases hcolors : (colorsIn arrange (chunksFor workers pixels)).foldlM addColor? #[] with
  | none =>
      rw [hcolors] at hpalette
      refine Nat.lt_of_lt_of_le hpalette (colorCount_le fun color hcolor => ?_)
      obtain ⟨chunk, hchunk, hfound⟩ := (mem_colorsIn harrange).1 hcolor
      rw [← flatten_chunksFor workers pixels]
      exact List.mem_flatten.2
        ⟨chunk, hchunk, (areChunkColors_chunkColors chunk).subset color hfound⟩
  | some palette =>
      rw [hcolors] at hpalette
      have hall := isPaletteOf_chunks harrange hpalette.1 hpalette.2
      rw [flatten_chunksFor] at hall
      exact shows_numbered hall hpalette.2

end IndexedImage

end WeatherRadar.Png
