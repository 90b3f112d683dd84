import WeatherRadar.Proofs.Png.Colors
import WeatherRadar.Png.Writing
/-!
# Two searches for colors

Small images are searched for colors pixel by pixel, large ones chunk by chunk with any number of
workers and in any order within a chunk.  Both searches give up on the same pixels, those of more
than 256 colors, and otherwise both resolve every pixel to its own color (`searches_agree`).  A
chunk that is left before its end has shown too many colors already, so that the search gives up
anyway.
-/

namespace WeatherRadar.Png

theorem length_pixelsFrom (found : List Rgba) (bytes : List UInt8) :
    (pixelsFrom found bytes).length = found.length + bytes.length / 4 := by
  fun_induction pixelsFrom found bytes with
  | case1 found r g b a rest ih =>
      rw [ih, List.length_cons]
      simp only [List.length_cons]
      omega
  | case2 bytes found hshort =>
      -- fewer than four bytes spell no pixel
      have hfew : bytes.length < 4 := by
        match bytes, hshort with
        | [], _ => simp
        | [_], _ => simp
        | [_, _], _ => simp
        | [_, _, _], _ => simp
        | r :: g :: b :: a :: rest, hshort => exact (hshort r g b a rest rfl).elim
      rw [List.length_reverse, Nat.div_eq_of_lt hfew, Nat.add_zero]

theorem length_pixelsOf (bytes : List UInt8) : (pixelsOf bytes).length = bytes.length / 4 := by
  rw [pixelsOf, length_pixelsFrom, List.length_nil, Nat.zero_add]

namespace IndexedImage

/-- An image has a palette of the colors of some pixels, and for each pixel the number under which
its color is found. -/
structure Resolves (image : IndexedImage) (pixels : List Rgba) : Prop where
  palette : IsPaletteOf image.palette pixels
  size_indices : image.indices.size = pixels.length
  number : ∀ (i : Nat) (color : Rgba), pixels[i]? = some color →
    ∃ index, image.indices[i]? = some index ∧ image.palette.idxOf? color = some index.toNat ∧
      image.pixel? i = some color

/-- A color has one place in a palette, and the search for it ends there. -/
theorem idxOf?_of_getElem? {palette : Array Rgba} (hnodup : palette.toList.Nodup) {place : Nat}
    {color : Rgba} (hplace : palette[place]? = some color) :
    palette.idxOf? color = some place := by
  obtain ⟨found, hfound, hat⟩ := idxOf?_of_mem (Array.mem_of_getElem? hplace)
  rw [← Array.getElem?_toList] at hat hplace
  have hlt := (List.getElem?_eq_some_iff.1 hat).1
  rw [hfound, (List.getElem?_inj hlt hnodup).1 (hat.trans hplace.symm)]

theorem Shows.resolves {image : IndexedImage} {pixels : List Rgba} (h : image.Shows pixels) :
    image.Resolves pixels := by
  refine ⟨h.palette, h.length_indices, fun i color hcolor => ?_⟩
  have hplace := congrArg (·[i]?) h.resolved
  simp only [List.getElem?_map, hcolor, Option.map_some, Array.getElem?_toList,
    Option.map_eq_some_iff] at hplace
  obtain ⟨index, hindex, hat⟩ := hplace
  refine ⟨index, hindex, idxOf?_of_getElem? h.palette.nodup hat, ?_⟩
  rw [pixel?, hindex]
  exact hat

theorem Answers.eq_none_iff {pixels : List Rgba} {found : Option IndexedImage}
    (h : Answers pixels found) : found = none ↔ maxPaletteSize < pixels.toFinset.card := by
  cases found with
  | none => exact ⟨fun _ => h, fun _ => rfl⟩
  | some image =>
      refine ⟨fun hnone => absurd hnone (Option.some_ne_none image), fun hmany => ?_⟩
      exact absurd hmany (Nat.not_lt.2 (Shows.colorCount_le h))

theorem Answers.resolves {pixels : List Rgba} {found : Option IndexedImage}
    (h : Answers pixels found) {image : IndexedImage} (hfound : found = some image) :
    image.Resolves pixels := by
  rw [hfound] at h
  exact Shows.resolves h

/-- Whatever the number of workers and the order in which the colors of a chunk are taken, the
search in chunks gives up just if the other search does, which is if there are more than 256 colors.
Otherwise both have a palette of the colors of the buffer and resolve all of its pixels. -/
theorem searches_agree {arrange : Nat → List Rgba → List Rgba}
    (harrange : ∀ i colors, (arrange i colors).Perm colors) (workers : Nat)
    (bytes : List UInt8) :
    let pixels := pixelsOf bytes
    (ofChunks? arrange workers pixels = none ↔ ofPixels? pixels = none) ∧
      (ofPixels? pixels = none ↔ 256 < pixels.toFinset.card) ∧
      (pixels.toFinset.card ≤ 256 → ∃ inChunks inTurn,
        ofChunks? arrange workers pixels = some inChunks ∧ ofPixels? pixels = some inTurn ∧
        inChunks.Resolves pixels ∧ inTurn.Resolves pixels ∧
        inChunks.indices.size = bytes.length / 4 ∧ inTurn.indices.size = bytes.length / 4) := by
  intro pixels
  have hchunks := ofChunks?_answers harrange workers pixels
  have hturn := ofPixels?_answers pixels
  refine ⟨hchunks.eq_none_iff.trans hturn.eq_none_iff.symm, hturn.eq_none_iff, fun hfew => ?_⟩
  obtain ⟨inChunks, hinChunks⟩ := Option.ne_none_iff_exists'.1 fun hnone =>
    Nat.not_lt.2 hfew (hchunks.eq_none_iff.1 hnone)
  obtain ⟨inTurn, hinTurn⟩ := Option.ne_none_iff_exists'.1 fun hnone =>
    Nat.not_lt.2 hfew (hturn.eq_none_iff.1 hnone)
  have hresolved := hchunks.resolves hinChunks
  have hresolved' := hturn.resolves hinTurn
  refine ⟨inChunks, inTurn, hinChunks, hinTurn, hresolved, hresolved', ?_, ?_⟩
  · rw [hresolved.size_indices, length_pixelsOf]
  · rw [hresolved'.size_indices, length_pixelsOf]

/-- Three pixels of two colors and a stray byte.  A chunk lists its colors in another order than
they occur in, so that the palettes differ. -/
theorem searches_agree_other_order :
    let arrange := fun (_ : Nat) (colors : List Rgba) => colors
    let bytes : List UInt8 := [1, 2, 3, 255, 7, 8, 9, 0, 1, 2, 3, 255, 4]
    (∀ i colors, (arrange i colors).Perm colors) ∧ ∃ inChunks inTurn,
      ofChunks? arrange 2 (pixelsOf bytes) = some inChunks ∧
      ofPixels? (pixelsOf bytes) = some inTurn ∧ inChunks.palette ≠ inTurn.palette ∧
      inChunks.Resolves (pixelsOf bytes) ∧ inTurn.Resolves (pixelsOf bytes) ∧
      inChunks.indices.size = 3 ∧ inTurn.indices.size = 3 := by
  intro arrange bytes
  have harrange : ∀ i colors, (arrange i colors).Perm colors := fun _ _ => .rfl
  have hfew : (pixelsOf bytes).toFinset.card ≤ 256 :=
    (List.toFinset_card_le _).trans (by decide)
  have hpixels : bytes.length / 4 = 3 := by decide
  have hagree := (searches_agree harrange 2 bytes).2.2 hfew
  rw [hpixels] at hagree
  obtain ⟨inChunks, inTurn, hinChunks, hinTurn, hresolved⟩ := hagree
  have hpalettes : (ofChunks? arrange 2 (pixelsOf bytes)).map (·.palette) ≠
      (ofPixels? (pixelsOf bytes)).map (·.palette) := by decide +kernel
  rw [hinChunks, hinTurn] at hpalettes
  exact ⟨harrange, inChunks, inTurn, hinChunks, hinTurn,
    fun hsame => hpalettes (congrArg some hsame), hresolved⟩

end IndexedImage

end WeatherRadar.Png
