import WeatherRadar.Proofs.Level3.Framing
import WeatherRadar.Proofs.Png.Chunks
import WeatherRadar.Proofs.Png.Colors
/-!
# Images read back

Pixels that are written as an image are read back as they were, those of transparent pixels
included, with a palette if their colors are few and with all channels otherwise
(`encodeWith_lossless`).  Only the sizes that the format can tell are a limit.
-/

namespace WeatherRadar.Png

/-! ## Pixels and bytes -/

theorem pixelsFrom_flatMap (found pixels : List Rgba) :
    pixelsFrom found (pixels.flatMap pixelBytes) = found.reverse ++ pixels := by
  induction pixels generalizing found with
  | nil =>
      rw [List.append_nil]
      rfl
  | cons color pixels ih =>
      have hstep : pixelsFrom found ((color :: pixels).flatMap pixelBytes) =
          pixelsFrom (color :: found) (pixels.flatMap pixelBytes) := rfl
      rw [hstep, ih, List.reverse_cons, List.append_assoc, List.singleton_append]

theorem pixelsOf_flatMap (pixels : List Rgba) :
    pixelsOf (pixels.flatMap pixelBytes) = pixels := pixelsFrom_flatMap [] pixels

theorem length_flatMap_pixelBytes (pixels : List Rgba) :
    (pixels.flatMap pixelBytes).length = 4 * pixels.length :=
  length_flatMap_of_length fun _ _ => rfl

/-- A byte of a pixel is found at its place. -/
theorem getD_flatMap_pixelBytes {pixels : List Rgba} {i : Nat} {color : Rgba}
    (hi : pixels[i]? = some color) {k : Nat} (hk : k < 4) :
    (pixels.flatMap pixelBytes).toArray.getD (4 * i + k) 0 = ((pixelBytes color)[k]?).getD 0 := by
  have hfour : ∀ color ∈ pixels, (pixelBytes color).length = 4 := fun _ _ => rfl
  rw [Array.getD_eq_getD_getElem?, List.getElem?_toArray,
    getElem?_flatMap_of_length hfour i hk, hi, Option.bind_some]

theorem channelPixels_flatMap (pixels : List Rgba) :
    channelPixels (pixels.flatMap pixelBytes).toArray = pixels := by
  have hcount : (pixels.flatMap pixelBytes).toArray.size / 4 = pixels.length := by
    rw [List.size_toArray, length_flatMap_pixelBytes, Nat.mul_div_cancel_left _ (by decide)]
  rw [channelPixels, hcount]
  apply List.ext_getElem?
  intro i
  rw [List.getElem?_map]
  by_cases hi : i < pixels.length
  · have hcolor := List.getElem?_eq_getElem hi
    have hfirst := getD_flatMap_pixelBytes hcolor (k := 0) (by decide)
    rw [Nat.add_zero] at hfirst
    rw [List.getElem?_range hi, Option.map_some, hfirst,
      getD_flatMap_pixelBytes hcolor (by decide), getD_flatMap_pixelBytes hcolor (by decide),
      getD_flatMap_pixelBytes hcolor (by decide), hcolor]
    rfl
  · rw [List.getElem?_eq_none (by rw [List.length_range]; omega),
      List.getElem?_eq_none (by omega)]
    rfl

/-- Four times as many bytes as pixels spell them. -/
theorem exists_pixels {bytes : List UInt8} {n : Nat} (h : bytes.length = 4 * n) :
    ∃ pixels : List Rgba, pixels.flatMap pixelBytes = bytes ∧ pixels.length = n := by
  induction n generalizing bytes with
  | zero => exact ⟨[], (List.length_eq_zero_iff.1 h).symm, rfl⟩
  | succ n ih =>
      match bytes with
      | r :: g :: b :: a :: rest =>
          have hrest : rest.length = 4 * n := by
            simp only [List.length_cons] at h
            omega
          obtain ⟨pixels, hspelled, hlength⟩ := ih hrest
          exact ⟨⟨r, g, b, a⟩ :: pixels, by rw [List.flatMap_cons, hspelled]; rfl,
            by rw [List.length_cons, hlength]⟩
      | [] | [_] | [_, _] | [_, _, _] => simp at h <;> omega

/-! ## Palettes -/

def channels (color : Rgba) : List UInt8 := [color.r, color.g, color.b]

theorem colors_alphas (palette : List Rgba) :
    File.colors (palette.flatMap channels) (palette.map (·.a)) = palette := by
  induction palette with
  | nil => rfl
  | cons color palette ih =>
      rw [List.flatMap_cons, List.map_cons, channels, List.cons_append, List.cons_append,
        List.cons_append, List.nil_append, File.colors, List.headD_cons, List.tail_cons, ih]

theorem colors_opaque {palette : List Rgba} (h : ∀ color ∈ palette, color.a = 255) :
    File.colors (palette.flatMap channels) [] = palette := by
  induction palette with
  | nil => rfl
  | cons color palette ih =>
      have halpha := h color (by simp)
      rw [List.flatMap_cons, channels, List.cons_append, List.cons_append, List.cons_append,
        List.nil_append, File.colors, List.tail_nil,
        ih fun other hother => h other (by simp [hother])]
      show Rgba.mk color.r color.g color.b 255 :: palette = color :: palette
      rw [← halpha]

/-- The chunks of a palette. -/
def chunksOfPalette (palette : List Rgba) : List Chunk :=
  ⟨letterBytes ['P', 'L', 'T', 'E'], palette.flatMap channels⟩ ::
    if palette.any (·.a < 255) then [⟨letterBytes ['t', 'R', 'N', 'S'], palette.map (·.a)⟩] else []

theorem paletteChunks_eq (palette : List Rgba) :
    paletteChunks palette = (chunksOfPalette palette).flatMap Chunk.bytes := by
  rw [paletteChunks, chunksOfPalette, List.flatMap_cons, chunkBytes_eq, chunkBytes_eq]
  split
  · rw [List.flatMap_singleton]
    rfl
  · rfl

/-! ## Files of images -/

section File

variable (codec : Codec) (width height : Nat) (colorType : ColorType) (palette : List Chunk)
  (stored : List UInt8)

/-- The chunks of an image whose pixels are stored in some bytes, except the one that ends it. -/
def chunksBeforeEnd : List Chunk :=
  ⟨letterBytes ['I', 'H', 'D', 'R'], headerData width height colorType⟩ :: (palette ++
    [⟨letterBytes ['I', 'D', 'A', 'T'],
      codec.deflateStream (scanlines stored (width * colorType.pixelBytes) height)⟩])

def chunksOfImage : List Chunk :=
  chunksBeforeEnd codec width height colorType palette stored ++
    [⟨letterBytes ['I', 'E', 'N', 'D'], []⟩]

theorem fileBytes_eq : fileBytes codec width height colorType (palette.flatMap Chunk.bytes) stored =
    fileOf (chunksOfImage codec width height colorType palette stored) := by
  have hchunks : (chunksOfImage codec width height colorType palette stored).flatMap Chunk.bytes =
      chunkBytes .header (headerData width height colorType) ++ (palette.flatMap Chunk.bytes ++
        (chunkBytes .imageData (codec.deflateStream
          (scanlines stored (width * colorType.pixelBytes) height)) ++ chunkBytes .finish [])) := by
    rw [chunksOfImage, chunksBeforeEnd, List.cons_append, List.flatMap_cons, List.append_assoc,
      List.flatMap_append, chunkBytes_eq, chunkBytes_eq, chunkBytes_eq, List.singleton_append,
      List.flatMap_cons, List.flatMap_singleton]
    rfl
  rw [fileBytes, fileOf, hchunks]
  simp only [List.append_assoc]
  rfl

variable {codec width height colorType palette stored}

/-- What a reader finds in the file of an image. -/
def foundImage (codec : Codec) (width height : Nat) (colorType : ColorType) (palette : List Chunk)
    (stored : List UInt8) : File :=
  ⟨[137, 80, 78, 71, 13, 10, 26, 10],
    (chunksOfImage codec width height colorType palette stored).map Chunk.found, []⟩

/-- Between header and pixels there is nothing but the palette. -/
def IsPaletteChunk (chunk : Chunk) : Prop :=
  chunk.letters = letterBytes ['P', 'L', 'T', 'E'] ∨
    chunk.letters = letterBytes ['t', 'R', 'N', 'S']

theorem letters_ne_end (hpalette : ∀ chunk ∈ palette, IsPaletteChunk chunk) :
    ∀ chunk ∈ chunksBeforeEnd codec width height colorType palette stored,
      chunk.letters ≠ letterBytes ['I', 'E', 'N', 'D'] := by
  intro chunk hchunk
  rw [chunksBeforeEnd, List.mem_cons, List.mem_append, List.mem_singleton] at hchunk
  rcases hchunk with rfl | hmem | rfl
  · show letterBytes _ ≠ letterBytes _
    decide
  · rcases hpalette chunk hmem with hletters | hletters <;> rw [hletters] <;> decide
  · show letterBytes _ ≠ letterBytes _
    decide

theorem header?_foundImage (hwidth : width < 2 ^ 32) (hheight : height < 2 ^ 32) :
    (foundImage codec width height colorType palette stored).header? =
      some (width, height, colorType.code) := by
  have hdata : (foundImage codec width height colorType palette stored).data?
      ['I', 'H', 'D', 'R'] = some (headerData width height colorType) := rfl
  obtain ⟨w0, w1, w2, w3, hw, hwvalue⟩ := uint32Bytes_eq (UInt32.ofNat width)
  obtain ⟨h0, h1, h2, h3, hh, hhvalue⟩ := uint32Bytes_eq (UInt32.ofNat height)
  rw [UInt32.toNat_ofNat_of_lt' hwidth] at hwvalue
  rw [UInt32.toNat_ofNat_of_lt' hheight] at hhvalue
  have hcode : (colorType.code == 3 || colorType.code == 6) = true := by
    cases colorType <;> decide
  rw [headerData, hw, hh] at hdata
  rw [File.header?, hdata]
  simp only [List.cons_append, List.nil_append, hcode, hwvalue, hhvalue, if_true]

theorem rows?_foundImage
    (hcodec : codec.inflateStream (codec.deflateStream
        (scanlines stored (width * colorType.pixelBytes) height)) =
      .ok (scanlines stored (width * colorType.pixelBytes) height, []))
    (hpalette : ∀ chunk ∈ palette, IsPaletteChunk chunk) :
    (foundImage codec width height colorType palette stored).rows? codec =
      some (scanlines stored (width * colorType.pixelBytes) height) := by
  have hnone : (palette.map Chunk.found).filter (·.isNamed ['I', 'D', 'A', 'T']) = [] := by
    rw [List.filter_eq_nil_iff]
    intro found hfound hnamed
    obtain ⟨chunk, hchunk, rfl⟩ := List.mem_map.1 hfound
    have hletters := (isNamed_found chunk _).1 hnamed
    rcases hpalette chunk hchunk with h | h <;> exact absurd (h.symm.trans hletters) (by decide)
  have hdata : (foundImage codec width height colorType palette stored).chunks.filter
      (·.isNamed ['I', 'D', 'A', 'T']) = [⟨letterBytes ['I', 'D', 'A', 'T'], codec.deflateStream
        (scanlines stored (width * colorType.pixelBytes) height), true⟩] := by
    rw [foundImage, chunksOfImage, chunksBeforeEnd, List.cons_append, List.append_assoc,
      List.map_cons, List.map_append, List.filter_cons_of_neg (by exact Bool.false_ne_true),
      List.filter_append, hnone]
    rfl
  rw [File.rows?, hdata]
  simp only [List.flatMap_singleton, hcodec]

/-- An image is read from its file as far as its stored bytes can be resolved. -/
theorem decodeWith_fileOf
    (hcodec : codec.inflateStream (codec.deflateStream
        (scanlines stored (width * colorType.pixelBytes) height)) =
      .ok (scanlines stored (width * colorType.pixelBytes) height, []))
    (hwidth : width < 2 ^ 32) (hheight : height < 2 ^ 32)
    (hpalette : ∀ chunk ∈ palette, IsPaletteChunk chunk)
    (hfits : ∀ chunk ∈ chunksOfImage codec width height colorType palette stored, chunk.Fits)
    (hstored : stored.length = height * (width * colorType.pixelBytes)) :
    decodeWith codec (fileOf (chunksOfImage codec width height colorType palette stored)) =
      ((resolve colorType.code
        (foundImage codec width height colorType palette stored).palette.toArray stored).mapM
          id).map (Image.mk width height colorType.code) := by
  have hfile := ofBytes_fileOf hfits
  have hsound : (foundImage codec width height colorType palette stored).isSound = true :=
    isSound_found (letters_ne_end hpalette) rfl
  have hbytes : bytesPerPixel colorType.code = colorType.pixelBytes := by cases colorType <;> rfl
  rw [← foundImage] at hfile
  simp only [decodeWith, hfile, hsound, header?_foundImage hwidth hheight,
    rows?_foundImage hcodec hpalette, hbytes, Option.bind_eq_bind, Option.bind_some,
    unfiltered?_scanlines hstored, Bool.not_true, Bool.false_eq_true, if_false, Option.map_eq_bind]
  rfl

end File

section Stored

variable {codec : Codec} {width height : Nat}

theorem palette_foundImage (palette : List Rgba) (stored : List UInt8) :
    (foundImage codec width height .indexed (chunksOfPalette palette) stored).palette =
      palette := by
  have htriples : (foundImage codec width height .indexed (chunksOfPalette palette) stored).data?
      ['P', 'L', 'T', 'E'] = some (palette.flatMap channels) := rfl
  have halphas : (foundImage codec width height .indexed (chunksOfPalette palette) stored).data?
      ['t', 'R', 'N', 'S'] =
        if palette.any (·.a < 255) then some (palette.map (·.a)) else none := by
    rw [foundImage, chunksOfImage, chunksBeforeEnd, chunksOfPalette]
    split
    · rfl
    · rfl
  rw [File.palette, htriples, halphas]
  by_cases hany : palette.any (·.a < 255) = true
  · rw [if_pos hany]
    exact colors_alphas palette
  · rw [if_neg hany]
    apply colors_opaque
    intro color hcolor
    rw [List.any_eq_true] at hany
    have hfull : ¬color.a.toNat < 255 := fun hlt =>
      hany ⟨color, hcolor, decide_eq_true (UInt8.lt_iff_toNat_lt.2 hlt)⟩
    have hmost : color.a.toNat < 256 := color.a.toNat_lt
    have hvalue : color.a.toNat = 255 := by omega
    exact UInt8.toNat_inj.1 (hvalue.trans rfl)

theorem isPaletteChunk_of_mem {palette : List Rgba} {chunk : Chunk}
    (h : chunk ∈ chunksOfPalette palette) : IsPaletteChunk chunk := by
  rw [chunksOfPalette, List.mem_cons] at h
  rcases h with rfl | h
  · exact .inl rfl
  · split at h
    · exact .inr (List.mem_singleton.1 h ▸ rfl)
    · cases h

theorem mapM_some (pixels : List Rgba) : (pixels.map some).mapM id = some pixels := by
  rw [List.mapM_map]
  exact List.mapM_pure.trans (congrArg some (List.map_id pixels))

/-- What a codec must do for images of a size: expand the rows that it compressed. -/
def ExpandsRows (codec : Codec) (width height : Nat) : Prop :=
  ∀ rows : List UInt8, rows.length ≤ height * (4 * width + 1) →
    codec.inflateStream (codec.deflateStream rows) = .ok (rows, [])

theorem ExpandsRows.scanlines (h : ExpandsRows codec width height) {colorType : ColorType}
    {stored : List UInt8} (hstored : stored.length = height * (width * colorType.pixelBytes)) :
    codec.inflateStream (codec.deflateStream
        (scanlines stored (width * colorType.pixelBytes) height)) =
      .ok (scanlines stored (width * colorType.pixelBytes) height, []) := by
  apply h
  have hpixel : colorType.pixelBytes ≤ 4 := by cases colorType <;> decide
  rw [length_scanlines hstored, Nat.mul_comm 4]
  exact Nat.mul_le_mul_left height (Nat.succ_le_succ (Nat.mul_le_mul_left width hpixel))

/-- The pixels of an image with a palette are read back. -/
theorem decodeWith_indexed (hcodec : ExpandsRows codec width height) (hwidth : width < 2 ^ 32)
    (hheight : height < 2 ^ 32) {image : IndexedImage} {pixels : List Rgba}
    (hshows : image.Shows pixels) (hlength : image.indices.size = height * width)
    (hfits : ∀ chunk ∈ chunksOfImage codec width height .indexed
      (chunksOfPalette image.palette.toList) image.indices.toList, chunk.Fits) :
    decodeWith codec (fileOf (chunksOfImage codec width height .indexed
        (chunksOfPalette image.palette.toList) image.indices.toList)) =
      some ⟨width, height, 3, pixels⟩ := by
  have hstored : image.indices.toList.length =
      height * (width * ColorType.indexed.pixelBytes) := by
    rw [Array.length_toList, hlength, ColorType.pixelBytes, Nat.mul_one]
  rw [decodeWith_fileOf (hcodec.scanlines hstored) hwidth hheight
    (fun chunk => isPaletteChunk_of_mem) hfits hstored, palette_foundImage, Array.toArray_toList,
    resolve, if_pos (by decide), hshows.resolved, mapM_some]
  rfl

/-- The pixels of an image with all channels are read back. -/
theorem decodeWith_rgba (hcodec : ExpandsRows codec width height) (hwidth : width < 2 ^ 32)
    (hheight : height < 2 ^ 32) {pixels : List Rgba} (hlength : pixels.length = height * width)
    (hfits : ∀ chunk ∈ chunksOfImage codec width height .rgba [] (pixels.flatMap pixelBytes),
      chunk.Fits) :
    decodeWith codec (fileOf (chunksOfImage codec width height .rgba []
        (pixels.flatMap pixelBytes))) = some ⟨width, height, 6, pixels⟩ := by
  have hstored : (pixels.flatMap pixelBytes).length =
      height * (width * ColorType.rgba.pixelBytes) := by
    rw [length_flatMap_pixelBytes, hlength, ColorType.pixelBytes, Nat.mul_comm, Nat.mul_assoc]
  have hnone : ∀ chunk ∈ ([] : List Chunk), IsPaletteChunk chunk := by simp
  rw [decodeWith_fileOf (hcodec.scanlines hstored) hwidth hheight hnone hfits hstored, resolve,
    if_neg (by decide), channelPixels_flatMap, mapM_some]
  rfl

/-! ## Writing -/

theorem checkLength_of_eq (hwidth : 1 ≤ width) (hheight : 1 ≤ height) {bytes : List UInt8}
    {n : Nat} (h : bytes.length = width * height * n) :
    checkLength bytes width height n = .ok () := by
  have hw : (width == 0) = false := by simpa using Nat.ne_of_gt hwidth
  have hh : (height == 0) = false := by simpa using Nat.ne_of_gt hheight
  simp [checkLength, hw, hh, h]

theorem encodeIndexed_eq (codec : Codec) (hwidth : 1 ≤ width) (hheight : 1 ≤ height)
    {palette : List Rgba} {indices : List UInt8} (hindices : indices.length = width * height)
    (hsome : palette ≠ []) (hsmall : palette.length ≤ maxPaletteSize) :
    encodeIndexed codec width height palette indices =
      .ok (fileOf (chunksOfImage codec width height .indexed (chunksOfPalette palette)
        indices)) := by
  have hcheck := checkLength_of_eq (n := 1) hwidth hheight
    (show indices.length = width * height * 1 by omega)
  have hbounds : (palette.isEmpty || palette.length > maxPaletteSize) = false := by
    simp [hsome, hsmall]
  rw [← fileBytes_eq, ← paletteChunks_eq]
  simp only [encodeIndexed, hcheck, hbounds]
  rfl

theorem encodeRgba_eq (codec : Codec) (hwidth : 1 ≤ width) (hheight : 1 ≤ height)
    {bytes : List UInt8} (hbytes : bytes.length = width * height * 4) :
    encodeRgba codec width height bytes =
      .ok (fileOf (chunksOfImage codec width height .rgba [] bytes)) := by
  rw [← fileBytes_eq]
  simp only [encodeRgba, checkLength_of_eq hwidth hheight hbytes]
  rfl

/-- The search of the pixels of an image for colors. -/
def ColorSearch.find? (search : ColorSearch) (width height : Nat) (pixels : List Rgba) :
    Option IndexedImage :=
  if width * height ≥ chunkedFrom then IndexedImage.ofChunks? search.arrange search.workers pixels
  else IndexedImage.ofPixels? pixels

theorem answers_find? {search : ColorSearch}
    (hsearch : ∀ i colors, (search.arrange i colors).Perm colors) (width height : Nat)
    (pixels : List Rgba) :
    IndexedImage.Answers pixels (search.find? width height pixels) := by
  rw [ColorSearch.find?]
  split
  · exact IndexedImage.ofChunks?_answers hsearch search.workers pixels
  · exact IndexedImage.ofPixels?_answers pixels

theorem fits_chunksOfImage {codec : Codec} {colorType : ColorType} {palette : List Chunk}
    {stored : List UInt8} (hpalette : ∀ chunk ∈ palette, IsPaletteChunk chunk)
    (h : ∀ chunk ∈ chunksBeforeEnd codec width height colorType palette stored,
      chunk.data.length < 2 ^ 31) :
    ∀ chunk ∈ chunksOfImage codec width height colorType palette stored, chunk.Fits := by
  intro chunk hchunk
  rw [chunksOfImage, List.mem_append, List.mem_singleton] at hchunk
  rcases hchunk with hmem | rfl
  · refine ⟨?_, (h chunk hmem).trans (by decide)⟩
    rw [chunksBeforeEnd, List.mem_cons, List.mem_append, List.mem_singleton] at hmem
    rcases hmem with rfl | hmem | rfl
    · rfl
    · rcases hpalette chunk hmem with hletters | hletters <;> rw [hletters] <;> rfl
    · rfl
  · exact ⟨rfl, show 0 < 2 ^ 32 by decide⟩

theorem encodeWith_eq (codec : Codec) (search : ColorSearch) (hwidth : 1 ≤ width)
    (hheight : 1 ≤ height) {pixels : List Rgba} (hlength : pixels.length = width * height) :
    encodeWith codec search width height (pixels.flatMap pixelBytes) =
      match search.find? width height pixels with
      | some image => encodeIndexed codec width height image.palette.toList image.indices.toList
      | none => encodeRgba codec width height (pixels.flatMap pixelBytes) := by
  have hbytes : (pixels.flatMap pixelBytes).length = width * height * 4 := by
    rw [length_flatMap_pixelBytes, hlength, Nat.mul_comm]
  simp only [encodeWith, checkLength_of_eq hwidth hheight hbytes, pixelsOf_flatMap]
  rfl

theorem encodeWith_of_some (codec : Codec) {search : ColorSearch} (hwidth : 1 ≤ width)
    (hheight : 1 ≤ height) {pixels : List Rgba} (hlength : pixels.length = width * height)
    {image : IndexedImage} (hfind : search.find? width height pixels = some image)
    (hshows : image.Shows pixels) :
    encodeWith codec search width height (pixels.flatMap pixelBytes) =
      .ok (fileOf (chunksOfImage codec width height .indexed
        (chunksOfPalette image.palette.toList) image.indices.toList)) := by
  have hsome : pixels ≠ [] := List.length_pos_iff.1 (hlength ▸ Nat.mul_pos hwidth hheight)
  rw [encodeWith_eq codec search hwidth hheight hlength, hfind]
  exact encodeIndexed_eq codec hwidth hheight (hshows.length_indices.trans hlength)
    (hshows.palette_ne_nil hsome) hshows.small

theorem encodeWith_of_none (codec : Codec) {search : ColorSearch} (hwidth : 1 ≤ width)
    (hheight : 1 ≤ height) {pixels : List Rgba} (hlength : pixels.length = width * height)
    (hfind : search.find? width height pixels = none) :
    encodeWith codec search width height (pixels.flatMap pixelBytes) =
      .ok (fileOf (chunksOfImage codec width height .rgba [] (pixels.flatMap pixelBytes))) := by
  have hbytes : (pixels.flatMap pixelBytes).length = width * height * 4 := by
    rw [length_flatMap_pixelBytes, hlength, Nat.mul_comm]
  rw [encodeWith_eq codec search hwidth hheight hlength, hfind]
  exact encodeRgba_eq codec hwidth hheight hbytes

end Stored

/-- An image of any size is written, and its pixels are read back, as far as four bytes tell its
size and the lengths of its chunks.  It has a palette, color type 3, if its colors are few, and all
channels, color type 6, otherwise.  The chunk behind the others ends the file. -/
theorem encodeWith_lossless {codec : Codec} {search : ColorSearch} {width height : Nat}
    {bytes : List UInt8} (hcodec : ExpandsRows codec width height)
    (hsearch : ∀ i colors, (search.arrange i colors).Perm colors)
    (hwidth : 1 ≤ width) (hheight : 1 ≤ height) (hbytes : bytes.length = 4 * width * height) :
    ∃ (pixels : List Rgba) (before : List Chunk),
      (pixels.flatMap fun color => [color.r, color.g, color.b, color.a]) = bytes ∧
      encodeWith codec search width height bytes =
        .ok (fileOf (before ++ [⟨letterBytes ['I', 'E', 'N', 'D'], []⟩])) ∧
      (∀ chunk ∈ before, chunk.letters ≠ letterBytes ['I', 'E', 'N', 'D']) ∧
      (width < 2 ^ 32 → height < 2 ^ 32 → (∀ chunk ∈ before, chunk.data.length < 2 ^ 31) →
        decodeWith codec (fileOf (before ++ [⟨letterBytes ['I', 'E', 'N', 'D'], []⟩])) =
          some ⟨width, height, if pixels.toFinset.card ≤ 256 then 3 else 6, pixels⟩) := by
  obtain ⟨pixels, hspelled, hlength⟩ := exists_pixels
    (show bytes.length = 4 * (width * height) by rw [hbytes, Nat.mul_assoc])
  subst hspelled
  have hanswer := answers_find? hsearch width height pixels
  cases hfind : search.find? width height pixels with
  | some image =>
      have hshows : image.Shows pixels := by
        rw [hfind] at hanswer
        exact hanswer
      have hpalette : ∀ chunk ∈ chunksOfPalette image.palette.toList, IsPaletteChunk chunk :=
        fun chunk => isPaletteChunk_of_mem
      refine ⟨pixels, chunksBeforeEnd codec width height .indexed
        (chunksOfPalette image.palette.toList) image.indices.toList, rfl,
        encodeWith_of_some codec hwidth hheight hlength hfind hshows,
        letters_ne_end hpalette, ?_⟩
      intro hwide hhigh hshort
      have hindices := hshows.length_indices.trans hlength
      rw [if_pos (show pixels.toFinset.card ≤ 256 from hshows.colorCount_le)]
      exact decodeWith_indexed hcodec hwide hhigh hshows
        (by rw [← Array.length_toList, hindices, Nat.mul_comm]) (fits_chunksOfImage hpalette hshort)
  | none =>
      have hmany : ¬pixels.toFinset.card ≤ 256 := by
        rw [hfind] at hanswer
        exact Nat.not_le.2 hanswer
      have hnone : ∀ chunk ∈ ([] : List Chunk), IsPaletteChunk chunk := nofun
      refine ⟨pixels, chunksBeforeEnd codec width height .rgba [] (pixels.flatMap pixelBytes), rfl,
        encodeWith_of_none codec hwidth hheight hlength hfind, letters_ne_end hnone, ?_⟩
      intro hwide hhigh hshort
      rw [if_neg hmany]
      exact decodeWith_rgba hcodec hwide hhigh (by rw [hlength, Nat.mul_comm])
        (fits_chunksOfImage hnone hshort)

/-- Blocks that are stored without compression expand, for images that fit in one. -/
theorem expandsRows_stored {codec : Codec} (hinflate : codec.inflateStream = Level3.readStored)
    (hdeflate : codec.deflateStream = Level3.storedStream) {width height : Nat}
    (hsmall : height * (4 * width + 1) < 65536) : ExpandsRows codec width height := by
  intro rows hrows
  have hstream := (Level3.isStreamOf_stored hinflate (hrows.trans_lt hsmall)).inflates []
  rw [List.append_nil] at hstream
  rw [hdeflate]
  exact hstream

theorem length_data_le {chunks : List Chunk} {chunk : Chunk} (h : chunk ∈ chunks) :
    chunk.data.length ≤ (fileOf chunks).length := by
  have hbytes : chunk.data.length ≤ chunk.bytes.length := by
    simp only [Chunk.bytes, List.length_append]
    omega
  have hflat : chunk.bytes.length ≤ (chunks.flatMap Chunk.bytes).length := by
    obtain ⟨before, behind, rfl⟩ := List.append_of_mem h
    simp only [List.flatMap_append, List.flatMap_cons, List.length_append]
    omega
  rw [fileOf, List.length_append]
  omega

/-- Four pixels of three colors, two of them of a transparent one that is not black. -/
theorem encodeWith_lossless_transparent :
    let codec : Codec := { Codec.standard with
      inflateStream := Level3.readStored, deflateStream := Level3.storedStream }
    let pixels : List Rgba := [⟨7, 8, 9, 0⟩, ⟨1, 2, 3, 255⟩, ⟨7, 8, 9, 0⟩, ⟨4, 5, 6, 128⟩]
    ExpandsRows codec 2 2 ∧
      (∀ i colors, (ColorSearch.single.arrange i colors).Perm colors) ∧
      (pixels.flatMap pixelBytes).length = 4 * 2 * 2 ∧
      ∃ file, encodeWith codec .single 2 2 (pixels.flatMap pixelBytes) = .ok file ∧
        decodeWith codec file = some ⟨2, 2, 3, pixels⟩ := by
  have hsize : (encodeWith { Codec.standard with
      inflateStream := Level3.readStored, deflateStream := Level3.storedStream } .single 2 2
      ([⟨7, 8, 9, 0⟩, ⟨1, 2, 3, 255⟩, ⟨7, 8, 9, 0⟩, ⟨4, 5, 6, 128⟩].flatMap
        pixelBytes)).toOption.map List.length = some 110 := by decide +kernel
  intro codec pixels
  have hcodec : ExpandsRows codec 2 2 := expandsRows_stored rfl rfl (by decide)
  have hsearch : ∀ i colors, (ColorSearch.single.arrange i colors).Perm colors :=
    fun _ _ => .rfl
  have hlength : (pixels.flatMap pixelBytes).length = 4 * 2 * 2 := rfl
  refine ⟨hcodec, hsearch, hlength, ?_⟩
  obtain ⟨found, before, hspelled, hfile, -, hread⟩ :=
    encodeWith_lossless hcodec hsearch (by decide) (by decide) hlength
  have hfound : found = pixels := by
    have hsame : found.flatMap pixelBytes = pixels.flatMap pixelBytes := hspelled
    rw [← pixelsOf_flatMap found, hsame, pixelsOf_flatMap]
  subst hfound
  have hshort : ∀ chunk ∈ before, chunk.data.length < 2 ^ 31 := by
    intro chunk hchunk
    change (encodeWith codec .single 2 2 (pixels.flatMap pixelBytes)).toOption.map List.length =
      some 110 at hsize
    rw [hfile] at hsize
    have htotal : (fileOf (before ++ [⟨letterBytes ['I', 'E', 'N', 'D'], []⟩])).length = 110 :=
      Option.some.inj hsize
    have hle :=
      length_data_le (List.mem_append_left [⟨letterBytes ['I', 'E', 'N', 'D'], []⟩] hchunk)
    omega
  have hfew : pixels.toFinset.card ≤ 256 :=
    (List.toFinset_card_le pixels).trans (by decide)
  have hback := hread (by decide) (by decide) hshort
  rw [if_pos hfew] at hback
  exact ⟨_, hfile, hback⟩

end WeatherRadar.Png
