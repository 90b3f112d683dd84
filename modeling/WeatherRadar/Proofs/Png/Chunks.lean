import Mathlib.Algebra.Ring.Nat
import WeatherRadar.Png.Writing
import WeatherRadar.Proofs.Level3.Fields
import WeatherRadar.Proofs.Level3.Sections
import WeatherRadar.Proofs.Png.Checks
/-!
# Chunks read back

A file of the format is a signature and chunks, each with its length and its check (`fileOf`).
What is written has this form (`chunkBytes_eq`).  A reader takes a file apart into the chunks that
it consists of, as long as four bytes can tell their lengths (`ofBytes_fileOf`), and finds only
files of this form sound (`exists_fileOf`).
-/

namespace WeatherRadar.Png

/-- A chunk of a file. -/
structure Chunk where
  letters : List UInt8
  data : List UInt8

namespace Chunk

/-- The length of the data, the letters, the data, and the check of letters and data. -/
def bytes (chunk : Chunk) : List UInt8 :=
  uint32Bytes (UInt32.ofNat chunk.data.length) ++ chunk.letters ++ chunk.data ++
    uint32Bytes (bitwiseCheck (chunk.letters ++ chunk.data))

/-- The chunk as it is found when it is read. -/
def found (chunk : Chunk) : FoundChunk := ⟨chunk.letters, chunk.data, true⟩

/-- Whether there are four letters, and four bytes can tell the length of the data. -/
structure Fits (chunk : Chunk) : Prop where
  letters : chunk.letters.length = 4
  data : chunk.data.length < 2 ^ 32

end Chunk

/-- The file of some chunks. -/
def fileOf (chunks : List Chunk) : List UInt8 :=
  [137, 80, 78, 71, 13, 10, 26, 10] ++ chunks.flatMap Chunk.bytes

theorem chunkBytes_eq (kind : ChunkKind) (data : List UInt8) :
    chunkBytes kind data = (Chunk.mk kind.letters data).bytes := by
  rw [chunkBytes, chunkCheck, crc32_eq_bitwiseCheck]
  rfl

/-! ## Files of chunks -/

theorem uint32Bytes_eq (n : UInt32) : ∃ b0 b1 b2 b3, uint32Bytes n = [b0, b1, b2, b3] ∧
    bigEndian [b0, b1, b2, b3] = n.toNat :=
  ⟨_, _, _, _, rfl, bigEndian_bigEndianBytes (show n.toNat < Nat.pow 256 4 from n.toNat_lt)⟩

theorem takeChunk?_bytes {chunk : Chunk} (h : chunk.Fits) (rest : List UInt8) :
    takeChunk? (chunk.bytes ++ rest) = some (chunk.found, rest) := by
  obtain ⟨letters, data⟩ := chunk
  obtain ⟨hfour, hshort⟩ := h
  obtain ⟨l0, l1, l2, l3, hlength, hvalue⟩ := uint32Bytes_eq (UInt32.ofNat data.length)
  obtain ⟨c0, c1, c2, c3, hcheck, hsum⟩ := uint32Bytes_eq (bitwiseCheck (letters ++ data))
  obtain ⟨k0, k1, k2, k3, rfl⟩ : ∃ k0 k1 k2 k3, letters = [k0, k1, k2, k3] := by
    match letters, hfour with
    | [k0, k1, k2, k3], _ => exact ⟨_, _, _, _, rfl⟩
  rw [UInt32.toNat_ofNat_of_lt' hshort] at hvalue
  have hspelled : (Chunk.mk [k0, k1, k2, k3] data).bytes ++ rest = l0 :: l1 :: l2 :: l3 :: k0 ::
      k1 :: k2 :: k3 :: (data ++ (c0 :: c1 :: c2 :: c3 :: rest)) := by
    rw [Chunk.bytes, hlength, hcheck]
    simp
  rw [hspelled, takeChunk?]
  dsimp only
  rw [hvalue, List.drop_left, List.take_left]
  dsimp only
  rw [hsum, beq_self_eq_true]
  rfl

theorem takeChunks_nil : takeChunks [] = ([], []) := by
  rw [takeChunks]
  rfl

theorem takeChunks_of_some {bytes more : List UInt8} {chunk : FoundChunk}
    (h : takeChunk? bytes = some (chunk, more)) :
    takeChunks bytes = (chunk :: (takeChunks more).1, (takeChunks more).2) := by
  rw [takeChunks]
  split
  · next hnone =>
      rw [h] at hnone
      cases hnone
  · next found rest hsome =>
      rw [h] at hsome
      obtain ⟨rfl, rfl⟩ := Prod.mk.inj (Option.some.inj hsome)
      rfl

theorem takeChunks_flatMap {chunks : List Chunk} (h : ∀ chunk ∈ chunks, chunk.Fits) :
    takeChunks (chunks.flatMap Chunk.bytes) = (chunks.map Chunk.found, []) := by
  induction chunks with
  | nil => exact takeChunks_nil
  | cons chunk chunks ih =>
      have hfirst := takeChunk?_bytes (h chunk (by simp)) (chunks.flatMap Chunk.bytes)
      have hrest := ih fun other hother => h other (by simp [hother])
      rw [List.flatMap_cons, takeChunks_of_some hfirst, hrest]
      rfl

/-- A file is taken apart into the chunks that it consists of. -/
theorem ofBytes_fileOf {chunks : List Chunk} (h : ∀ chunk ∈ chunks, chunk.Fits) :
    File.ofBytes (fileOf chunks) =
      ⟨[137, 80, 78, 71, 13, 10, 26, 10], chunks.map Chunk.found, []⟩ := by
  have hrest : (fileOf chunks).drop 8 = chunks.flatMap Chunk.bytes := rfl
  rw [File.ofBytes, hrest, takeChunks_flatMap h]
  rfl

/-! ## Files that are sound -/

theorem bigEndian_four_lt (b0 b1 b2 b3 : UInt8) : bigEndian [b0, b1, b2, b3] < 2 ^ 32 :=
  (bigEndian_lt [b0, b1, b2, b3]).trans_le (show 256 ^ 4 ≤ 2 ^ 32 by decide)

theorem uint32Bytes_bigEndian (b0 b1 b2 b3 : UInt8) :
    uint32Bytes (UInt32.ofNat (bigEndian [b0, b1, b2, b3])) = [b0, b1, b2, b3] := by
  rw [uint32Bytes, UInt32.toNat_ofNat_of_lt' (bigEndian_four_lt b0 b1 b2 b3)]
  exact bigEndianBytes_bigEndian [b0, b1, b2, b3]

/-- A chunk with a right check is spelled by its bytes. -/
theorem takeChunk?_eq_some {bytes more : List UInt8} {found : FoundChunk}
    (h : takeChunk? bytes = some (found, more)) (hsound : found.sound = true) :
    ∃ chunk : Chunk, chunk.Fits ∧ chunk.found = found ∧ bytes = chunk.bytes ++ more := by
  unfold takeChunk? at h
  split at h
  · next l0 l1 l2 l3 k0 k1 k2 k3 rest =>
    dsimp only at h
    split at h
    · next c0 c1 c2 c3 _ hdrop =>
      obtain ⟨rfl, rfl⟩ := Prod.mk.inj (Option.some.inj h)
      dsimp only at hsound
      rw [beq_iff_eq] at hsound
      have hroom := congrArg List.length hdrop
      rw [List.length_drop, List.length_cons] at hroom
      have hlength : (rest.take (bigEndian [l0, l1, l2, l3])).length =
          bigEndian [l0, l1, l2, l3] := List.length_take_of_le (by omega)
      have hcheck := uint32Bytes_bigEndian c0 c1 c2 c3
      rw [hsound, UInt32.ofNat_toNat] at hcheck
      refine ⟨⟨[k0, k1, k2, k3], rest.take (bigEndian [l0, l1, l2, l3])⟩, ⟨rfl, ?_⟩, ?_, ?_⟩
      · rw [hlength]
        exact bigEndian_four_lt l0 l1 l2 l3
      · rw [Chunk.found, hsound, beq_self_eq_true]
      · rw [Chunk.bytes, hlength, uint32Bytes_bigEndian, hcheck]
        conv_lhs => rw [← List.take_append_drop (bigEndian [l0, l1, l2, l3]) rest, hdrop]
        simp
    · cases h
  · cases h

theorem takeChunks_of_none {bytes : List UInt8} (h : takeChunk? bytes = none) :
    takeChunks bytes = ([], bytes) := by
  rw [takeChunks]
  split
  · rfl
  · next hsome =>
      rw [h] at hsome
      cases hsome

/-- Chunks with right checks are spelled by the bytes that they are taken from. -/
theorem exists_chunks {bytes rest : List UInt8} {found : List FoundChunk}
    (h : takeChunks bytes = (found, rest)) (hsound : ∀ chunk ∈ found, chunk.sound = true) :
    ∃ chunks : List Chunk, (∀ chunk ∈ chunks, chunk.Fits) ∧ chunks.map Chunk.found = found ∧
      bytes = chunks.flatMap Chunk.bytes ++ rest := by
  induction found generalizing bytes with
  | nil =>
      cases hfirst : takeChunk? bytes with
      | none =>
          rw [takeChunks_of_none hfirst] at h
          exact ⟨[], nofun, rfl, (Prod.mk.inj h).2⟩
      | some first =>
          rw [takeChunks_of_some hfirst] at h
          cases (Prod.mk.inj h).1
  | cons first found ih =>
      cases hfirst : takeChunk? bytes with
      | none =>
          rw [takeChunks_of_none hfirst] at h
          cases (Prod.mk.inj h).1
      | some taken =>
          obtain ⟨chunk', more⟩ := taken
          rw [takeChunks_of_some hfirst] at h
          obtain ⟨hhead, rfl⟩ := Prod.mk.inj h
          obtain ⟨rfl, htail⟩ := List.cons.inj hhead
          obtain ⟨chunk, hfits, hfound, rfl⟩ :=
            takeChunk?_eq_some hfirst (hsound _ List.mem_cons_self)
          obtain ⟨chunks, hall, hmap, hmore⟩ := ih (Prod.ext htail rfl)
            fun other hother => hsound other (List.mem_cons_of_mem _ hother)
          refine ⟨chunk :: chunks, List.forall_mem_cons.2 ⟨hfits, hall⟩, ?_, ?_⟩
          · rw [List.map_cons, hfound, hmap]
          · rw [List.flatMap_cons, List.append_assoc, ← hmore]

theorem isNamed_found (chunk : Chunk) (letters : List Char) :
    chunk.found.isNamed letters = true ↔ chunk.letters = letterBytes letters := beq_iff_eq

theorem isSound_found {before : List Chunk} {last : Chunk}
    (hbefore : ∀ chunk ∈ before, chunk.letters ≠ letterBytes ['I', 'E', 'N', 'D'])
    (hlast : last.letters = letterBytes ['I', 'E', 'N', 'D']) :
    File.isSound ⟨[137, 80, 78, 71, 13, 10, 26, 10], (before ++ [last]).map Chunk.found, []⟩ =
      true := by
  have hsound : ((before ++ [last]).map Chunk.found).all (·.sound) = true := by
    rw [List.all_map, List.all_eq_true]
    exact fun _ _ => rfl
  have hothers : (before.map Chunk.found).all (!·.isNamed ['I', 'E', 'N', 'D']) = true := by
    rw [List.all_map, List.all_eq_true]
    intro chunk hchunk
    rw [Function.comp_apply, Bool.not_eq_true', Bool.eq_false_iff, ne_eq, isNamed_found]
    exact hbefore chunk hchunk
  have hends : last.found.isNamed ['I', 'E', 'N', 'D'] = true := (isNamed_found last _).2 hlast
  rw [File.isSound, hsound]
  rw [List.map_append, List.map_singleton, List.dropLast_concat, List.getLast?_concat, hothers,
    Option.any_some, hends]
  rfl

/-- A file that is found sound is the file of some chunks, of which only the last one ends it. -/
theorem exists_fileOf {bytes : List UInt8} (h : (File.ofBytes bytes).isSound = true) :
    ∃ (before : List Chunk) (last : Chunk), bytes = fileOf (before ++ [last]) ∧
      (∀ chunk ∈ before ++ [last], chunk.Fits) ∧
      (∀ chunk ∈ before, chunk.letters ≠ letterBytes ['I', 'E', 'N', 'D']) ∧
      last.letters = letterBytes ['I', 'E', 'N', 'D'] := by
  obtain ⟨found, trailing, htaken⟩ : ∃ found trailing, takeChunks (bytes.drop 8) =
    (found, trailing) := ⟨_, _, rfl⟩
  rw [File.ofBytes, htaken] at h
  simp only [File.isSound, Bool.and_eq_true, beq_iff_eq, List.all_eq_true, List.isEmpty_iff] at h
  obtain ⟨⟨⟨⟨hsignature, hsound⟩, hbefore⟩, hlast⟩, rfl⟩ := h
  obtain ⟨chunks, hfits, rfl, hspelled⟩ := exists_chunks htaken hsound
  rw [List.append_nil] at hspelled
  obtain rfl | ⟨before, last, rfl⟩ := chunks.eq_nil_or_concat
  · cases hlast
  · rw [List.concat_eq_append] at hbefore hlast hfits hspelled
    rw [List.map_append, List.map_singleton, List.dropLast_concat] at hbefore
    rw [List.map_append, List.map_singleton, List.getLast?_concat, Option.any_some,
      isNamed_found] at hlast
    refine ⟨before, last, ?_, hfits, ?_, hlast⟩
    · rw [fileOf, ← hspelled, ← hsignature, List.take_append_drop]
    · intro chunk hchunk hends
      have hother := hbefore _ (List.mem_map_of_mem hchunk)
      rw [Bool.not_eq_true', (isNamed_found chunk _).2 hends] at hother
      cases hother

end WeatherRadar.Png
