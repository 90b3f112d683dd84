import Mathlib.Algebra.Ring.Nat
import WeatherRadar.Compression.Zlib
import WeatherRadar.Proofs.Level3.Reads
/-!
# Streams with bytes behind them

A reader that is given only the first bytes of some data fails for want of more, or has the same
result as with all of the data (`Extends`).  Every function that reads deflate data is like that, so
what follows a zlib stream does not change how the stream is read (`singleStream_isSequential`).
-/

namespace WeatherRadar

namespace Deflate

/-- The result for the first bytes of some data and the result for all of them. -/
def Extends {β : Type} (part whole : Except Fault β) : Prop :=
  part = .error .truncated ∨ part = whole

section Extends

variable {β γ : Type}

theorem Extends.refl (result : Except Fault β) : Extends result result := .inr rfl

theorem Extends.of_truncated (whole : Except Fault β) : Extends (.error .truncated) whole :=
  .inl rfl

theorem Extends.bind {part whole : Except Fault β} {f g : β → Except Fault γ}
    (h : Extends part whole) (hnext : ∀ x, Extends (f x) (g x)) :
    Extends (part >>= f) (whole >>= g) := by
  rcases h with rfl | rfl
  · exact .of_truncated _
  · cases part with
    | error fault => exact .refl _
    | ok x => exact hnext x

end Extends

/-- The first bytes of some data. -/
structure Begins (data whole : ByteArray) : Prop where
  size_le : data.size ≤ whole.size
  get!_eq : ∀ i < data.size, data.get! i = whole.get! i
  extract_eq : ∀ start finish, finish ≤ data.size →
    data.extract start finish = whole.extract start finish

theorem begins_append (bytes more : List UInt8) :
    Begins ⟨bytes.toArray⟩ ⟨(bytes ++ more).toArray⟩ := by
  constructor
  · show bytes.toArray.size ≤ (bytes ++ more).toArray.size
    rw [List.size_toArray, List.size_toArray, List.length_append]
    omega
  · intro i hi
    have hi : i < bytes.length := hi
    show bytes.toArray[i]! = (bytes ++ more).toArray[i]!
    rw [getElem!_pos bytes.toArray i (by simpa using hi),
      getElem!_pos (bytes ++ more).toArray i (by simp; omega), List.getElem_toArray,
      List.getElem_toArray, List.getElem_append_left hi]
  · intro start finish hfinish
    have hfinish : finish ≤ bytes.length := hfinish
    apply ByteArray.ext
    apply Array.toList_inj.1
    rw [ByteArray.data_extract, ByteArray.data_extract, Array.toList_extract, Array.toList_extract]
    show (bytes.drop start).take (finish - start) =
      ((bytes ++ more).drop start).take (finish - start)
    by_cases hle : start ≤ finish
    · rw [List.drop_append_of_le_length (by omega),
        List.take_append_of_le_length (by rw [List.length_drop]; omega)]
    · rw [Nat.sub_eq_zero_of_le (by omega), List.take_zero, List.take_zero]

/-- Bits below the `k`-th do not depend on those above. -/
theorem low_bits (a x : Nat) {r c k : Nat} (h : r + c ≤ k) :
    (a + x * 2 ^ k) >>> r % 2 ^ c = a >>> r % 2 ^ c := by
  obtain ⟨d, rfl⟩ := Nat.exists_eq_add_of_le h
  rw [Nat.shiftRight_eq_div_pow, Nat.shiftRight_eq_div_pow, ← Nat.mod_mul_right_div_self,
    ← Nat.mod_mul_right_div_self, ← Nat.pow_add, Nat.pow_add 2 (r + c) d,
    Nat.mul_comm x, Nat.mul_assoc, Nat.add_mul_mod_self_left]

section Readers

variable {data whole : ByteArray} (h : Begins data whole)

include h

theorem peekBits_eq {position count : Nat} (hcount : 0 < count)
    (hfits : position + count ≤ 8 * data.size) :
    peekBits data position count = peekBits whole position count := by
  have hsize := h.size_le
  unfold peekBits
  dsimp only
  rw [h.get!_eq (position / 8) (by omega)]
  generalize (whole.get! (position / 8)).toNat = b0
  by_cases hsecond : position / 8 + 1 < data.size
  · have hsecond' : position / 8 + 1 < whole.size := by omega
    rw [if_pos hsecond, if_pos hsecond', h.get!_eq _ hsecond]
    generalize (whole.get! (position / 8 + 1)).toNat = b1
    by_cases hthird : position / 8 + 2 < data.size
    · have hthird' : position / 8 + 2 < whole.size := by omega
      rw [if_pos hthird, if_pos hthird', h.get!_eq _ hthird]
    · have hlow : position % 8 + count ≤ 16 := by omega
      rw [if_neg hthird]
      exact (low_bits (b0 + b1 * 256) 0 hlow).trans (low_bits (b0 + b1 * 256) _ hlow).symm
  · have hthird : ¬position / 8 + 2 < data.size := by omega
    have hlow : position % 8 + count ≤ 8 := by omega
    rw [if_neg hsecond, if_neg hthird]
    generalize (if position / 8 + 1 < whole.size then (whole.get! (position / 8 + 1)).toNat
      else 0) = b1
    generalize (if position / 8 + 2 < whole.size then (whole.get! (position / 8 + 2)).toNat
      else 0) = b2
    have hhigh : b0 + b1 * 256 + b2 * 65536 = b0 + (b1 + b2 * 256) * 2 ^ 8 := by omega
    rw [hhigh]
    exact (low_bits b0 0 hlow).trans (low_bits b0 _ hlow).symm

theorem takeBits_extends (position count : Nat) :
    Extends (takeBits data position count) (takeBits whole position count) := by
  have hsize := h.size_le
  unfold takeBits
  by_cases hfits : position + count ≤ 8 * data.size
  · have hfits' : position + count ≤ 8 * whole.size := by omega
    rw [if_pos hfits, if_pos hfits']
    by_cases hzero : count = 0
    · rw [hzero]
      exact .refl _
    · rw [peekBits_eq h (by omega) hfits]
      exact .refl _
  · rw [if_neg hfits]
    exact .of_truncated _

theorem follow_extends (prefixCode : PrefixCode) (left length code first index position : Nat) :
    Extends (prefixCode.follow data left length code first index position)
      (prefixCode.follow whole left length code first index position) := by
  have hsize := h.size_le
  induction left generalizing length code first index position with
  | zero => exact .refl _
  | succ left ih =>
      unfold PrefixCode.follow
      by_cases hinside : position < 8 * data.size
      · have hinside' : position < 8 * whole.size := by omega
        rw [if_pos hinside, if_pos hinside', peekBits_eq h (by decide) (by omega)]
        dsimp only
        split
        · exact .refl _
        · exact ih _ _ _ _ _
      · rw [if_neg hinside]
        exact .of_truncated _

theorem take_extends (prefixCode : PrefixCode) (position : Nat) :
    Extends (prefixCode.take data position) (prefixCode.take whole position) :=
  follow_extends h prefixCode _ _ _ _ _ _

/-- If going on extends, so does reading a symbol first. -/
theorem inflateSymbol_extends (literals distances : PrefixCode)
    {goOn goOn' : Nat → ByteArray → Except Fault (Nat × ByteArray)}
    (hgoOn : ∀ position output, Extends (goOn position output) (goOn' position output))
    (position : Nat) (output : ByteArray) :
    Extends (inflateSymbol data literals distances goOn position output)
      (inflateSymbol whole literals distances goOn' position output) := by
  unfold inflateSymbol
  apply (take_extends h literals position).bind
  rintro ⟨symbol, position⟩
  dsimp only
  split
  · exact hgoOn _ _
  split
  · exact .refl _
  cases lengthBases[symbol - 257]? with
  | none => exact .refl _
  | some base =>
      apply (takeBits_extends h position base.2).bind
      rintro ⟨extra, position⟩
      apply (take_extends h distances position).bind
      rintro ⟨symbol, position⟩
      dsimp only
      cases distanceBases[symbol]? with
      | none => exact .refl _
      | some base =>
          apply (takeBits_extends h position base.2).bind
          rintro ⟨far, position⟩
          exact hgoOn _ _

theorem inflateCodes_extends (literals distances : PrefixCode) {fuel fuel' : Nat}
    (hfuel : fuel ≤ fuel') (position : Nat) (output : ByteArray) :
    Extends (inflateCodes data literals distances fuel position output)
      (inflateCodes whole literals distances fuel' position output) := by
  induction fuel generalizing fuel' position output with
  | zero => exact .of_truncated _
  | succ fuel ih =>
      cases fuel' with
      | zero => omega
      | succ fuel' =>
          unfold inflateCodes
          exact inflateSymbol_extends h literals distances (fun _ _ => ih (by omega) _ _) _ _

theorem takeTriples_extends (count position : Nat) :
    Extends (takeTriples data count position) (takeTriples whole count position) := by
  induction count generalizing position with
  | zero => exact .refl _
  | succ count ih =>
      unfold takeTriples
      apply (takeBits_extends h position 3).bind
      rintro ⟨n, position⟩
      apply (ih position).bind
      rintro ⟨rest, position⟩
      exact .refl _

theorem takeLengths_extends (lengthCode : PrefixCode) (total fuel : Nat) (soFar : List Nat)
    (count position : Nat) :
    Extends (takeLengths data lengthCode total fuel soFar count position)
      (takeLengths whole lengthCode total fuel soFar count position) := by
  induction fuel generalizing soFar count position with
  | zero => exact .refl _
  | succ fuel ih =>
      unfold takeLengths
      split
      · exact .refl _
      split
      · exact .refl _
      apply (take_extends h lengthCode position).bind
      rintro ⟨symbol, position⟩
      dsimp only
      split
      · exact ih _ _ _
      · have hrun : ∀ (value least bits : Nat),
            Extends
              (takeBits data position bits >>= fun found =>
                takeLengths data lengthCode total fuel
                  (List.replicate (least + found.1) value ++ soFar) (count + (least + found.1))
                  found.2)
              (takeBits whole position bits >>= fun found =>
                takeLengths whole lengthCode total fuel
                  (List.replicate (least + found.1) value ++ soFar) (count + (least + found.1))
                  found.2) := by
          intro value least bits
          apply (takeBits_extends h position bits).bind
          rintro ⟨extra, position⟩
          exact ih _ _ _
        split
        · cases soFar with
          | nil => exact .refl (.error .corrupt)
          | cons previous _ => exact hrun previous 3 2
        split
        · exact hrun 0 3 3
        · exact hrun 0 11 7

theorem takeCodes_extends (position : Nat) :
    Extends (takeCodes data position) (takeCodes whole position) := by
  unfold takeCodes
  apply (takeBits_extends h position 5).bind
  rintro ⟨literals, position⟩
  apply (takeBits_extends h position 5).bind
  rintro ⟨distances, position⟩
  apply (takeBits_extends h position 4).bind
  rintro ⟨triples, position⟩
  dsimp only
  split
  · exact .refl (.error .corrupt)
  apply (takeTriples_extends h (triples + 4) position).bind
  rintro ⟨triples, position⟩
  apply (Extends.refl _).bind
  intro lengthCode
  apply (takeLengths_extends h lengthCode _ _ _ _ position).bind
  rintro ⟨reversed, position⟩
  exact .refl _

theorem inflateStored_extends (position : Nat) (output : ByteArray) :
    Extends (inflateStored data position output) (inflateStored whole position output) := by
  have hsize := h.size_le
  unfold inflateStored
  dsimp only
  apply (takeBits_extends h _ 16).bind
  rintro ⟨length, position⟩
  apply (takeBits_extends h position 16).bind
  rintro ⟨complement, position⟩
  dsimp only
  split
  · exact .refl (.error .corrupt)
  by_cases hinside : position / 8 + length ≤ data.size
  · have hinside' : position / 8 + length ≤ whole.size := by omega
    rw [if_pos hinside, if_pos hinside', h.extract_eq _ _ hinside]
    exact .refl _
  · rw [if_neg hinside]
    exact .of_truncated _

theorem inflateBlocks_extends {fuel fuel' : Nat} (hfuel : fuel ≤ fuel') (position : Nat)
    (output : ByteArray) :
    Extends (inflateBlocks data fuel position output)
      (inflateBlocks whole fuel' position output) := by
  have hsize := h.size_le
  induction fuel generalizing fuel' position output with
  | zero => exact .of_truncated _
  | succ fuel ih =>
      cases fuel' with
      | zero => omega
      | succ fuel' =>
          unfold inflateBlocks
          apply (takeBits_extends h position 1).bind
          rintro ⟨last, position⟩
          apply (takeBits_extends h position 2).bind
          rintro ⟨kind, position⟩
          dsimp only
          have hnext : ∀ found : Nat × ByteArray,
              Extends (if last == 1 then .ok found else inflateBlocks data fuel found.1 found.2)
                (if last == 1 then .ok found
                  else inflateBlocks whole fuel' found.1 found.2) := by
            rintro ⟨position, output⟩
            split
            · exact .refl _
            · exact ih (by omega) _ _
          have hcodes := fun literals distances position =>
            inflateCodes_extends h literals distances
              (show 8 * data.size + 1 ≤ 8 * whole.size + 1 by omega) position output
          split
          · exact (inflateStored_extends h position output).bind hnext
          split
          · apply (Extends.refl _).bind
            intro literals
            apply (Extends.refl _).bind
            intro distances
            exact (hcodes literals distances position).bind hnext
          split
          · apply (takeCodes_extends h position).bind
            rintro ⟨literals, distances, position⟩
            exact (hcodes literals distances position).bind hnext
          · exact .refl (.error .corrupt)

theorem inflate_extends (start : Nat) : Extends (inflate data start) (inflate whole start) := by
  have hsize := h.size_le
  unfold inflate
  apply (inflateBlocks_extends h (by omega) _ _).bind
  rintro ⟨position, output⟩
  exact .refl _

end Readers

end Deflate

namespace Zlib

open Deflate (Extends Begins begins_append inflate_extends)
open Level3 (except_bind_eq_ok except_map_eq_ok except_map_eq_error)

/-- What a reader of streams makes of bytes it has read does not change when others follow. -/
structure StreamReader.IsSequential (single : StreamReader) : Prop where
  /-- A stream has a byte at least. -/
  takes : ∀ {data contents rest}, single data = .ok (contents, rest) →
    ∃ stream, stream ≠ [] ∧ data = stream ++ rest
  reads : ∀ {data contents rest}, single data = .ok (contents, rest) →
    ∀ more, single (data ++ more) = .ok (contents, rest ++ more)
  rejects : ∀ {data}, single data = .error .corrupt →
    ∀ more, single (data ++ more) = .error .corrupt

theorem bigEndian32_eq {data whole : ByteArray} (h : Begins data whole) {start : Nat}
    (hfits : start + 4 ≤ data.size) : bigEndian32 data start = bigEndian32 whole start := by
  rw [bigEndian32, bigEndian32, h.get!_eq start (by omega), h.get!_eq (start + 1) (by omega),
    h.get!_eq (start + 2) (by omega), h.get!_eq (start + 3) (by omega)]

theorem readStream_extends {data whole : ByteArray} (h : Begins data whole) (start : Nat) :
    Extends (readStream data start) (readStream whole start) := by
  have hsize := h.size_le
  unfold readStream
  by_cases hheader : data.size < start + 2
  · rw [if_pos hheader]
    exact .of_truncated _
  have hheader' : ¬whole.size < start + 2 := by omega
  rw [if_neg hheader, if_neg hheader', h.get!_eq start (by omega), h.get!_eq (start + 1) (by omega)]
  dsimp only
  split
  · exact .refl (.error .corrupt)
  apply (inflate_extends h (start + 2)).bind
  rintro ⟨contents, finish⟩
  dsimp only
  by_cases hchecksum : data.size < finish + 4
  · rw [if_pos hchecksum]
    exact .of_truncated _
  have hchecksum' : ¬whole.size < finish + 4 := by omega
  rw [if_neg hchecksum, if_neg hchecksum', bigEndian32_eq h (by omega)]
  exact .refl _

/-- A stream that is read lies within the data. -/
theorem finish_le_of_readStream {data contents : ByteArray} {start finish : Nat}
    (h : readStream data start = .ok (contents, finish)) : 4 ≤ finish ∧ finish ≤ data.size := by
  unfold readStream at h
  by_cases hheader : data.size < start + 2
  · rw [if_pos hheader] at h
    cases h
  rw [if_neg hheader] at h
  dsimp only at h
  split at h
  · cases h
  obtain ⟨⟨contents', finish'⟩, -, h⟩ := except_bind_eq_ok.1 h
  dsimp only at h
  by_cases hchecksum : data.size < finish' + 4
  · rw [if_pos hchecksum] at h
    cases h
  rw [if_neg hchecksum] at h
  split at h
  · cases h
  · cases h
    omega

theorem singleStream_isSequential : singleStream.IsSequential := by
  constructor
  · intro data contents rest h
    obtain ⟨⟨bytes, finish⟩, hread, hpair⟩ := except_map_eq_ok.1 h
    obtain ⟨-, rfl⟩ := Prod.mk.inj hpair
    obtain ⟨hpos, hle⟩ := finish_le_of_readStream hread
    have hle : finish ≤ data.length := hle
    refine ⟨data.take finish, fun hnil => ?_, (List.take_append_drop finish data).symm⟩
    have hlength := congrArg List.length hnil
    rw [List.length_take, List.length_nil] at hlength
    omega
  · intro data contents rest h more
    obtain ⟨⟨bytes, finish⟩, hread, hpair⟩ := except_map_eq_ok.1 h
    obtain ⟨rfl, rfl⟩ := Prod.mk.inj hpair
    have hle : finish ≤ data.length := (finish_le_of_readStream hread).2
    rcases readStream_extends (begins_append data more) 0 with htruncated | hsame
    · rw [hread] at htruncated
      cases htruncated
    · refine except_map_eq_ok.2 ⟨(bytes, finish), hsame.symm.trans hread, ?_⟩
      exact congrArg (Prod.mk bytes.toList) (List.drop_append_of_le_length hle)
  · intro data h more
    have hread := except_map_eq_error.1 h
    rcases readStream_extends (begins_append data more) 0 with htruncated | hsame
    · rw [hread] at htruncated
      cases htruncated
    · exact except_map_eq_error.2 (hsame.symm.trans hread)

end Zlib

end WeatherRadar
