import WeatherRadar.Proofs.Level3.ShortReads
/-!
# The first radial that is missing

Radials that are whole are read, kept or left out, and counted, whatever evens out their payloads
(`HeldBefore`).  So a block that ends within a radial that its packet announces is refused at this
radial (`read_missing`).  The byte that evens out the radial before may lack, if no more than two
bytes stand in its place.  The first of them is taken for it, and behind it two more would be read
as a length, which may be negative (`read_missing_taken`).
-/

namespace WeatherRadar.Level3

open Symbology Symbology.RawRadial

/-! ## Radials -/

/-- Radials stand one behind the other, and some bytes behind them.  A byte of any value evens out
each payload of odd length; for the last one it may lack, if no more than `most` bytes follow. -/
inductive Symbology.RawRadial.HeldBefore (encoding : GateEncoding) (most : Nat)
    (behind : List UInt8) : List RawRadial → List UInt8 → Prop
  | nil : HeldBefore encoding most behind [] behind
  | cons {raw : RawRadial} {raws : List RawRadial} {pad bytes : List UInt8} :
      raw.Holdable encoding → pad.length = raw.payload.length % 2 →
        HeldBefore encoding most behind raws bytes →
          HeldBefore encoding most behind (raw :: raws) (raw.fields encoding ++ (pad ++ bytes))
  | unpadded {raw : RawRadial} :
      raw.Holdable encoding → raw.payload.length % 2 = 1 → behind.length ≤ most →
        HeldBefore encoding most behind [raw] (raw.fields encoding ++ behind)

/-- A part of a radial: less than its three numbers and its payload. -/
structure Symbology.RawRadial.IsPart (encoding : GateEncoding) (raw : RawRadial)
    (short : List UInt8) : Prop where
  holdable : raw.Holdable encoding
  begins : short <+: raw.fields encoding
  lacks : short.length < (raw.fields encoding).length

variable {α : Type} [Scalar α]

theorem stopsAt_part {encoding : GateEncoding} {raw : RawRadial} {short : List UInt8}
    (hpart : raw.IsPart encoding short) (binCount index : Nat) {count : Nat} (hcount : 0 < count)
    (kept : List (Radial α)) (dropped : List (DroppedRadial α)) (data : List UInt8)
    (position : Nat) :
    StopsAt (.radial index)
      (readRadials encoding binCount count index kept dropped ⟨data, position, short⟩) := by
  obtain ⟨less, rfl⟩ : ∃ less, count = less + 1 := ⟨count - 1, by omega⟩
  exact (needs_rawRadial hpart.holdable index data position short hpart.begins
    hpart.lacks).readRadials binCount less kept dropped

theorem stopsAt_rawRadial {cursor : Cursor} (h : cursor.rest.length < 2) (encoding : GateEncoding)
    (index : Nat) : StopsAt (.radial index) (rawRadial encoding index cursor) := by
  have hlength : StopsAt (.radial index) (Parser.int16 (.radial index) cursor) := by
    refine ⟨⟨cursor.position, 2, cursor.remaining⟩, ?_⟩
    rw [Parser.int16, Parser.of, Cursor.readInt16, readBytes_short h]
    rfl
  exact hlength.bind _

theorem rawRadial_negative {length : Int16} (h : length < 0) (encoding : GateEncoding)
    (index : Nat) (data : List UInt8) (position : Nat) (rest : List UInt8) :
    rawRadial encoding index ⟨data, position, int16Bytes length ++ rest⟩ =
      .error (.invalidSection (.negative .radialLength length)) := by
  rw [rawRadial, bind_of_ok (Reads.int16 _ length data position rest), nonNegative, if_pos h]
  rfl

/-- A byte behind a payload of odd length is taken for the one that evens it out. -/
theorem rawRadial_odd {encoding : GateEncoding} {raw : RawRadial} (hraw : raw.Holdable encoding)
    (hodd : raw.payload.length % 2 = 1) (index : Nat) (data : List UInt8) (position : Nat)
    (behind : List UInt8) :
    ∃ next, rawRadial encoding index ⟨data, position, raw.fields encoding ++ behind⟩ =
      .ok (raw, ⟨data, next, behind.tail⟩) := by
  cases behind with
  | nil =>
      rw [List.append_nil]
      exact rawRadial_unpadded hraw index data position
  | cons byte behind =>
      have hpad : [byte].length = raw.payload.length % 2 := hodd.symm
      exact rawRadial_padded hraw hpad index data position behind

/-- Whole radials are passed, and reading stops at the one that is not. -/
theorem readRadials_missing {encoding : GateEncoding} {next : RawRadial} {short : List UInt8}
    (hpart : next.IsPart encoding short) {raws : List RawRadial} {held : List UInt8}
    (hheld : HeldBefore encoding 2 short raws held) (binCount index : Nat) {count : Nat}
    (hcount : raws.length < count) (kept : List (Radial α)) (dropped : List (DroppedRadial α))
    (data : List UInt8) (position : Nat) :
    StopsAt (.radial (index + raws.length))
      (readRadials encoding binCount count index kept dropped ⟨data, position, held⟩) := by
  induction hheld generalizing index count kept dropped position with
  | nil => exact stopsAt_part hpart binCount index hcount kept dropped data position
  | @cons raw raws pad bytes hraw hpad hheld ih =>
      rw [List.length_cons] at hcount ⊢
      obtain ⟨less, rfl⟩ : ∃ less, count = less + 1 := ⟨count - 1, by omega⟩
      obtain ⟨behind, hread⟩ := rawRadial_padded hraw hpad index data position bytes
      obtain ⟨kept', dropped', hsucc⟩ := readRadials_succ hread binCount less kept dropped
      rw [hsucc, Nat.add_comm raws.length, ← Nat.add_assoc]
      exact ih (index + 1) (by omega) kept' dropped' behind
  | @unpadded raw hraw hodd hfew =>
      rw [List.length_singleton] at hcount ⊢
      obtain ⟨less, rfl⟩ : ∃ less, count = less + 1 + 1 := ⟨count - 2, by omega⟩
      obtain ⟨behind, hread⟩ := rawRadial_odd hraw hodd index data position short
      obtain ⟨kept', dropped', hsucc⟩ := readRadials_succ hread binCount (less + 1) kept dropped
      rw [hsucc]
      -- One of the two bytes is taken, so that the length of the next radial is not whole.
      have hleft : (⟨data, behind, short.tail⟩ : Cursor).rest.length < 2 := by
        rw [List.length_tail]
        omega
      have hstops := stopsAt_rawRadial hleft encoding (index + 1)
      exact hstops.readRadials binCount less kept' dropped'

/-! ## Blocks -/

/-- A symbology block that ends within a radial.  Its lengths reach to the end of the bytes at
least, and layers that are empty may come before the one with the radials. -/
structure IsCutBlock (encoding : GateEncoding) (most : Nat) (header : PacketHeader)
    (binCount declared : Nat) (raws : List RawRadial) (next : RawRadial) (block : List UInt8) :
    Prop where
  packed : packetEncoding? header.code = some encoding
  binCount_le : binCount ≤ 0x7FFF
  declared_le : declared ≤ 0x7FFF
  missing : raws.length < declared
  spelled : ∃ (short held : List UInt8) (empties : Nat) (length layerLength : UInt32)
      (layers : UInt16),
    let layer := radialLayer header binCount declared held
    next.IsPart encoding short ∧ HeldBefore encoding most short raws held ∧
      empties < layers.toNat ∧ layer.length ≤ layerLength.toNat ∧ block.length ≤ length.toNat ∧
      block = int16Bytes blockDivider ++ (int16Bytes blockId ++ (uint32Bytes length ++
        (uint16Bytes layers ++ ((List.replicate empties emptyLayer).flatten ++
          (int16Bytes blockDivider ++ (uint32Bytes layerLength ++ layer))))))

section Blocks

variable {encoding : GateEncoding} {header : PacketHeader} {binCount declared : Nat}

/-- Behind the header of its packet, the radials of a layer decide what is read. -/
theorem readLayer_radials (hpacked : packetEncoding? header.code = some encoding)
    (hbins : binCount ≤ 0x7FFF) (hdeclared : declared ≤ 0x7FFF) (held data : List UInt8)
    (position : Nat) :
    ∃ (place : Nat) (f : List (Radial α) × List (DroppedRadial α) → Symbology α × Cursor),
      readLayer ⟨data, position, radialLayer header binCount declared held⟩ =
        (readRadials encoding binCount declared 0 [] [] ⟨data, place, held⟩).map f := by
  obtain ⟨place, hplace⟩ := readPacket_fields (α := α) header (Nat.lt_succ_of_le hbins)
    (Nat.lt_succ_of_le hdeclared) encoding data held (position + (uint16Bytes header.code).length)
  refine ⟨place, fun radials => (.radials ⟨header, binCount, declared, radials.1, radials.2⟩,
    ⟨data, place, held⟩), ?_⟩
  rw [readLayer, radialLayer, bind_of_ok (Reads.uint16 _ header.code data position _), hpacked]
  simp only [bind, StateT.bind, hplace]
  cases (readRadials encoding binCount declared 0 [] [] ⟨data, place, held⟩ :
      Except Error (List (Radial α) × List (DroppedRadial α))) with
  | error fault => rfl
  | ok radials => rfl

/-- A layer that is not empty decides what is read, however many empty ones come before it. -/
theorem readLayers_radials {layer : List UInt8} {length : UInt32}
    (hlength : layer.length ≤ length.toNat) (hsome : layer ≠ []) {empties layers : Nat}
    (hlayers : empties < layers) (index : Nat) (data : List UInt8) (position : Nat) :
    ∃ next, (readLayers layers index ⟨data, position,
      (List.replicate empties emptyLayer).flatten ++ (int16Bytes blockDivider ++
        (uint32Bytes length ++ layer))⟩ : Except Error (Symbology α × Cursor)) =
      (readLayer.run' (.ofBytes layer)).map (·, next) := by
  induction empties generalizing layers index position with
  | zero =>
      obtain ⟨count, rfl⟩ : ∃ count, layers = count + 1 := ⟨layers - 1, by omega⟩
      obtain ⟨next, hnext⟩ := readLayers_header (α := α) count index length data position layer
      rw [List.take_of_length_le hlength, List.isEmpty_eq_false_iff.2 hsome,
        if_neg Bool.false_ne_true] at hnext
      exact ⟨_, hnext⟩
  | succ empties ih =>
      obtain ⟨count, rfl⟩ : ∃ count, layers = count + 1 := ⟨layers - 1, by omega⟩
      obtain ⟨next, hnext⟩ := readLayers_emptyLayer (α := α) count index data position
        ((List.replicate empties emptyLayer).flatten ++ (int16Bytes blockDivider ++
          (uint32Bytes length ++ layer)))
      rw [List.replicate_succ, List.flatten_cons, List.append_assoc, hnext]
      exact ih (by omega) (index + 1) next

/-- Behind the headers around it, a packet of radials decides what is read of a block. -/
theorem read_radials (hpacked : packetEncoding? header.code = some encoding)
    (hbins : binCount ≤ 0x7FFF) (hdeclared : declared ≤ 0x7FFF) {held : List UInt8}
    {empties : Nat} {length layerLength : UInt32} {layers : UInt16}
    (hempties : empties < layers.toNat)
    (hlayer : (radialLayer header binCount declared held).length ≤ layerLength.toNat)
    {block : List UInt8} (hlength : block.length ≤ length.toNat)
    (hblock : block = int16Bytes blockDivider ++ (int16Bytes blockId ++ (uint32Bytes length ++
      (uint16Bytes layers ++ ((List.replicate empties emptyLayer).flatten ++
        (int16Bytes blockDivider ++ (uint32Bytes layerLength ++
          radialLayer header binCount declared held)))))))
    (data : List UInt8) (position : Nat) :
    ∃ (place : Nat) (f : List (Radial α) × List (DroppedRadial α) → Symbology α × Cursor),
      Symbology.read ⟨data, position, block⟩ =
        (readRadials encoding binCount declared 0 [] []
          ⟨radialLayer header binCount declared held, place, held⟩).map f := by
  have hsome : radialLayer header binCount declared held ≠ [] :=
    List.append_ne_nil_of_left_ne_nil (List.cons_ne_nil _ _) _
  obtain ⟨place, f, hreadLayer⟩ := readLayer_radials (α := α) hpacked hbins hdeclared held
    (radialLayer header binCount declared held) 0
  obtain ⟨last, hreadLayers⟩ := readLayers_radials (α := α) hlayer hsome hempties 0 _ 0
  obtain ⟨next, hread⟩ := Symbology.read_header (α := α) length layers data position
    ((List.replicate empties emptyLayer).flatten ++ (int16Bytes blockDivider ++
      (uint32Bytes layerLength ++ radialLayer header binCount declared held)))
  -- The block holds no more bytes than its length tells, so that none of them is cut off.
  rw [List.take_of_length_le] at hread
  · refine ⟨place, fun radials => ((f radials).1, next), ?_⟩
    rw [hblock, hread, Cursor.ofBytes, StateT.run', hreadLayers, Cursor.ofBytes, StateT.run',
      hreadLayer]
    cases (readRadials encoding binCount declared 0 [] []
        ⟨radialLayer header binCount declared held, place, held⟩ :
          Except Error (List (Radial α) × List (DroppedRadial α))) with
    | error fault => rfl
    | ok radials => rfl
  · rw [hblock, List.length_append, length_int16Bytes, List.length_append, length_int16Bytes,
      List.length_append, length_uint32Bytes, List.length_append, length_uint16Bytes] at hlength
    rw [headerSize]
    omega

end Blocks

/-- A block that ends within a radial is refused at this radial, if the byte that evens out the one
before is there or no more than two bytes stand in its place. -/
theorem read_missing {encoding : GateEncoding} {header : PacketHeader} {binCount declared : Nat}
    {raws : List RawRadial} {next : RawRadial} {block : List UInt8}
    (hblock : IsCutBlock encoding 2 header binCount declared raws next block) (data : List UInt8)
    (position : Nat) :
    StopsAt (.radial raws.length) (Symbology.read ⟨data, position, block⟩ :
      Except Error (Symbology α × Cursor)) := by
  obtain ⟨short, held, empties, length, layerLength, layers, hpart, hheld, hempties, hlayer,
    hlength, hspelled⟩ := hblock.spelled
  obtain ⟨place, f, hread⟩ := read_radials (α := α) hblock.packed hblock.binCount_le
    hblock.declared_le hempties hlayer hlength hspelled data position
  have hstops := readRadials_missing (α := α) hpart hheld binCount 0 hblock.missing [] []
    (radialLayer header binCount declared held) place
  rw [Nat.zero_add] at hstops
  rw [hread]
  exact hstops.map f

/-- The first radial spells two gates instead of three, and the second one is not evened out, though
a byte of the third one follows.  In the other block it is, and the third one lacks a gate. -/
theorem read_missing_third :
    let header : PacketHeader := ⟨16, 0, 0, 0, 1000⟩
    let raws : List RawRadial := [⟨5, 10, [7, 8]⟩, ⟨15, 10, [1, 2, 3]⟩]
    let next : RawRadial := ⟨25, 10, [4, 5, 6]⟩
    let held : List UInt8 := [0, 2, 0, 5, 0, 10, 7, 8] ++ [0, 3, 0, 15, 0, 10, 1, 2, 3]
    let front : List UInt8 := int16Bytes blockDivider ++ (int16Bytes blockId ++ (uint32Bytes 200 ++
      (uint16Bytes 2 ++ (emptyLayer ++ (int16Bytes blockDivider ++ uint32Bytes 50)))))
    let block := front ++ radialLayer header 3 3 (held ++ [0])
    let other := front ++ radialLayer header 3 3 (held ++ [0xAA] ++ [0, 3, 0, 25, 0, 10, 4, 5])
    IsCutBlock .literal8 2 header 3 3 raws next block ∧
      IsCutBlock .literal8 2 header 3 3 raws next other ∧
      StopsAt (.radial 2) (Symbology.read (.ofBytes block) :
        Except Error (Symbology Rat × Cursor)) ∧
      StopsAt (.radial 2) (Symbology.read (.ofBytes other) :
        Except Error (Symbology Rat × Cursor)) := by
  intro header raws next held front block other
  have hnext : next.Holdable .literal8 := ⟨by decide, by decide⟩
  have hfirst : RawRadial.Holdable .literal8 ⟨5, 10, [7, 8]⟩ := ⟨by decide, by decide⟩
  have hsecond : RawRadial.Holdable .literal8 ⟨15, 10, [1, 2, 3]⟩ := ⟨by decide, by decide⟩
  have hblock : IsCutBlock .literal8 2 header 3 3 raws next block := by
    have hheld : HeldBefore .literal8 2 [0] raws
        (RawRadial.fields .literal8 ⟨5, 10, [7, 8]⟩ ++ ([] ++
          (RawRadial.fields .literal8 ⟨15, 10, [1, 2, 3]⟩ ++ [0]))) :=
      .cons hfirst rfl (.unpadded hsecond rfl (by decide))
    exact ⟨rfl, by decide, by decide, by decide, [0], _, 1, 200, 50, 2,
      ⟨hnext, by decide, by decide⟩, hheld, by decide, by decide, by decide, by decide⟩
  have hother : IsCutBlock .literal8 2 header 3 3 raws next other := by
    have hheld : HeldBefore .literal8 2 [0, 3, 0, 25, 0, 10, 4, 5] raws
        (RawRadial.fields .literal8 ⟨5, 10, [7, 8]⟩ ++ ([] ++
          (RawRadial.fields .literal8 ⟨15, 10, [1, 2, 3]⟩ ++
            ([0xAA] ++ [0, 3, 0, 25, 0, 10, 4, 5])))) :=
      .cons hfirst rfl (.cons hsecond rfl .nil)
    exact ⟨rfl, by decide, by decide, by decide, _, _, 1, 200, 50, 2,
      ⟨hnext, by decide, by decide⟩, hheld, by decide, by decide, by decide, by decide⟩
  exact ⟨hblock, hother, read_missing hblock _ 0, read_missing hother _ 0⟩

/-- Three bytes of a radial of 129 gates, behind one that is not evened out, are read as a byte that
evens it out and a length that is negative. -/
theorem read_missing_taken :
    let header : PacketHeader := ⟨16, 0, 0, 0, 1000⟩
    let raw : RawRadial := ⟨0, 10, List.replicate 129 7⟩
    let next : RawRadial := ⟨10, 10, List.replicate 129 7⟩
    let layer := radialLayer header 129 2 (raw.fields .literal8 ++ [0, 129, 0])
    let block := int16Bytes blockDivider ++ (int16Bytes blockId ++ (uint32Bytes 168 ++
      (uint16Bytes 1 ++ (int16Bytes blockDivider ++ (uint32Bytes 152 ++ layer)))))
    let answer : Except Error (Symbology Rat × Cursor) := Symbology.read (.ofBytes block)
    IsCutBlock .literal8 3 header 129 2 [raw] next block ∧
      answer = .error (.invalidSection (.negative .radialLength (-0x7F00))) ∧
      ¬ StopsAt (.radial 1) answer := by
  intro header raw next layer block answer
  have hraw : raw.Holdable .literal8 := ⟨by decide +kernel, by decide⟩
  have hnext : next.Holdable .literal8 := ⟨by decide +kernel, by decide⟩
  have hodd : raw.payload.length % 2 = 1 := by decide +kernel
  have hempties : 0 < (1 : UInt16).toNat := by decide
  have hlayer : layer.length ≤ (152 : UInt32).toNat := by decide +kernel
  have hlength : block.length ≤ (168 : UInt32).toNat := by decide +kernel
  have hblock : IsCutBlock .literal8 3 header 129 2 [raw] next block := by
    have hheld : HeldBefore .literal8 3 [0, 129, 0] [raw] (raw.fields .literal8 ++ [0, 129, 0]) :=
      .unpadded hraw hodd (by decide)
    exact ⟨rfl, by decide, by decide, by decide, _, _, 0, 168, 152, 1,
      ⟨hnext, by decide +kernel, by decide +kernel⟩, hheld, hempties, hlayer, hlength, rfl⟩
  have hanswer : answer = .error (.invalidSection (.negative .radialLength (-0x7F00))) := by
    obtain ⟨place, f, hread⟩ := read_radials (α := Rat) hblock.packed hblock.binCount_le
      hblock.declared_le hempties hlayer hlength rfl block 0
    obtain ⟨behind, hfirst⟩ := rawRadial_odd hraw hodd 0 layer place [0, 129, 0]
    obtain ⟨kept, dropped, hsecond⟩ := readRadials_succ (α := Rat) hfirst 129 1 [] []
    have hleft : [0, 129, 0].tail = int16Bytes (-0x7F00) ++ [] := by decide
    rw [hsecond, readRadials, hleft, rawRadial_negative (by decide)] at hread
    exact hread
  refine ⟨hblock, hanswer, ?_⟩
  rintro ⟨short, hshort⟩
  rw [hanswer] at hshort
  cases hshort

end WeatherRadar.Level3
