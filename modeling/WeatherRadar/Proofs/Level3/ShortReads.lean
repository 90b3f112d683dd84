import WeatherRadar.Proofs.Level3.Isolation
/-!
# Reads of too few bytes

A parser that finds only a part of its field stops there and names the place (`Needs`), and parsers
in a row stop at the first field that is not whole (`Needs.bind`).  A packet of radials that is cut
therefore stops at the first radial that is not whole (`readRadials_cut`), with one exception in the
layers around it: a layer of which nothing is left is taken for an empty one (`read_cut`).
-/

namespace WeatherRadar.Level3

section Stops

variable {α β : Type} {place : Place}

/-- A read stops because bytes are missing at a place. -/
def StopsAt (place : Place) (result : Except Error β) : Prop :=
  ∃ short, result = .error (.truncated place short)

theorem StopsAt.map {result : Except Error α} (f : α → β) (h : StopsAt place result) :
    StopsAt place (result.map f) := by
  obtain ⟨short, rfl⟩ := h
  exact ⟨short, rfl⟩

theorem StopsAt.bind {p : Parser α} {cursor : Cursor} (h : StopsAt place (p cursor))
    (f : α → Parser β) : StopsAt place ((p >>= f) cursor) := by
  obtain ⟨short, hshort⟩ := h
  refine ⟨short, ?_⟩
  simp only [Bind.bind, StateT.bind, hshort, Except.bind]

theorem StopsAt.run {p : Parser α} {cursor : Cursor} (h : StopsAt place (p cursor)) :
    StopsAt place (p.run' cursor) := by
  obtain ⟨short, hshort⟩ := h
  exact ⟨short, by rw [StateT.run', hshort]; rfl⟩

theorem readBytes_short {cursor : Cursor} {n : Nat} (h : cursor.rest.length < n) :
    cursor.readBytes n = .error ⟨cursor.position, n, cursor.remaining⟩ := by
  have hless : ¬ Cursor.hasAtLeast n cursor.rest = true := by
    rw [hasAtLeast_iff]
    omega
  rw [Cursor.readBytes, Cursor.skip, if_neg hless]
  rfl

theorem stopsAt_bytes {cursor : Cursor} {n : Nat} (h : cursor.rest.length < n) :
    StopsAt place (Parser.bytes place n cursor) :=
  ⟨_, by rw [Parser.bytes, Parser.of, readBytes_short h]; rfl⟩

theorem prefix_append_cases {short front back : List UInt8} (h : short <+: front ++ back) :
    (short.length < front.length ∧ short <+: front) ∨
      ∃ rest, short = front ++ rest ∧ rest <+: back := by
  by_cases hlength : short.length < front.length
  · left
    exact ⟨hlength, List.prefix_of_prefix_length_le h (List.prefix_append front back) (by omega)⟩
  · right
    obtain ⟨rest, rfl⟩ :=
      List.prefix_of_prefix_length_le (List.prefix_append front back) h (by omega)
    exact ⟨rest, rfl, (List.prefix_append_right_inj front).1 h⟩

/-- A parser stops at a place where it finds a part of a field and nothing behind it. -/
def Needs (parser : Parser α) (field : List UInt8) (place : Place) : Prop :=
  ∀ data position short, short <+: field → short.length < field.length →
    StopsAt place (parser ⟨data, position, short⟩)

namespace Needs

variable {field more : List UInt8} {p : Parser α} {f : α → Parser β} {a : α}

theorem bytes (place : Place) {n : Nat} (hn : field.length = n) :
    Needs (Parser.bytes place n) field place := by
  intro data position short _ hshort
  rw [hn] at hshort
  exact stopsAt_bytes hshort

theorem number (place : Place) (value : List UInt8 → α) :
    Needs (Parser.of (fun cursor => (cursor.readBytes field.length).map fun read =>
      (value read.1, read.2)) place) field place := by
  intro data position short _ hshort
  exact ⟨_, by rw [Parser.of, readBytes_short hshort]; rfl⟩

theorem uint16 (place : Place) (n : UInt16) : Needs (Parser.uint16 place) (uint16Bytes n) place :=
  number place fun bytes => UInt16.ofNat (bigEndian bytes)

theorem int16 (place : Place) (n : Int16) : Needs (Parser.int16 place) (int16Bytes n) place :=
  number place fun bytes => Int16.ofNat (bigEndian bytes)

theorem uint32 (place : Place) (n : UInt32) : Needs (Parser.uint32 place) (uint32Bytes n) place :=
  number place fun bytes => UInt32.ofNat (bigEndian bytes)

theorem of_ok {e : Except Error α} (he : e = .ok a) (hf : Needs (f a) more place) :
    Needs (liftM e >>= f) more place := by
  intro data position short hprefix hshort
  rw [lift_of_ok he]
  exact hf data position short hprefix hshort

theorem bind (hneeds : Needs p field place) (hreads : Reads p field a)
    (hmore : Needs (f a) more place) : Needs (p >>= f) (field ++ more) place := by
  intro data position short hprefix hshort
  rcases prefix_append_cases hprefix with ⟨hcut, hpart⟩ | ⟨rest, rfl, hrest⟩
  · exact (hneeds data position short hpart hcut).bind f
  · rw [bind_of_ok (hreads data position rest)]
    apply hmore _ _ _ hrest
    simp only [List.length_append] at hshort
    omega

theorem before (hneeds : Needs p field place) (f : α → Parser β) : Needs (p >>= f) field place :=
  fun data position short hprefix hshort => (hneeds data position short hprefix hshort).bind f

end Needs

end Stops

/-! ## Radials -/

open Symbology Symbology.RawRadial

namespace Symbology.RawRadial

theorem needs_rawRadial {encoding : GateEncoding} {raw : RawRadial} (hraw : raw.Holdable encoding)
    (index : Nat) : Needs (rawRadial encoding index) (raw.fields encoding) (.radial index) := by
  have hshort : raw.announced encoding < 0x8000 := Nat.lt_succ_of_le hraw.short
  unfold rawRadial fields
  apply (Needs.int16 _ _).bind (Reads.int16 _ _)
  apply Needs.of_ok (nonNegative_ofNat _ hshort)
  apply (Needs.int16 _ _).bind (Reads.int16 _ _)
  apply (Needs.int16 _ _).bind (Reads.int16 _ _)
  exact (Needs.bytes _ hraw.length_eq).before _

theorem length_fields (encoding : GateEncoding) (raw : RawRadial) :
    (raw.fields encoding).length = 6 + raw.payload.length := by
  simp only [fields, List.length_append, length_int16Bytes]
  omega

theorem rawRadial_whole {encoding : GateEncoding} {raw : RawRadial} (hraw : raw.Holdable encoding)
    {behind rest : List UInt8}
    (hbehind : behind <+: List.replicate (raw.payload.length % 2) 0 ++ rest) (index : Nat)
    (data : List UInt8) (position : Nat) :
    ∃ left next, left <+: rest ∧ left.length = behind.length - raw.payload.length % 2 ∧
      rawRadial encoding index ⟨data, position, raw.fields encoding ++ behind⟩ =
        .ok (raw, ⟨data, next, left⟩) := by
  rcases prefix_append_cases hbehind with ⟨hcut, -⟩ | ⟨left, rfl, hleft⟩
  · rw [List.length_replicate] at hcut
    -- The cut took the byte that evens out the last radial, which is read without it.
    obtain rfl : behind = [] := List.length_eq_zero_iff.1 (by omega)
    obtain ⟨next, hnext⟩ := rawRadial_unpadded hraw index data position
    rw [List.append_nil]
    exact ⟨[], next, List.nil_prefix, by simp, hnext⟩
  · obtain ⟨next, hnext⟩ :=
      rawRadial_padded hraw List.length_replicate index data position left
    refine ⟨left, next, hleft, ?_, hnext⟩
    rw [List.length_append, List.length_replicate]
    omega

end Symbology.RawRadial

/-- How many fields lie whole within a number of bytes.  A byte evens out a field of odd size, and
it is not needed. -/
def wholeWithin : List Nat → Nat → Nat
  | [], _ => 0
  | size :: sizes, n => if n < size then 0 else wholeWithin sizes (n - (size + size % 2)) + 1

variable {α : Type} [Scalar α]

theorem readRadials_succ {encoding : GateEncoding} {index : Nat} {cursor next : Cursor}
    {raw : RawRadial} (hraw : rawRadial encoding index cursor = .ok (raw, next))
    (binCount count : Nat) (kept : List (Radial α)) (dropped : List (DroppedRadial α)) :
    ∃ kept' dropped', readRadials encoding binCount (count + 1) index kept dropped cursor =
      readRadials encoding binCount count (index + 1) kept' dropped' next := by
  rw [readRadials, hraw]
  simp only [expand_eq_outcome]
  cases (raw.outcome encoding binCount index : Radial α ⊕ DroppedRadial α) with
  | inl radial => exact ⟨radial :: kept, dropped, rfl⟩
  | inr radial => exact ⟨kept, radial :: dropped, rfl⟩

theorem StopsAt.readRadials {encoding : GateEncoding} {index : Nat} {cursor : Cursor}
    {place : Place} (h : StopsAt place (rawRadial encoding index cursor)) (binCount count : Nat)
    (kept : List (Radial α)) (dropped : List (DroppedRadial α)) :
    StopsAt place (readRadials encoding binCount (count + 1) index kept dropped cursor) := by
  obtain ⟨short, hshort⟩ := h
  exact ⟨short, by rw [Symbology.readRadials, hshort]⟩

/-- The bytes that radials need, each without the byte that evens it out. -/
def neededSizes (encoding : GateEncoding) (raws : List RawRadial) : List Nat :=
  raws.map fun raw => (raw.fields encoding).length

/-- Radials that are cut stop at the first one that is not whole, if it is announced. -/
theorem readRadials_cut {encoding : GateEncoding} {raws : List RawRadial}
    (hraws : ∀ raw ∈ raws, raw.Holdable encoding) (binCount index : Nat) {count : Nat}
    {short : List UInt8} (hshort : short <+: heldRadials encoding raws)
    (hcount : wholeWithin (neededSizes encoding raws) short.length < count)
    (kept : List (Radial α)) (dropped : List (DroppedRadial α)) (data : List UInt8)
    (position : Nat) :
    StopsAt (.radial (index + wholeWithin (neededSizes encoding raws) short.length))
      (readRadials encoding binCount count index kept dropped ⟨data, position, short⟩) := by
  induction raws generalizing index count short kept dropped position with
  | nil =>
      obtain ⟨count, rfl⟩ : ∃ less, count = less + 1 := ⟨count - 1, by omega⟩
      obtain rfl := List.prefix_nil.1 hshort
      -- Any radial will do here: nothing is left, and each one needs at least its three numbers.
      have hempty : (⟨0, 0, []⟩ : RawRadial).Holdable encoding := by
        cases encoding <;> exact ⟨by decide, by decide⟩
      apply StopsAt.readRadials
      apply needs_rawRadial hempty index data position [] List.nil_prefix
      simp [fields]
  | cons raw raws ih =>
      have hraw := hraws raw (by simp)
      have hsize := length_fields encoding raw
      rw [heldRadials, List.flatMap_cons, List.append_assoc] at hshort
      have hsizes : neededSizes encoding (raw :: raws) =
          (raw.fields encoding).length :: neededSizes encoding raws := rfl
      rw [hsizes, wholeWithin] at hcount ⊢
      obtain ⟨count, rfl⟩ : ∃ less, count = less + 1 := ⟨count - 1, by omega⟩
      rcases prefix_append_cases hshort with ⟨hcut, hpart⟩ | ⟨behind, rfl, hbehind⟩
      · rw [if_pos hcut, Nat.add_zero]
        exact (needs_rawRadial hraw index data position short hpart hcut).readRadials ..
      · obtain ⟨left, next, hleft, hlength, hnext⟩ :=
          rawRadial_whole hraw hbehind index data position
        have hwhole : ¬ (raw.fields encoding ++ behind).length < (raw.fields encoding).length := by
          rw [List.length_append]
          omega
        have hless : (raw.fields encoding ++ behind).length -
            ((raw.fields encoding).length + (raw.fields encoding).length % 2) = left.length := by
          rw [List.length_append]
          omega
        rw [if_neg hwhole, hless] at hcount ⊢
        obtain ⟨kept', dropped', hsucc⟩ := readRadials_succ hnext binCount count kept dropped
        rw [hsucc, Nat.add_comm (wholeWithin _ _) 1, ← Nat.add_assoc]
        exact ih (fun other hother => hraws other (by simp [hother])) (index + 1) hleft (by omega)
          kept' dropped' next

/-! ## Packets and layers -/

theorem needs_readPacket (header : PacketHeader) {binCount declared : Nat}
    (hbins : binCount < 0x8000) (encoding : GateEncoding) :
    Needs (readPacket header.code encoding : Parser (RadialPacket α))
      (packetFields header binCount declared) .packetHeader := by
  unfold readPacket packetFields
  apply (Needs.int16 _ _).bind (Reads.int16 _ _)
  apply (Needs.int16 _ _).bind (Reads.int16 _ _)
  apply Needs.of_ok (nonNegative_ofNat _ hbins)
  apply (Needs.int16 _ _).bind (Reads.int16 _ _)
  apply (Needs.int16 _ _).bind (Reads.int16 _ _)
  apply (Needs.uint16 _ _).bind (Reads.uint16 _ _)
  exact (Needs.int16 _ _).before _

/-- The place at which a layer of radials of some sizes stops that is cut. -/
def layerPlace (sizes : List Nat) (n : Nat) : Place :=
  if n < 14 then .packetHeader else .radial (wholeWithin sizes (n - 14))

/-- The header of a symbology block with one layer, and the header of the layer. -/
def blockFields (size : Nat) : List UInt8 :=
  int16Bytes blockDivider ++ (int16Bytes blockId ++ (uint32Bytes (UInt32.ofNat (size + 16)) ++
    uint16Bytes 1))

def layerFields (size : Nat) : List UInt8 :=
  int16Bytes blockDivider ++ uint32Bytes (UInt32.ofNat size)

theorem blockBytes_eq (layer : List UInt8) :
    blockBytes layer = blockFields layer.length ++ (layerFields layer.length ++ layer) := by
  simp only [blockBytes, blockFields, layerFields, List.append_assoc]

theorem needs_read (size : Nat) :
    Needs (Symbology.read : Parser (Symbology α)) (blockFields size) .symbology := by
  unfold Symbology.read blockFields
  apply (Needs.int16 _ _).bind (Reads.int16 _ _)
  apply (Needs.int16 _ _).bind (Reads.int16 _ _)
  rw [if_neg (by decide)]
  apply (Needs.uint32 _ _).bind (Reads.uint32 _ _)
  exact (Needs.uint16 _ _).before _

theorem needs_readLayers (count index size : Nat) :
    Needs (readLayers (count + 1) index : Parser (Symbology α)) (layerFields size)
      (.layer index) := by
  unfold readLayers layerFields
  apply (Needs.int16 _ _).bind (Reads.int16 _ _)
  rw [if_neg (by decide)]
  exact (Needs.uint32 _ _).before _

theorem readLayers_left (index : Nat) {size : Nat} (hsize : size < 0x100000000)
    {left : List UInt8} (hleft : left.length ≤ size) (data : List UInt8) (position : Nat) :
    ∃ next, (readLayers 1 index : Parser (Symbology α))
      ⟨data, position, layerFields size ++ left⟩ =
        if left.isEmpty then .ok (.empty, next)
        else (readLayer.run' (.ofBytes left)).map (·, next) := by
  have hwhole : left.take (UInt32.ofNat size).toNat = left := by
    rw [UInt32.toNat_ofNat', Nat.mod_eq_of_lt hsize]
    exact List.take_of_length_le hleft
  obtain ⟨next, hnext⟩ :=
    readLayers_header (α := α) 0 index (UInt32.ofNat size) data position left
  rw [hwhole] at hnext
  rw [layerFields, List.append_assoc]
  exact ⟨_, hnext⟩

theorem read_left {size : Nat} (hsize : size + 16 < 0x100000000) {left : List UInt8}
    (hleft : left.length ≤ size + 6) (data : List UInt8) (position : Nat) :
    ∃ next, (Symbology.read : Parser (Symbology α)) ⟨data, position, blockFields size ++ left⟩ =
      ((readLayers 1 0).run' (.ofBytes left)).map (·, next) := by
  have hwhole : left.take ((UInt32.ofNat (size + 16)).toNat - headerSize) = left := by
    rw [UInt32.toNat_ofNat', Nat.mod_eq_of_lt hsize, headerSize]
    exact List.take_of_length_le (by omega)
  obtain ⟨next, hnext⟩ :=
    Symbology.read_header (α := α) (UInt32.ofNat (size + 16)) 1 data position left
  rw [hwhole] at hnext
  simp only [blockFields, List.append_assoc]
  exact ⟨next, hnext⟩

/-- The place at which layers stop that are cut, the first of which holds radials. -/
def layersPlace (sizes : List Nat) (n : Nat) : Place :=
  if n < 6 then .layer 0 else layerPlace sizes (n - 6)

def blockPlace (sizes : List Nat) (n : Nat) : Place :=
  if n < 10 then .symbology else layersPlace sizes (n - 10)

/-- A layer with a packet of radials that can be written, whatever number of them it announces. -/
structure IsRadialLayer (encoding : GateEncoding) (declared : Nat) (raws : List RawRadial)
    (layer : List UInt8) : Prop where
  holdable : ∀ raw ∈ raws, raw.Holdable encoding
  declared_lt : declared < 0x8000
  size : layer.length + 16 < 0x100000000
  spelled : ∃ header binCount, packetEncoding? header.code = some encoding ∧ binCount < 0x8000 ∧
    layer = radialLayer header binCount declared (heldRadials encoding raws)

section Cut

variable {encoding : GateEncoding} {declared : Nat} {raws : List RawRadial}
  {layer short : List UInt8}

theorem readLayer_cut (hlayer : IsRadialLayer encoding declared raws layer)
    (hshort : short <+: layer)
    (hcount : wholeWithin (neededSizes encoding raws) (short.length - 14) < declared)
    (data : List UInt8) (position : Nat) :
    StopsAt (layerPlace (neededSizes encoding raws) short.length)
      (readLayer ⟨data, position, short⟩ : Except Error (Symbology α × Cursor)) := by
  obtain ⟨header, binCount, hpacked, hbins, rfl⟩ := hlayer.spelled
  have hfields : (packetFields header binCount declared).length = 12 := rfl
  unfold layerPlace
  rw [radialLayer] at hshort
  rcases prefix_append_cases hshort with ⟨hcut, hpart⟩ | ⟨behind, rfl, hbehind⟩
  · rw [length_uint16Bytes] at hcut
    rw [if_pos (by omega)]
    exact (Needs.uint16 .packetHeader header.code data position short hpart hcut).bind _
  · rw [readLayer, bind_of_ok (Reads.uint16 _ header.code data position _), hpacked]
    apply StopsAt.bind
    rw [List.length_append, length_uint16Bytes] at hcount ⊢
    rcases prefix_append_cases hbehind with ⟨hcut, hpart⟩ | ⟨radials, rfl, hradials⟩
    · rw [if_pos (by omega)]
      exact needs_readPacket header hbins encoding data _ behind hpart hcut
    · rw [List.length_append, hfields] at hcount ⊢
      have hless : 2 + (12 + radials.length) - 14 = radials.length := by omega
      rw [if_neg (by omega), hless]
      rw [hless] at hcount
      obtain ⟨next, hnext⟩ := readPacket_fields (α := α) header hbins hlayer.declared_lt encoding
        data radials (position + 2)
      have hstops :=
        readRadials_cut (α := α) hlayer.holdable binCount 0 hradials hcount [] [] data next
      rw [Nat.zero_add] at hstops
      rw [hnext]
      exact hstops.map _

theorem readLayers_cut (hlayer : IsRadialLayer encoding declared raws layer)
    (hshort : short <+: layerFields layer.length ++ layer)
    (hcount : wholeWithin (neededSizes encoding raws) (short.length - 20) < declared)
    (data : List UInt8) (position : Nat) :
    (short.length ≠ 6 → StopsAt (layersPlace (neededSizes encoding raws) short.length)
      (readLayers 1 0 ⟨data, position, short⟩ : Except Error (Symbology α × Cursor))) ∧
    (short.length = 6 → ∃ next,
      (readLayers 1 0 ⟨data, position, short⟩ : Except Error (Symbology α × Cursor)) =
        .ok (.empty, next)) := by
  have hheader : (layerFields layer.length).length = 6 := rfl
  have hsize := hlayer.size
  unfold layersPlace
  rcases prefix_append_cases hshort with ⟨hcut, hpart⟩ | ⟨left, rfl, hleft⟩
  · rw [hheader] at hcut
    refine ⟨fun _ => ?_, fun _ => by omega⟩
    rw [if_pos hcut]
    exact needs_readLayers 0 0 layer.length data position short hpart hcut
  · obtain ⟨next, hnext⟩ :=
      readLayers_left (α := α) 0 (by omega) hleft.length_le data position
    rw [List.length_append, hheader] at hcount ⊢
    rw [hnext]
    cases hempty : left.isEmpty with
    | true =>
        -- Nothing is left of the layer, and its reader cannot tell it from an empty one.
        obtain rfl := List.isEmpty_iff.1 hempty
        exact ⟨fun hne => absurd rfl hne, fun _ => ⟨next, rfl⟩⟩
    | false =>
        have hsome : left ≠ [] := List.isEmpty_eq_false_iff.1 hempty
        have hpos := List.length_pos_iff.2 hsome
        have hbehind : 6 + left.length - 6 = left.length := by omega
        have hcount' : wholeWithin (neededSizes encoding raws) (left.length - 14) < declared := by
          rwa [show left.length - 14 = 6 + left.length - 20 by omega]
        refine ⟨fun _ => ?_, fun _ => by omega⟩
        rw [if_neg (by omega), hbehind]
        exact (readLayer_cut hlayer hleft hcount' left 0).run.map _

/-- A block that is cut within the bytes that it needs stops at the first part that is not whole,
unless it is cut between the header of its layer and the layer. -/
theorem read_cut (hlayer : IsRadialLayer encoding declared raws layer)
    (hshort : short <+: blockBytes layer)
    (hcount : wholeWithin (neededSizes encoding raws) (short.length - 30) < declared)
    (data : List UInt8) (position : Nat) :
    (short.length ≠ 16 → StopsAt (blockPlace (neededSizes encoding raws) short.length)
      (Symbology.read ⟨data, position, short⟩ : Except Error (Symbology α × Cursor))) ∧
    (short.length = 16 → ∃ next,
      (Symbology.read ⟨data, position, short⟩ : Except Error (Symbology α × Cursor)) =
        .ok (.empty, next)) := by
  have hblock : (blockFields layer.length).length = 10 := rfl
  have hsize := hlayer.size
  unfold blockPlace
  rw [blockBytes_eq] at hshort
  rcases prefix_append_cases hshort with ⟨hcut, hpart⟩ | ⟨left, rfl, hleft⟩
  · rw [hblock] at hcut
    refine ⟨fun _ => ?_, fun _ => by omega⟩
    rw [if_pos hcut]
    exact needs_read layer.length data position short hpart hcut
  · have hheader : (layerFields layer.length).length = 6 := rfl
    have hless : left.length ≤ layer.length + 6 := by
      have hle := hleft.length_le
      rw [List.length_append] at hle
      omega
    obtain ⟨next, hnext⟩ := read_left (α := α) hsize hless data position
    rw [List.length_append, hblock] at hcount ⊢
    have hcount' : wholeWithin (neededSizes encoding raws) (left.length - 20) < declared := by
      rwa [show left.length - 20 = 10 + left.length - 30 by omega]
    have hbehind : 10 + left.length - 10 = left.length := by omega
    obtain ⟨hstops, hempty⟩ := readLayers_cut (α := α) hlayer hleft hcount' left 0
    rw [hnext]
    constructor
    · intro hne
      rw [if_neg (by omega), hbehind]
      exact (hstops (by omega)).run.map _
    · intro heq
      obtain ⟨behind, hbehind⟩ := hempty (by omega)
      rw [StateT.run', Cursor.ofBytes, hbehind]
      exact ⟨next, rfl⟩

end Cut

end WeatherRadar.Level3
