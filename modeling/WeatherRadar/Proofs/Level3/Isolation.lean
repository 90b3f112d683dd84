import Mathlib.Algebra.Ring.Nat
import WeatherRadar.Proofs.Level3.Radials
/-!
# Radials that do not spell their gates

Every radial of a packet is read or left out by what its own payload spells, wherever it stands and
whatever the others are (`readRadials_held`).  So a packet behind any number of empty layers keeps
the radials that spell the announced number of gates and names the other ones, and another payload
changes what becomes of its own radial only (`read_isolated`).
-/

namespace WeatherRadar.Level3

namespace GateLevels

/-- The number of gates that a payload spells. -/
def spelledGates : GateEncoding → List UInt8 → Nat
  | .literal8, payload => payload.length
  | .literal16, payload => payload.length / 2
  | .runLength4, payload => (payload.map runLength).sum

theorem runTotal_eq_sum (runs : List UInt8) : runTotal runs = (runs.map runLength).sum := by
  rw [runTotal_eq, expandRuns, List.length_flatMap]
  simp only [List.length_replicate]

/-- The only fault of a payload is that it spells another number of gates. -/
theorem expand_fault {payload : List UInt8} {encoding : GateEncoding} {expected : Nat}
    {fault : Error} (h : expand payload encoding expected = .error fault) :
    fault = .malformedRunLength expected (spelledGates encoding payload) := by
  cases encoding with
  | literal8 =>
      simp only [expand] at h
      split at h
      · cases h
      · exact (Except.error.inj h).symm
  | literal16 =>
      simp only [expand] at h
      split at h
      · cases h
      · exact (Except.error.inj h).symm
  | runLength4 =>
      simp only [expand, runTotal_eq_sum] at h
      split at h
      · cases h
      · exact (Except.error.inj h).symm

end GateLevels

open Symbology

namespace Symbology.RawRadial

/-! ## What becomes of a radial -/

section Outcome

variable {α : Type} [Scalar α]

/-- A radial with its gates, or the note that it was left out. -/
def outcome (encoding : GateEncoding) (binCount index : Nat) (raw : RawRadial) :
    Radial α ⊕ DroppedRadial α :=
  let azimuth := normalizeAzimuth (degrees raw.start)
  match GateLevels.expand raw.payload encoding binCount with
  | .ok gates => .inl ⟨azimuth, degrees raw.width, encoding, gates⟩
  | .error _ =>
    .inr ⟨index, azimuth, binCount, GateLevels.spelledGates encoding raw.payload⟩

theorem expand_eq_outcome (encoding : GateEncoding) (binCount index : Nat) (raw : RawRadial) :
    (raw.expand encoding binCount index : Except Error (Radial α ⊕ DroppedRadial α)) =
      .ok (raw.outcome encoding binCount index) := by
  cases hexpand : GateLevels.expand raw.payload encoding binCount with
  | ok gates => simp only [RawRadial.expand, outcome, hexpand]
  | error fault =>
      obtain rfl := GateLevels.expand_fault hexpand
      simp only [RawRadial.expand, outcome, hexpand]

/-- What becomes of radials, the first of which has the number `index`. -/
def outcomes (encoding : GateEncoding) (binCount : Nat) :
    Nat → List RawRadial → List (Radial α ⊕ DroppedRadial α)
  | _, [] => []
  | index, raw :: raws =>
    raw.outcome encoding binCount index :: outcomes encoding binCount (index + 1) raws

end Outcome

/-! ## Radials in a layer -/

/-- The length that a radial announces, in units of its encoding. -/
def announced (encoding : GateEncoding) (raw : RawRadial) : Nat :=
  match encoding with
  | .runLength4 => raw.payload.length / 2
  | _ => raw.payload.length

/-- A payload whose length can be announced. -/
structure Holdable (encoding : GateEncoding) (raw : RawRadial) : Prop where
  short : raw.announced encoding ≤ 0x7FFF
  whole : encoding = .runLength4 → raw.payload.length % 2 = 0

theorem Holdable.length_eq {encoding : GateEncoding} {raw : RawRadial}
    (h : raw.Holdable encoding) :
    raw.payload.length = payloadSize encoding (raw.announced encoding) := by
  cases encoding with
  | literal8 => rfl
  | literal16 => rfl
  | runLength4 =>
      have heven := h.whole rfl
      show raw.payload.length = raw.payload.length / 2 * 2
      omega

def fields (encoding : GateEncoding) (raw : RawRadial) : List UInt8 :=
  int16Bytes (Int16.ofNat (raw.announced encoding)) ++ (int16Bytes raw.start ++
    (int16Bytes raw.width ++ raw.payload))

/-- Radials stand at the beginning of some bytes, each payload evened out by a byte of any value
where its length is odd.  Bytes may follow; if none do, the last byte that evens out may lack. -/
inductive AreHeld (encoding : GateEncoding) : List RawRadial → List UInt8 → Prop
  | nil (rest : List UInt8) : AreHeld encoding [] rest
  | cons {raw : RawRadial} {raws : List RawRadial} {pad rest : List UInt8} :
      raw.Holdable encoding → pad.length = raw.payload.length % 2 →
        AreHeld encoding raws rest →
          AreHeld encoding (raw :: raws) (raw.fields encoding ++ (pad ++ rest))
  | unpadded {raw : RawRadial} :
      raw.Holdable encoding → AreHeld encoding [raw] (raw.fields encoding)

theorem rawRadial_padded {encoding : GateEncoding} {raw : RawRadial}
    (hraw : raw.Holdable encoding) {pad : List UInt8}
    (hpad : pad.length = raw.payload.length % 2) (index : Nat) (data : List UInt8)
    (position : Nat) (rest : List UInt8) :
    ∃ next, rawRadial encoding index ⟨data, position, raw.fields encoding ++ (pad ++ rest)⟩ =
      .ok (raw, ⟨data, next, rest⟩) := by
  have hshort : raw.announced encoding < 0x8000 := Nat.lt_succ_of_le hraw.short
  have hread := rawRadial_reads encoding index hshort raw.start raw.width hraw.length_eq hpad
    data position rest
  have hbytes : raw.fields encoding ++ (pad ++ rest) =
      int16Bytes (Int16.ofNat (raw.announced encoding)) ++ (int16Bytes raw.start ++
        (int16Bytes raw.width ++ (raw.payload ++ pad))) ++ rest := by
    simp only [fields, List.append_assoc]
  rw [hbytes]
  exact ⟨_, hread⟩

/-- Nothing is asked of a byte that evens out where the layer ends before it. -/
theorem rawRadial_unpadded {encoding : GateEncoding} {raw : RawRadial}
    (hraw : raw.Holdable encoding) (index : Nat) (data : List UInt8) (position : Nat) :
    ∃ next, rawRadial encoding index ⟨data, position, raw.fields encoding⟩ =
      .ok (raw, ⟨data, next, []⟩) := by
  have hshort : raw.announced encoding < 0x8000 := Nat.lt_succ_of_le hraw.short
  have hpayload : ∀ position, Parser.bytes (.radial index)
      (payloadSize encoding (raw.announced encoding)) ⟨data, position, raw.payload⟩ =
        .ok (raw.payload, ⟨data, position + raw.payload.length, []⟩) := by
    intro position
    have hbytes := Reads.bytes (.radial index) hraw.length_eq data position []
    rwa [List.append_nil] at hbytes
  rw [rawRadial, fields]
  rw [bind_of_ok (Reads.int16 _ _ data position _), lift_of_ok (nonNegative_ofNat _ hshort),
    bind_of_ok (Reads.int16 _ raw.start data _ _), bind_of_ok (Reads.int16 _ raw.width data _ _),
    bind_of_ok (hpayload _), get_bind]
  have hended : ∀ position, (⟨data, position, []⟩ : Cursor).isEmpty = true := fun _ => rfl
  rw [hended, Bool.not_true, Bool.and_false, if_neg Bool.false_ne_true]
  exact ⟨_, rfl⟩

variable {α : Type} [Scalar α]

/-- Radials are read, from the one numbered `index` on, as their outcomes say. -/
def ReadAlone (α : Type) [Scalar α] (encoding : GateEncoding) (binCount index : Nat)
    (raws : List RawRadial) (cursor : Cursor) : Prop :=
  ∀ (kept : List (Radial α)) (dropped : List (DroppedRadial α)),
    readRadials encoding binCount raws.length index kept dropped cursor =
      .ok (kept.reverse ++ (outcomes encoding binCount index raws).filterMap Sum.getLeft?,
        dropped.reverse ++ (outcomes encoding binCount index raws).filterMap Sum.getRight?)

theorem readAlone_nil (encoding : GateEncoding) (binCount index : Nat) (cursor : Cursor) :
    ReadAlone α encoding binCount index [] cursor := by
  intro kept dropped
  rw [outcomes, List.filterMap_nil, List.filterMap_nil, List.append_nil, List.append_nil]
  rfl

theorem readAlone_cons {encoding : GateEncoding} {binCount index : Nat} {raw : RawRadial}
    {raws : List RawRadial} {cursor next : Cursor}
    (hraw : rawRadial encoding index cursor = .ok (raw, next))
    (hraws : ReadAlone α encoding binCount (index + 1) raws next) :
    ReadAlone α encoding binCount index (raw :: raws) cursor := by
  intro kept dropped
  rw [List.length_cons, readRadials, hraw]
  simp only [expand_eq_outcome, outcomes]
  cases (raw.outcome encoding binCount index : Radial α ⊕ DroppedRadial α) with
  | inl radial =>
      have hleft : Sum.getLeft? (.inl radial : Radial α ⊕ DroppedRadial α) = some radial := rfl
      have hright : Sum.getRight? (.inl radial : Radial α ⊕ DroppedRadial α) = none := rfl
      dsimp only
      rw [hraws (radial :: kept) dropped, List.filterMap_cons_some hleft,
        List.filterMap_cons_none hright, List.reverse_cons, List.append_assoc,
        List.singleton_append]
  | inr radial =>
      have hleft : Sum.getLeft? (.inr radial : Radial α ⊕ DroppedRadial α) = none := rfl
      have hright : Sum.getRight? (.inr radial : Radial α ⊕ DroppedRadial α) = some radial := rfl
      dsimp only
      rw [hraws kept (radial :: dropped), List.filterMap_cons_none hleft,
        List.filterMap_cons_some hright, List.reverse_cons, List.append_assoc,
        List.singleton_append]

/-- No radial moves another one: the next one is found behind a payload of any length. -/
theorem readRadials_held {encoding : GateEncoding} {raws : List RawRadial} {bytes : List UInt8}
    (hheld : AreHeld encoding raws bytes) (binCount index : Nat) (data : List UInt8)
    (position : Nat) : ReadAlone α encoding binCount index raws ⟨data, position, bytes⟩ := by
  induction hheld generalizing index position with
  | nil rest => exact readAlone_nil encoding binCount index _
  | cons hraw hpad hheld ih =>
      obtain ⟨next, hread⟩ := rawRadial_padded hraw hpad index data position _
      exact readAlone_cons hread (ih (index + 1) next)
  | unpadded hraw =>
      obtain ⟨next, hread⟩ := rawRadial_unpadded hraw index data position
      exact readAlone_cons hread (readAlone_nil encoding binCount (index + 1) _)

theorem length_outcomes (encoding : GateEncoding) (binCount index : Nat)
    (raws : List RawRadial) :
    (outcomes encoding binCount index raws : List (Radial α ⊕ DroppedRadial α)).length =
      raws.length := by
  induction raws generalizing index with
  | nil => rfl
  | cons raw raws ih => rw [outcomes, List.length_cons, ih, List.length_cons]

/-- Another radial in one place changes the outcome in this place. -/
theorem outcomes_set (encoding : GateEncoding) (binCount index : Nat) (raws : List RawRadial)
    (i : Nat) (raw : RawRadial) :
    (outcomes encoding binCount index (raws.set i raw) : List (Radial α ⊕ DroppedRadial α)) =
      (outcomes encoding binCount index raws).set i
        (raw.outcome encoding binCount (index + i)) := by
  induction raws generalizing index i with
  | nil => rfl
  | cons first raws ih =>
      cases i with
      | zero => rfl
      | succ i =>
          rw [List.set_cons_succ, outcomes, ih, outcomes, List.set_cons_succ, Nat.add_right_comm,
            Nat.add_assoc]

end Symbology.RawRadial

/-! ## Blocks -/

open RawRadial

/-- A layer that holds nothing. -/
def emptyLayer : List UInt8 := int16Bytes blockDivider ++ uint32Bytes 0

/-- The layer that holds a packet of radials. -/
def radialLayer (header : PacketHeader) (binCount declared : Nat) (held : List UInt8) :
    List UInt8 :=
  uint16Bytes header.code ++ (packetFields header binCount declared ++ held)

/-- A layer behind a number of empty ones. -/
def layersBefore (empties : Nat) (layer : List UInt8) : List UInt8 :=
  (List.replicate empties emptyLayer).flatten ++ (int16Bytes blockDivider ++
    (uint32Bytes (UInt32.ofNat layer.length) ++ layer))

/-- A symbology block whose first layer that is not empty holds radials.  Its length and its number
of layers reach to this layer at least, and any bytes may follow. -/
structure IsRadialBlock (encoding : GateEncoding) (header : PacketHeader) (binCount : Nat)
    (raws : List RawRadial) (block : List UInt8) : Prop where
  packed : packetEncoding? header.code = some encoding
  binCount_le : binCount ≤ 0x7FFF
  length_le : raws.length ≤ 0x7FFF
  spelled : ∃ (held rest : List UInt8) (empties : Nat) (length : UInt32) (layers : UInt16),
    let layer := radialLayer header binCount raws.length held
    AreHeld encoding raws held ∧ empties < layers.toNat ∧
      headerSize + (layersBefore empties layer).length ≤ length.toNat ∧
      block = int16Bytes blockDivider ++ (int16Bytes blockId ++ (uint32Bytes length ++
        (uint16Bytes layers ++ (layersBefore empties layer ++ rest))))

/-- Radials one behind the other, evened out by zeros. -/
def heldRadials (encoding : GateEncoding) (raws : List RawRadial) : List UInt8 :=
  raws.flatMap fun raw => raw.fields encoding ++ List.replicate (raw.payload.length % 2) 0

theorem areHeld_heldRadials {encoding : GateEncoding} {raws : List RawRadial}
    (hraws : ∀ raw ∈ raws, raw.Holdable encoding) (rest : List UInt8) :
    AreHeld encoding raws (heldRadials encoding raws ++ rest) := by
  induction raws with
  | nil => exact .nil rest
  | cons raw raws ih =>
      rw [heldRadials, List.flatMap_cons, List.append_assoc, List.append_assoc]
      exact .cons (hraws raw (by simp)) List.length_replicate
        (ih fun other hother => hraws other (by simp [hother]))

theorem length_heldRadials_le {encoding : GateEncoding} {raws : List RawRadial}
    (hraws : ∀ raw ∈ raws, raw.Holdable encoding) :
    (heldRadials encoding raws).length ≤ raws.length * 65541 := by
  induction raws with
  | nil => exact Nat.zero_le _
  | cons raw raws ih =>
      have hrest := ih fun other hother => hraws other (by simp [hother])
      have hraw := hraws raw (by simp)
      have hlength : raw.payload.length ≤ 65534 := by
        have hshort := hraw.short
        rw [hraw.length_eq]
        cases encoding with
        | literal8 => exact Nat.le_trans hshort (by decide)
        | literal16 => exact Nat.le_trans hshort (by decide)
        | runLength4 => exact Nat.mul_le_mul_right 2 hshort
      have hfields : (raw.fields encoding).length = 6 + raw.payload.length := by
        simp only [fields, List.length_append, length_int16Bytes]
        omega
      rw [heldRadials] at hrest ⊢
      simp only [List.flatMap_cons, List.length_append, hfields, List.length_replicate,
        List.length_cons]
      omega

/-- A block of these radials behind a number of empty layers. -/
def blockOf (encoding : GateEncoding) (header : PacketHeader) (binCount : Nat)
    (raws : List RawRadial) (empties : Nat) (rest : List UInt8) : List UInt8 :=
  let layers := layersBefore empties
    (radialLayer header binCount raws.length (heldRadials encoding raws))
  int16Bytes blockDivider ++ (int16Bytes blockId ++
    (uint32Bytes (UInt32.ofNat (headerSize + layers.length)) ++
      (uint16Bytes (UInt16.ofNat (empties + 1)) ++ (layers ++ rest))))

/-- Every list of radials that a packet can hold is the content of a block. -/
theorem isRadialBlock_blockOf {encoding : GateEncoding} {header : PacketHeader} {binCount : Nat}
    {raws : List RawRadial} (hpacked : packetEncoding? header.code = some encoding)
    (hbins : binCount ≤ 0x7FFF) (hcount : raws.length ≤ 0x7FFF)
    (hraws : ∀ raw ∈ raws, raw.Holdable encoding) {empties : Nat} (hempties : empties < 0xFFFF)
    (rest : List UInt8) :
    IsRadialBlock encoding header binCount raws
      (blockOf encoding header binCount raws empties rest) := by
  have hheld := areHeld_heldRadials hraws []
  rw [List.append_nil] at hheld
  refine ⟨hpacked, hbins, hcount, _, rest, empties, _, _, hheld, ?_, ?_, rfl⟩
  · rw [UInt16.toNat_ofNat']
    omega
  · have hradials := length_heldRadials_le hraws
    have hempty : (List.replicate empties emptyLayer).flatten.length = empties * 6 := by
      rw [List.length_flatten, List.map_replicate, List.sum_replicate_nat]
      rfl
    have hsize : headerSize + (layersBefore empties (radialLayer header binCount raws.length
        (heldRadials encoding raws))).length < 2 ^ 32 := by
      simp only [layersBefore, radialLayer, packetFields, List.length_append, hempty, headerSize,
        length_int16Bytes, length_uint16Bytes, length_uint32Bytes]
      omega
    exact Nat.le_of_eq (UInt32.toNat_ofNat_of_lt' hsize).symm

variable {α : Type} [Scalar α]

theorem readLayers_emptyLayer (count index : Nat) (data : List UInt8) (position : Nat)
    (rest : List UInt8) :
    ∃ next, (readLayers (count + 1) index : Parser (Symbology α))
      ⟨data, position, emptyLayer ++ rest⟩ =
        readLayers count (index + 1) ⟨data, next, rest⟩ := by
  obtain ⟨next, hnext⟩ := readLayers_header (α := α) count index 0 data position rest
  rw [emptyLayer, List.append_assoc]
  exact ⟨next, hnext⟩

/-- The first layer that is not empty counts, however many come before it. -/
theorem readLayers_layersBefore {layer : List UInt8} {symbology : Symbology α}
    (hsize : layer.length < 0x100000000) (hsome : layer ≠ [])
    (hread : ∃ cursor, readLayer (.ofBytes layer) = .ok (symbology, cursor))
    {empties layers : Nat} (hlayers : empties < layers) (index : Nat)
    (data : List UInt8) (position : Nat) (rest : List UInt8) :
    ∃ cursor, readLayers layers index ⟨data, position, layersBefore empties layer ++ rest⟩ =
      .ok (symbology, cursor) := by
  induction empties generalizing layers index position with
  | zero =>
      obtain ⟨count, rfl⟩ : ∃ count, layers = count + 1 := ⟨layers - 1, by omega⟩
      rw [layersBefore, List.replicate_zero, List.flatten_nil, List.nil_append]
      simp only [List.append_assoc]
      exact readLayers_written hsize hsome hread count index data position rest
  | succ empties ih =>
      obtain ⟨count, rfl⟩ : ∃ count, layers = count + 1 := ⟨layers - 1, by omega⟩
      have hfront : layersBefore (empties + 1) layer ++ rest =
          emptyLayer ++ (layersBefore empties layer ++ rest) := by
        simp only [layersBefore, List.replicate_succ, List.flatten_cons, List.append_assoc]
      obtain ⟨next, hnext⟩ := readLayers_emptyLayer (α := α) count index data position
        (layersBefore empties layer ++ rest)
      rw [hfront, hnext]
      exact ih (by omega) (index + 1) next

/-- The packet of radials with these outcomes. -/
def packetOf (header : PacketHeader) (binCount : Nat)
    (outcomes : List (Radial α ⊕ DroppedRadial α)) : RadialPacket α where
  header := header
  binCount := binCount
  declaredRadials := outcomes.length
  radials := outcomes.filterMap Sum.getLeft?
  dropped := outcomes.filterMap Sum.getRight?

theorem readLayer_held {encoding : GateEncoding} {header : PacketHeader} {binCount : Nat}
    {raws : List RawRadial} {held : List UInt8}
    (hpacked : packetEncoding? header.code = some encoding) (hbins : binCount ≤ 0x7FFF)
    (hcount : raws.length ≤ 0x7FFF) (hheld : AreHeld encoding raws held) (data : List UInt8)
    (position : Nat) :
    ∃ cursor, readLayer ⟨data, position, radialLayer header binCount raws.length held⟩ =
      .ok (.radials (packetOf header binCount
        (outcomes encoding binCount 0 raws : List (Radial α ⊕ DroppedRadial α))), cursor) := by
  have hread := fun position => readRadials_held (α := α) hheld binCount 0 data position [] []
  obtain ⟨cursor, hcursor⟩ := readPacket_of_radials header (Nat.lt_succ_of_le hbins)
    (Nat.lt_succ_of_le hcount) hread (position + (uint16Bytes header.code).length)
  refine ⟨cursor, ?_⟩
  rw [readLayer, radialLayer, bind_of_ok (Reads.uint16 _ header.code data position _), hpacked]
  dsimp only
  rw [bind_of_ok hcursor, packetOf, length_outcomes]
  rfl

/-- A block is read as radials with these outcomes. -/
def ReadsAs (block : List UInt8) (header : PacketHeader) (binCount : Nat)
    (outcomes : List (Radial α ⊕ DroppedRadial α)) : Prop :=
  ∀ data position, ∃ cursor, Symbology.read ⟨data, position, block⟩ =
    .ok (.radials (packetOf header binCount outcomes), cursor)

theorem readsAs_outcomes {encoding : GateEncoding} {header : PacketHeader} {binCount : Nat}
    {raws : List RawRadial} {block : List UInt8}
    (hblock : IsRadialBlock encoding header binCount raws block) :
    ReadsAs block header binCount
      (outcomes encoding binCount 0 raws : List (Radial α ⊕ DroppedRadial α)) := by
  obtain ⟨held, rest, empties, length, layers, hheld, hempties, hlength, rfl⟩ := hblock.spelled
  intro data position
  have hread := readLayer_held (α := α) hblock.packed hblock.binCount_le hblock.length_le hheld
    (radialLayer header binCount raws.length held) 0
  have hsome : radialLayer header binCount raws.length held ≠ [] := by
    intro hnil
    have hsize := congrArg List.length hnil
    rw [radialLayer, List.length_append, length_uint16Bytes, List.length_nil] at hsize
    omega
  generalize radialLayer header binCount raws.length held = layer at *
  have hsize : layer.length < 0x100000000 := by
    have hlimit := length.toNat_lt
    have hfront : layer.length ≤ (layersBefore empties layer).length := by
      simp only [layersBefore, List.length_append]
      omega
    omega
  apply Symbology.read_of_layers
  -- Of the bytes behind the layer only those count that the block reaches.
  rw [List.take_append, List.take_of_length_le (by omega)]
  exact readLayers_layersBefore hsize hsome hread hempties 0 _ 0 _

/-- A radial is kept with its gates, or left out and named, by its own payload alone. -/
theorem read_isolated {encoding : GateEncoding} {header : PacketHeader} {binCount : Nat}
    {raws : List RawRadial} {block : List UInt8}
    (hblock : IsRadialBlock encoding header binCount raws block) :
    ReadsAs block header binCount
      (outcomes encoding binCount 0 raws : List (Radial α ⊕ DroppedRadial α)) ∧
    ∀ (i : Nat) (hi : i < raws.length) (payload other : List UInt8),
      let raw : RawRadial := { raws[i] with payload := payload }
      IsRadialBlock encoding header binCount (raws.set i raw) other →
        ReadsAs other header binCount
          ((outcomes encoding binCount 0 raws : List (Radial α ⊕ DroppedRadial α)).set i
            (raw.outcome encoding binCount i)) := by
  refine ⟨readsAs_outcomes hblock, ?_⟩
  intro i hi payload other raw hother
  have hread := readsAs_outcomes (α := α) hother
  rwa [outcomes_set, Nat.zero_add] at hread

/-- The second of three radials spells one gate instead of three, or else three.  The last payload
has no byte that evens it out. -/
theorem read_isolated_short_payload :
    let header : PacketHeader := ⟨16, 0, 0, 0, 1000⟩
    let raws : List RawRadial := [⟨5, 10, [1, 2, 3]⟩, ⟨15, 10, [7]⟩, ⟨-35, 10, [4, 5, 6]⟩]
    let raw : RawRadial := ⟨15, 10, [7, 8, 9]⟩
    let held : List UInt8 := [0, 3, 0, 5, 0, 10, 1, 2, 3, 0] ++ [0, 1, 0, 15, 0, 10, 7, 0xAA] ++
      [0, 3, 0xFF, 0xDD, 0, 10, 4, 5, 6]
    let block : List UInt8 := int16Bytes blockDivider ++ (int16Bytes blockId ++
      (uint32Bytes 200 ++ (uint16Bytes 7 ++
        (layersBefore 2 (radialLayer header 3 3 held) ++ [0xAA, 1, 2]))))
    let other := blockOf .literal8 header 3 (raws.set 1 raw) 0 []
    let first : Radial Rat := ⟨1 / 2, 1, .literal8, .bytes #[1, 2, 3]⟩
    let last : Radial Rat := ⟨713 / 2, 1, .literal8, .bytes #[4, 5, 6]⟩
    IsRadialBlock .literal8 header 3 raws block ∧
      IsRadialBlock .literal8 header 3 (raws.set 1 raw) other ∧
      ReadsAs block header 3 [.inl first, .inr ⟨1, 3 / 2, 3, 1⟩, .inl last] ∧
      ReadsAs other header 3
        [.inl first, .inl ⟨3 / 2, 1, .literal8, .bytes #[7, 8, 9]⟩, .inl last] := by
  intro header raws raw held block other first last
  have hraws : ∀ raw ∈ raws, raw.Holdable .literal8 := by
    intro raw hraw
    simp only [raws, List.mem_cons, List.not_mem_nil, or_false] at hraw
    rcases hraw with rfl | rfl | rfl
    · exact ⟨by decide, by decide⟩
    · exact ⟨by decide, by decide⟩
    · exact ⟨by decide, by decide⟩
  have hblock : IsRadialBlock .literal8 header 3 raws block := by
    refine ⟨rfl, by decide, by decide, held, _, 2, _, _, ?_, by decide, by decide, rfl⟩
    have hheld : held = RawRadial.fields .literal8 ⟨5, 10, [1, 2, 3]⟩ ++ ([0] ++
        (RawRadial.fields .literal8 ⟨15, 10, [7]⟩ ++ ([0xAA] ++
          RawRadial.fields .literal8 ⟨-35, 10, [4, 5, 6]⟩))) := by
      decide
    rw [hheld]
    exact .cons (hraws _ (by simp [raws])) rfl (.cons (hraws _ (by simp [raws])) rfl
      (.unpadded (hraws _ (by simp [raws]))))
  have hother : IsRadialBlock .literal8 header 3 (raws.set 1 raw) other := by
    refine isRadialBlock_blockOf rfl (by decide) (by decide) ?_ (by decide) []
    intro one hone
    rcases List.mem_or_eq_of_mem_set hone with hone | rfl
    · exact hraws one hone
    · exact ⟨by decide, by decide⟩
  obtain ⟨hread, hreplaced⟩ := read_isolated (α := Rat) hblock
  have hsame : ReadsAs other header 3
      ((outcomes .literal8 3 0 raws).set 1 (raw.outcome .literal8 3 1)) :=
    hreplaced 1 (by decide) [7, 8, 9] other hother
  refine ⟨hblock, hother, ?_, ?_⟩
  · have houtcomes : outcomes .literal8 3 0 raws =
        [.inl first, .inr ⟨1, 3 / 2, 3, 1⟩, .inl last] := by
      decide +kernel
    rw [houtcomes] at hread
    exact hread
  · have houtcomes : (outcomes .literal8 3 0 raws).set 1 (raw.outcome .literal8 3 1) =
        [.inl first, .inl ⟨3 / 2, 1, .literal8, .bytes #[7, 8, 9]⟩, .inl last] := by
      decide +kernel
    rw [houtcomes] at hsame
    exact hsame

end WeatherRadar.Level3
