import WeatherRadar.Proofs.Level3.Decoded
import WeatherRadar.Proofs.Level3.Isolation
import WeatherRadar.Proofs.Level3.Truncation
/-!
# Well-formed products

Whatever the bytes are and whatever codec expands them, a product that is read is well formed
(`wellFormed_of_decode`): either its radials and the ones left out are all that its header
announces, each with the gates that it announces, or it holds no radials at all.  What is read of a
packet are the outcomes of some radials in order (`readAlone_of_ok`), so that what holds of one
outcome holds throughout.
-/

namespace WeatherRadar.Level3

open Symbology

/-! ## Products -/

/-- The encoding of the radials in a packet with a code. -/
inductive Packs : UInt16 → GateEncoding → Prop where
  | runs : Packs 0xAF1F .runLength4
  | literal : Packs 16 .literal8

variable {α : Type} [Scalar α]

/-- A radial has an encoding and a number of gates, with levels of eight bits.  Runs only have
levels of four bits. -/
structure Radial.Agrees (encoding : GateEncoding) (gateCount : Nat) (radial : Radial α) : Prop where
  packedAs : radial.encoding = encoding
  gates : ∃ levels : Array UInt8, radial.gates = .bytes levels ∧ levels.size = gateCount ∧
    (encoding = .runLength4 → ∀ level ∈ levels, level.toNat ≤ 15)

/-- The note of a radial that was left out is about one that the header announces, and tells how
its gates are wrong. -/
structure DroppedRadial.Agrees (header : ProductHeader α) (dropped : DroppedRadial α) : Prop where
  index_lt : dropped.index < header.radialCount
  expected : dropped.expectedGates = header.gatesPerRadial
  actual : dropped.actualGates ≠ header.gatesPerRadial

/-- A product with radials, none of which is lost. -/
structure Product.HoldsRadials (product : Product α) : Prop where
  complete : product.radials.length + product.droppedRadials.length = product.header.radialCount
  radialCount_le : product.header.radialCount ≤ 32767
  gatesPerRadial_le : product.header.gatesPerRadial ≤ 32767
  packed : ∃ packet encoding, product.header.packet = some packet ∧ Packs packet.code encoding ∧
    ∀ radial ∈ product.radials, radial.Agrees encoding product.header.gatesPerRadial
  dropped : ∀ dropped ∈ product.droppedRadials, dropped.Agrees product.header
  inOrder : product.droppedRadials.Pairwise (·.index < ·.index)
  known : ∃ kind ∈ ProductKind.known, kind.code = product.header.code
  placed : ∃ offset, product.blocks.symbology = some offset ∧ 120 ≤ offset

/-- A product whose gates were not read. -/
structure Product.HoldsNoRadials (product : Product α) : Prop where
  radials : product.radials = []
  dropped : product.droppedRadials = []
  packet : product.header.packet = none
  radialCount : product.header.radialCount = 0
  gatesPerRadial : product.header.gatesPerRadial = 0

/-- A product holds radials just if its moment says so. -/
def Product.WellFormed (product : Product α) : Prop :=
  match product.moment with
  | .radial => product.HoldsRadials
  | .unparsed _ => product.HoldsNoRadials

/-! ## Radials that are left out -/

theorem packs_of_packetEncoding? {code : UInt16} {encoding : GateEncoding}
    (h : packetEncoding? code = some encoding) : Packs code encoding := by
  rw [packetEncoding?] at h
  split at h
  · rename_i hcode
    obtain rfl := Option.some.inj h
    rw [beq_iff_eq.1 hcode]
    exact .runs
  · split at h
    · rename_i hcode
      obtain rfl := Option.some.inj h
      rw [beq_iff_eq.1 hcode]
      exact .literal
    · cases h

/-- A payload that spells the expected number of gates is no fault. -/
theorem spelledGates_ne_of_error {encoding : GateEncoding} {payload : List UInt8}
    {expected : Nat} {fault : Error} (hencoding : encoding = .runLength4 ∨ encoding = .literal8)
    (h : GateLevels.expand payload encoding expected = .error fault) :
    GateLevels.spelledGates encoding payload ≠ expected := by
  rintro rfl
  rcases hencoding with rfl | rfl
  · simp [GateLevels.expand, GateLevels.spelledGates, GateLevels.runTotal_eq_sum] at h
  · simp [GateLevels.expand, GateLevels.spelledGates] at h

namespace Symbology.RawRadial

variable {encoding : GateEncoding} {binCount index : Nat} {raws : List RawRadial}

theorem of_outcome_eq_dropped {raw : RawRadial} {dropped : DroppedRadial α}
    (hencoding : encoding = .runLength4 ∨ encoding = .literal8)
    (h : raw.outcome encoding binCount index = .inr dropped) :
    dropped.index = index ∧ dropped.expectedGates = binCount ∧ dropped.actualGates ≠ binCount := by
  cases hexpand : GateLevels.expand raw.payload encoding binCount with
  | ok gates => simp [outcome, hexpand] at h
  | error fault =>
      simp only [outcome, hexpand] at h
      obtain rfl := Sum.inr.inj h
      exact ⟨rfl, rfl, spelledGates_ne_of_error hencoding hexpand⟩

/-- The radials that are left out of some, the first of which has the number `index`. -/
def droppedOf (α : Type) [Scalar α] (encoding : GateEncoding) (binCount index : Nat)
    (raws : List RawRadial) : List (DroppedRadial α) :=
  (outcomes encoding binCount index raws).filterMap Sum.getRight?

theorem droppedOf_cons (raw : RawRadial) :
    droppedOf α encoding binCount index (raw :: raws) =
      (raw.outcome encoding binCount index).getRight?.toList ++
        droppedOf α encoding binCount (index + 1) raws := by
  rw [droppedOf, outcomes, List.filterMap_cons]
  cases (raw.outcome encoding binCount index : Radial α ⊕ DroppedRadial α) <;> rfl

theorem mem_droppedOf {dropped : DroppedRadial α}
    (hencoding : encoding = .runLength4 ∨ encoding = .literal8)
    (h : dropped ∈ droppedOf α encoding binCount index raws) :
    index ≤ dropped.index ∧ dropped.index < index + raws.length ∧
      dropped.expectedGates = binCount ∧ dropped.actualGates ≠ binCount := by
  induction raws generalizing index with
  | nil => cases h
  | cons raw raws ih =>
      rw [droppedOf_cons, List.mem_append, Option.mem_toList, Sum.getRight?_eq_some_iff] at h
      rw [List.length_cons]
      rcases h with hfirst | hrest
      · obtain ⟨hindex, hexpected, hactual⟩ := of_outcome_eq_dropped hencoding hfirst
        exact ⟨by omega, by omega, hexpected, hactual⟩
      · obtain ⟨hlow, hhigh, hgates⟩ := ih hrest
        exact ⟨by omega, by omega, hgates⟩

theorem pairwise_droppedOf (hencoding : encoding = .runLength4 ∨ encoding = .literal8) :
    (droppedOf α encoding binCount index raws).Pairwise (·.index < ·.index) := by
  induction raws generalizing index with
  | nil => exact .nil
  | cons raw raws ih =>
      rw [droppedOf_cons, List.pairwise_append]
      refine ⟨?_, ih, ?_⟩
      · cases (raw.outcome encoding binCount index : Radial α ⊕ DroppedRadial α) with
        | inl radial => exact .nil
        | inr dropped => exact List.pairwise_singleton _ dropped
      · intro first hfirst later hlater
        rw [Option.mem_toList, Sum.getRight?_eq_some_iff] at hfirst
        have hindex := (of_outcome_eq_dropped hencoding hfirst).1
        have hlow := (mem_droppedOf hencoding hlater).1
        omega

/-- Whatever is read as a number of radials are the outcomes of as many. -/
theorem readAlone_of_ok {count : Nat} {kept radials : List (Radial α)}
    {dropped lost : List (DroppedRadial α)} {cursor : Cursor}
    (h : readRadials encoding binCount count index kept dropped cursor = .ok (radials, lost)) :
    ∃ raws : List RawRadial, raws.length = count ∧
      ReadAlone α encoding binCount index raws cursor := by
  -- What was kept and left out before does not matter to what is read on, hence it is general.
  induction count generalizing index kept dropped cursor with
  | zero => exact ⟨[], rfl, readAlone_nil encoding binCount index cursor⟩
  | succ count ih =>
      rw [readRadials] at h
      cases hraw : rawRadial encoding index cursor with
      | error fault => simp [hraw] at h
      | ok step =>
          obtain ⟨raw, next⟩ := step
          simp only [hraw, expand_eq_outcome] at h
          have hrest : ∃ raws : List RawRadial, raws.length = count ∧
              ReadAlone α encoding binCount (index + 1) raws next := by
            split at h
            · rename_i hoption
              cases hoption
            · exact ih h
            · exact ih h
          obtain ⟨raws, rfl, hraws⟩ := hrest
          exact ⟨raw :: raws, rfl, readAlone_cons hraw hraws⟩

end Symbology.RawRadial

open RawRadial

/-- The radials that a packet leaves out are those of some radials in order, as many as it
announces. -/
theorem dropped_of_readPacket {code : UInt16} {encoding : GateEncoding} {cursor next : Cursor}
    {packet : RadialPacket α} (h : readPacket code encoding cursor = .ok (packet, next)) :
    packet.header.code = code ∧ ∃ raws : List RawRadial, raws.length = packet.declaredRadials ∧
      packet.dropped = droppedOf α encoding packet.binCount 0 raws := by
  rw [readPacket] at h
  obtain ⟨firstBin, _, -, h⟩ := bind_eq_ok.1 h
  obtain ⟨bins, _, -, h⟩ := bind_eq_ok.1 h
  obtain ⟨binCount, -, h⟩ := lift_eq_ok.1 h
  obtain ⟨iCenter, _, -, h⟩ := bind_eq_ok.1 h
  obtain ⟨jCenter, _, -, h⟩ := bind_eq_ok.1 h
  obtain ⟨rangeScale, _, -, h⟩ := bind_eq_ok.1 h
  obtain ⟨count, _, -, h⟩ := bind_eq_ok.1 h
  obtain ⟨declared, -, h⟩ := lift_eq_ok.1 h
  rw [get_bind] at h
  obtain ⟨⟨kept, dropped⟩, hradials, h⟩ := lift_eq_ok.1 h
  obtain ⟨rfl, -⟩ := Prod.mk.inj (Except.ok.inj h)
  obtain ⟨raws, hlength, hraws⟩ := readAlone_of_ok hradials
  refine ⟨rfl, raws, hlength, ?_⟩
  -- The loop starts with nothing kept and nothing left out.
  have hsame := hraws [] []
  rw [hlength, hradials] at hsame
  exact (Prod.mk.inj (Except.ok.inj hsame)).2

/-! ## What is read -/

theorem mem_known_of_isSome {code : ProductCode}
    (h : (ProductKind.ofCode? code).isSome = true) :
    ∃ kind ∈ ProductKind.known, kind.code = code := by
  obtain ⟨kind, hkind⟩ := Option.isSome_iff_exists.1 h
  rw [ProductKind.ofCode?] at hkind
  have hcode := List.find?_some hkind
  exact ⟨kind, List.mem_of_find?_eq_some hkind, beq_iff_eq.1 hcode⟩

theorem holdsRadials_ofSymbology {message : MessageHeader} {description : Description}
    {heading : Option Heading} {packet : RadialPacket α} {place next : Cursor} {offset : Nat}
    (hknown : (ProductKind.ofCode? message.code).isSome = true)
    (hoffset : (BlockLayout.ofDescription description).symbology = some offset)
    (hread : Symbology.read place = .ok (.radials packet, next)) :
    (Product.ofSymbology (.ofSections message description heading) heading
      (.ofDescription description) (.radials packet)).HoldsRadials := by
  have hfits := Symbology.fits_of_read hread
  obtain ⟨code, encoding, start, last, hcode, hpacket⟩ := Symbology.read_eq_ok hread
  have hencoding := packetEncoding?_cases hcode
  obtain ⟨rfl, raws, hlength, hdropped⟩ := dropped_of_readPacket hpacket
  obtain ⟨encoding', hcode', hradials⟩ := hfits.radials
  obtain rfl : encoding = encoding' := Option.some.inj (hcode.symm.trans hcode')
  constructor
  · exact hfits.complete
  · exact Nat.le_of_lt_succ hfits.declared_lt
  · exact Nat.le_of_lt_succ hfits.binCount_lt
  · refine ⟨packet.header, encoding, rfl, packs_of_packetEncoding? hcode, ?_⟩
    intro radial hradial
    obtain ⟨levels, hgates, hsize, hsmall⟩ := (hradials radial hradial).gates
    refine ⟨(hradials radial hradial).packedAs, levels, hgates, hsize, ?_⟩
    intro hruns level hlevel
    exact Nat.le_of_lt_succ (hsmall hruns level (Array.mem_toList_iff.2 hlevel))
  · intro dropped hmem
    rw [show (Product.ofSymbology _ _ _ (.radials packet)).droppedRadials = packet.dropped from rfl,
      hdropped] at hmem
    obtain ⟨-, hindex, hexpected, hactual⟩ := mem_droppedOf hencoding hmem
    rw [Nat.zero_add, hlength] at hindex
    exact ⟨hindex, hexpected, hactual⟩
  · show packet.dropped.Pairwise (·.index < ·.index)
    rw [hdropped]
    exact pairwise_droppedOf hencoding
  · exact mem_known_of_isSome hknown
  · exact ⟨offset, hoffset, le_of_blockOffset? hoffset⟩

theorem wellFormed_of_decodeMessage {codec : Codec} {bytes : List UInt8}
    {heading : Option Heading} {product : Product α}
    (h : decodeMessage codec bytes heading = .ok product) : product.WellFormed := by
  obtain ⟨message, description, rfl | ⟨hknown, symbology, rfl, hsymbology⟩⟩ :=
    decodeMessage_eq_ok h
  · exact ⟨rfl, rfl, rfl, rfl, rfl⟩
  · cases symbology with
    | unsupported code => exact ⟨rfl, rfl, rfl, rfl, rfl⟩
    | empty => exact ⟨rfl, rfl, rfl, rfl, rfl⟩
    | radials packet =>
        obtain hempty | ⟨offset, _, _, place, next, hoffset, -, hread⟩ := hsymbology
        · cases hempty
        · exact holdsRadials_ofSymbology hknown hoffset hread

/-- Every product that is read is well formed. -/
theorem wellFormed_of_decode {codec : Codec} {bytes : List UInt8} {product : Product α}
    (h : decodeWith codec bytes = .ok product) : product.WellFormed := by
  obtain ⟨message, heading, hmessage, -⟩ := decodeWith_eq_ok h
  exact wellFormed_of_decodeMessage hmessage

/-- The first of three radials spells two gates of three. -/
theorem wellFormed_of_decode_dropped : ∃ product : Product Rat,
    decode droppedSample = .ok product ∧ product.moment = .radial ∧ product.radials.length = 2 ∧
      product.droppedRadials.length = 1 ∧ product.WellFormed := by
  have hchecked : ((decodeWith Codec.standard droppedSample :
      Except Error (Product Rat)).toOption.any fun product => decide (product.moment = .radial ∧
        product.radials.length = 2 ∧ product.droppedRadials.length = 1)) = true := by
    decide +kernel
  obtain ⟨product, hdecode, hpassed⟩ := exists_ok_of_any hchecked
  obtain ⟨hmoment, hradials, hdropped⟩ := of_decide_eq_true hpassed
  exact ⟨product, hdecode, hmoment, hradials, hdropped, wellFormed_of_decode hdecode⟩

end WeatherRadar.Level3
