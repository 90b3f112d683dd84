import WeatherRadar.Level3.Reading
import WeatherRadar.Proofs.Level3.HeadingGrammar
import WeatherRadar.Proofs.Level3.Radials
/-!
# What can be read

Whatever the bytes, a packet that is read fits (`Symbology.fits_of_read`): its counts are below
32768, every radial has the announced number of gates, levels of runs are below 16, and no radial
is lost.  A product with radials takes its header from a message header, a description and a
packet (`decodeMessage_radial`), and its heading is well formed (`decodeWith_eq_ok`).
-/

namespace WeatherRadar.Level3

open Symbology

variable {α : Type} [Scalar α]

/-! ## Radials -/

theorem of_expand_eq_ok {encoding : GateEncoding} {payload : List UInt8} {binCount : Nat}
    {gates : GateLevels} (hencoding : encoding = .runLength4 ∨ encoding = .literal8)
    (h : GateLevels.expand payload encoding binCount = .ok gates) :
    ∃ levels : Array UInt8, gates = .bytes levels ∧ levels.size = binCount ∧
      (encoding = .runLength4 → ∀ level ∈ levels.toList, level.toNat < 16) := by
  rcases hencoding with rfl | rfl
  · simp only [GateLevels.expand] at h
    split at h
    · rename_i htotal
      rw [beq_iff_eq, GateLevels.runTotal_eq] at htotal
      refine ⟨_, (Except.ok.inj h).symm, by simpa using htotal, ?_⟩
      intro _
      exact GateLevels.expandRuns_lt payload
    · cases h
  · simp only [GateLevels.expand] at h
    split at h
    · rename_i hsize
      refine ⟨_, (Except.ok.inj h).symm, by simpa using hsize, ?_⟩
      intro hruns
      cases hruns
    · cases h

theorem fits_of_expand {encoding : GateEncoding} {binCount index : Nat} {raw : RawRadial}
    {radial : Radial α} (hencoding : encoding = .runLength4 ∨ encoding = .literal8)
    (h : raw.expand encoding binCount index = .ok (.inl radial)) :
    radial.Fits encoding binCount := by
  simp only [RawRadial.expand] at h
  split at h
  · rename_i gates hgates
    obtain rfl := Sum.inl.inj (Except.ok.inj h)
    exact ⟨⟨raw.start, rfl⟩, ⟨raw.width, rfl⟩, rfl, of_expand_eq_ok hencoding hgates⟩
  · cases h
  · cases h

/-- Every radial that is announced is either kept, and fits, or dropped. -/
theorem fits_of_readRadials {encoding : GateEncoding} {binCount : Nat}
    (hencoding : encoding = .runLength4 ∨ encoding = .literal8) {count index : Nat}
    {kept radials : List (Radial α)} {dropped lost : List (DroppedRadial α)} {cursor : Cursor}
    (hkept : ∀ radial ∈ kept, radial.Fits encoding binCount)
    (h : readRadials encoding binCount count index kept dropped cursor = .ok (radials, lost)) :
    (∀ radial ∈ radials, radial.Fits encoding binCount) ∧
      radials.length + lost.length = kept.length + dropped.length + count := by
  induction count generalizing index kept dropped cursor with
  | zero =>
      obtain ⟨rfl, rfl⟩ := Prod.mk.inj (Except.ok.inj h)
      refine ⟨fun radial hradial => hkept radial (List.mem_reverse.1 hradial), ?_⟩
      rw [List.length_reverse, List.length_reverse, Nat.add_zero]
  | succ count ih =>
      rw [readRadials] at h
      cases hraw : rawRadial encoding index cursor with
      | error fault => simp [hraw] at h
      | ok step =>
          obtain ⟨raw, next⟩ := step
          simp only [hraw] at h
          cases hexpand : (raw.expand encoding binCount index :
              Except Error (Radial α ⊕ DroppedRadial α)) with
          | error fault => simp [hexpand] at h
          | ok outcome =>
              cases outcome with
              | inl radial =>
                  simp only [hexpand] at h
                  have hnew := fits_of_expand hencoding hexpand
                  obtain ⟨hall, hlength⟩ := ih (by simpa [hnew] using hkept) h
                  refine ⟨hall, ?_⟩
                  rw [hlength, List.length_cons]
                  omega
              | inr radial =>
                  simp only [hexpand] at h
                  obtain ⟨hall, hlength⟩ := ih hkept h
                  refine ⟨hall, ?_⟩
                  rw [hlength, List.length_cons]
                  omega

/-! ## Packets -/

theorem lt_of_nonNegative {count : PacketCount} {value : Int16} {n : Nat}
    (h : nonNegative count value = .ok n) : n < 0x8000 := by
  rw [nonNegative] at h
  split at h
  · cases h
  · rw [← Except.ok.inj h, Int16.toNatClampNeg]
    have hlt := value.toInt_lt
    omega

theorem fits_of_readPacket {code : UInt16} {encoding : GateEncoding} {cursor next : Cursor}
    {packet : RadialPacket α} (hcode : packetEncoding? code = some encoding)
    (h : readPacket code encoding cursor = .ok (packet, next)) : packet.Fits := by
  rw [readPacket] at h
  obtain ⟨firstBin, _, -, h⟩ := bind_eq_ok.1 h
  obtain ⟨bins, _, -, h⟩ := bind_eq_ok.1 h
  obtain ⟨binCount, hbins, h⟩ := lift_eq_ok.1 h
  obtain ⟨iCenter, _, -, h⟩ := bind_eq_ok.1 h
  obtain ⟨jCenter, _, -, h⟩ := bind_eq_ok.1 h
  obtain ⟨rangeScale, _, -, h⟩ := bind_eq_ok.1 h
  obtain ⟨count, _, -, h⟩ := bind_eq_ok.1 h
  obtain ⟨declared, hdeclared, h⟩ := lift_eq_ok.1 h
  rw [get_bind] at h
  obtain ⟨⟨kept, dropped⟩, hradials, h⟩ := lift_eq_ok.1 h
  obtain ⟨rfl, -⟩ := Prod.mk.inj (Except.ok.inj h)
  obtain ⟨hall, hlength⟩ :=
    fits_of_readRadials (packetEncoding?_cases hcode) (by simp) hradials
  exact {
    radials := ⟨encoding, hcode, hall⟩
    binCount_lt := lt_of_nonNegative hbins
    declared_lt := lt_of_nonNegative hdeclared
    complete := by simpa using hlength }

/-- The packet of a layer with radials. -/
theorem readLayer_eq_ok {cursor next : Cursor} {packet : RadialPacket α}
    (h : readLayer cursor = .ok (.radials packet, next)) :
    ∃ code encoding start last, packetEncoding? code = some encoding ∧
      readPacket code encoding start = .ok (packet, last) := by
  rw [readLayer] at h
  obtain ⟨code, cursor, -, h⟩ := bind_eq_ok.1 h
  cases hcode : packetEncoding? code with
  | none =>
      rw [hcode] at h
      cases h
  | some encoding =>
      rw [hcode] at h
      obtain ⟨found, next, hpacket, h⟩ := bind_eq_ok.1 h
      obtain ⟨hfound, -⟩ := Prod.mk.inj (Except.ok.inj h)
      obtain rfl := Symbology.radials.inj hfound
      exact ⟨code, encoding, cursor, next, hcode, hpacket⟩

theorem readLayers_eq_ok {count index : Nat} {cursor next : Cursor} {packet : RadialPacket α}
    (h : readLayers count index cursor = .ok (.radials packet, next)) :
    ∃ layer last, readLayer layer = .ok (.radials packet, last) := by
  induction count generalizing index cursor with
  | zero => cases h
  | succ count ih =>
      rw [readLayers] at h
      obtain ⟨divider, cursor, -, h⟩ := bind_eq_ok.1 h
      by_cases hdivider : (divider != blockDivider) = true
      · rw [if_pos hdivider] at h
        obtain ⟨_, _, hfault, -⟩ := bind_eq_ok.1 h
        cases hfault
      · rw [if_neg hdivider] at h
        obtain ⟨length, cursor, -, h⟩ := bind_eq_ok.1 h
        obtain ⟨layer, cursor, -, h⟩ := bind_eq_ok.1 h
        split at h
        · exact ih h
        · obtain ⟨last, hlayer⟩ := lift_run_eq_ok h
          exact ⟨layer, last, hlayer⟩

/-- Where the radials of a block were read. -/
theorem Symbology.read_eq_ok {cursor next : Cursor} {packet : RadialPacket α}
    (h : Symbology.read cursor = .ok (.radials packet, next)) :
    ∃ code encoding start last, packetEncoding? code = some encoding ∧
      readPacket code encoding start = .ok (packet, last) := by
  rw [Symbology.read] at h
  obtain ⟨divider, cursor, -, h⟩ := bind_eq_ok.1 h
  obtain ⟨block, cursor, -, h⟩ := bind_eq_ok.1 h
  by_cases hheader : (divider != blockDivider || block != blockId) = true
  · rw [if_pos hheader] at h
    obtain ⟨_, _, hfault, -⟩ := bind_eq_ok.1 h
    cases hfault
  · rw [if_neg hheader] at h
    obtain ⟨length, cursor, -, h⟩ := bind_eq_ok.1 h
    obtain ⟨layers, cursor, -, h⟩ := bind_eq_ok.1 h
    obtain ⟨body, cursor, -, h⟩ := bind_eq_ok.1 h
    obtain ⟨last, hlayers⟩ := lift_run_eq_ok h
    obtain ⟨layer, next, hlayer⟩ := readLayers_eq_ok hlayers
    exact readLayer_eq_ok hlayer

/-- A packet that is read fits. -/
theorem Symbology.fits_of_read {cursor next : Cursor} {packet : RadialPacket α}
    (h : Symbology.read cursor = .ok (.radials packet, next)) : packet.Fits := by
  obtain ⟨code, encoding, start, last, hcode, hpacket⟩ := Symbology.read_eq_ok h
  exact fits_of_readPacket hcode hpacket

/-! ## Products -/

/-- What the symbology block holds that begins at an offset of a message. -/
def readBlock (codec : Codec) (bytes : List UInt8) (message : MessageHeader)
    (description : Description) (offset : Nat) : Except Error (Symbology α) := do
  let body ← bodyCursor codec bytes message description
    ⟨bytes, Description.bodyOffset, bytes.drop Description.bodyOffset⟩
  let place ← (body.seek offset).mapError (.truncated .symbology)
  Symbology.read.run' place

/-- The product of a message whose header and description are read. -/
def decodeSections (codec : Codec) (bytes : List UInt8) (message : MessageHeader)
    (description : Description) (heading : Option Heading) : Except Error (Product α) :=
  let header := ProductHeader.ofSections message description heading
  let blocks := BlockLayout.ofDescription description
  if (ProductKind.ofCode? message.code).isNone then
    .ok ⟨header, [], [], .unparsed .unknownProduct, heading, blocks⟩
  else match blocks.symbology with
    | none => .ok (.ofSymbology header heading blocks .empty)
    | some offset =>
      (readBlock codec bytes message description offset).map (.ofSymbology header heading blocks)

theorem readMessageHeader_eq {bytes : List UInt8} (hsize : MessageHeader.size ≤ bytes.length) :
    MessageHeader.read (Cursor.ofBytes bytes) = .ok (.ofBytes (bytes.take MessageHeader.size),
      ⟨bytes, MessageHeader.size, bytes.drop MessageHeader.size⟩) := by
  have hread := Reads.bytes .messageHeader
    (List.length_take_of_le hsize) bytes 0 (bytes.drop MessageHeader.size)
  rw [List.take_append_drop, List.length_take_of_le hsize, Nat.zero_add] at hread
  rw [MessageHeader.read, Cursor.ofBytes, bind_of_ok hread]
  rfl

theorem length_takeDescription {bytes : List UInt8}
    (hsize : Description.bodyOffset ≤ bytes.length) :
    ((bytes.drop MessageHeader.size).take Description.size).length = Description.size := by
  apply List.length_take_of_le
  rw [List.length_drop]
  unfold Description.bodyOffset at hsize
  omega

theorem readDescription_eq {bytes : List UInt8} (hsize : Description.bodyOffset ≤ bytes.length) :
    Description.read ⟨bytes, MessageHeader.size, bytes.drop MessageHeader.size⟩ =
      (Description.ofBytes ((bytes.drop MessageHeader.size).take Description.size)).map
        (·, ⟨bytes, Description.bodyOffset, bytes.drop Description.bodyOffset⟩) := by
  have hlength := length_takeDescription hsize
  have hread := Reads.bytes .description hlength bytes MessageHeader.size
    ((bytes.drop MessageHeader.size).drop Description.size)
  rw [List.take_append_drop, hlength, List.drop_drop] at hread
  rw [Description.read, bind_of_ok hread]
  cases Description.ofBytes ((bytes.drop MessageHeader.size).take Description.size) with
  | error fault => rfl
  | ok description => rfl

theorem decodeMessage_eq {bytes : List UInt8} (hsize : Description.bodyOffset ≤ bytes.length)
    (codec : Codec) (heading : Option Heading) :
    (decodeMessage codec bytes heading : Except Error (Product α)) =
      (Description.ofBytes ((bytes.drop MessageHeader.size).take Description.size)).bind
        fun description => decodeSections codec bytes
          (.ofBytes (bytes.take MessageHeader.size)) description heading := by
  rw [decodeMessage]
  simp only [bind, Except.bind, readMessageHeader_eq (Nat.le_trans (by decide) hsize),
    readDescription_eq hsize]
  cases Description.ofBytes ((bytes.drop MessageHeader.size).take Description.size) with
  | error fault => rfl
  | ok description =>
      generalize MessageHeader.ofBytes (bytes.take MessageHeader.size) = message
      have hkind : (ProductHeader.ofSections message description heading :
          ProductHeader α).kind? = ProductKind.ofCode? message.code := rfl
      simp only [Except.map, hkind, decodeSections, readBlock, bind, Except.bind]
      by_cases hunknown : (ProductKind.ofCode? message.code).isNone = true
      · rw [if_pos hunknown, if_pos hunknown]
        rfl
      · rw [if_neg hunknown, if_neg hunknown]
        cases (BlockLayout.ofDescription description).symbology with
        | none => rfl
        | some offset =>
            dsimp only
            cases bodyCursor codec bytes message description
                ⟨bytes, Description.bodyOffset, bytes.drop Description.bodyOffset⟩ with
            | error fault => rfl
            | ok body =>
                dsimp only
                cases (body.seek offset).mapError (Error.truncated .symbology) with
                | error fault => rfl
                | ok place =>
                    dsimp only
                    rw [StateT.run']
                    cases (Symbology.read place : Except Error (Symbology α × Cursor)) with
                    | error fault => rfl
                    | ok found => rfl

/-- Where a message has the bytes of its header and of its description. -/
theorem decodeMessage_append (codec : Codec) {front back : List UInt8}
    (hfront : front.length = MessageHeader.size) (hback : back.length = Description.size)
    (body : List UInt8) (heading : Option Heading) :
    (decodeMessage codec (front ++ back ++ body) heading : Except Error (Product α)) =
      (Description.ofBytes back).bind fun description =>
        decodeSections codec (front ++ back ++ body) (.ofBytes front) description heading := by
  have hmessage : (front ++ back ++ body).take MessageHeader.size = front := by
    rw [List.append_assoc, ← hfront, List.take_left]
  have hdescription : ((front ++ back ++ body).drop MessageHeader.size).take Description.size =
      back := by
    rw [List.append_assoc, ← hfront, List.drop_left, ← hback, List.take_left]
  have hsize : Description.bodyOffset ≤ (front ++ back ++ body).length := by
    rw [List.length_append, List.length_append, hfront, hback]
    exact Nat.le_add_right _ _
  rw [decodeMessage_eq hsize, hmessage, hdescription]

/-- A message is read as the header and the description before its body say. -/
theorem decodeMessage_sections (codec : Codec) (message : MessageHeader)
    (description : Description) (body : List UInt8) (heading : Option Heading) :
    (decodeMessage codec (message.toBytes ++ description.toBytes ++ body) heading :
      Except Error (Product α)) =
      decodeSections codec (message.toBytes ++ description.toBytes ++ body) message description
        heading := by
  rw [decodeMessage_append codec message.length_toBytes description.length_toBytes,
    message.ofBytes_toBytes, description.ofBytes_toBytes]
  rfl

/-- The body of a product can be read only if it is not compressed or in the known way. -/
theorem compressionMethod_of_bodyCursor {codec : Codec} {bytes : List UInt8}
    {message : MessageHeader} {description : Description} {cursor next : Cursor}
    (h : bodyCursor codec bytes message description cursor = .ok next) :
    description.compressionMethod = 0 ∨
      description.compressionMethod = Description.compressedMethod := by
  rw [bodyCursor] at h
  by_cases hplain : (description.compressionMethod == 0) = true
  · exact Or.inl (beq_iff_eq.1 hplain)
  · rw [if_neg hplain] at h
    by_cases hpacked : description.isCompressed = true
    · exact Or.inr (beq_iff_eq.1 hpacked)
    · rw [if_neg hpacked] at h
      cases h

/-- A block never begins within message header and description. -/
theorem le_of_blockOffset? {halfwords : UInt32} {offset : Nat}
    (h : Description.blockOffset? halfwords = some offset) : Description.bodyOffset ≤ offset := by
  unfold Description.blockOffset? at h
  dsimp only at h
  split at h
  · rename_i hle
    rwa [← Option.some.inj h]
  · cases h

/-- What a message is read as: the block is only looked for in a product of a known kind. -/
theorem decodeMessage_eq_ok {codec : Codec} {bytes : List UInt8} {heading : Option Heading}
    {product : Product α} (h : decodeMessage codec bytes heading = .ok product) :
    ∃ message description,
      let header : ProductHeader α := .ofSections message description heading
      let blocks := BlockLayout.ofDescription description
      product = ⟨header, [], [], .unparsed .unknownProduct, heading, blocks⟩ ∨
      ((ProductKind.ofCode? message.code).isSome = true ∧ ∃ symbology : Symbology α,
        product = .ofSymbology header heading blocks symbology ∧
        (symbology = .empty ∨ ∃ offset cursor body place next,
          blocks.symbology = some offset ∧
          bodyCursor codec bytes message description cursor = .ok body ∧
          Symbology.read place = .ok (symbology, next))) := by
  rw [decodeMessage] at h
  obtain ⟨⟨message, cursor⟩, -, h⟩ := except_bind_eq_ok.1 h
  obtain ⟨⟨description, cursor⟩, -, h⟩ := except_bind_eq_ok.1 h
  refine ⟨message, description, ?_⟩
  dsimp only at h ⊢
  have hkind : (ProductHeader.ofSections message description heading : ProductHeader α).kind? =
      ProductKind.ofCode? message.code := rfl
  rw [hkind] at h
  cases hcode : ProductKind.ofCode? message.code with
  | none =>
      rw [hcode] at h
      exact Or.inl (Except.ok.inj h).symm
  | some kind =>
      rw [hcode] at h
      refine Or.inr ⟨rfl, ?_⟩
      cases hsymbology : (BlockLayout.ofDescription description).symbology with
      | none =>
          simp only [hsymbology] at h
          exact ⟨.empty, (Except.ok.inj h).symm, Or.inl rfl⟩
      | some offset =>
          simp only [hsymbology] at h
          obtain ⟨body, hbody, h⟩ := except_bind_eq_ok.1 h
          obtain ⟨place, -, h⟩ := except_bind_eq_ok.1 h
          obtain ⟨⟨symbology, next⟩, hread, h⟩ := except_bind_eq_ok.1 h
          exact ⟨symbology, (Except.ok.inj h).symm,
            Or.inr ⟨offset, cursor, body, place, next, rfl, hbody, hread⟩⟩

/-- Where a product with radials comes from. -/
theorem decodeMessage_radial {codec : Codec} {bytes : List UInt8} {heading : Option Heading}
    {product : Product α} (h : decodeMessage codec bytes heading = .ok product)
    (hmoment : product.moment = .radial) :
    ∃ message description packet,
      product = .ofSymbology (.ofSections message description heading) heading
        (.ofDescription description) (.radials packet) ∧
      (ProductKind.ofCode? message.code).isSome = true ∧
      (description.compressionMethod = 0 ∨
        description.compressionMethod = Description.compressedMethod) ∧ packet.Fits := by
  obtain ⟨message, description, rfl | ⟨hknown, symbology, rfl, hsymbology⟩⟩ :=
    decodeMessage_eq_ok h
  · cases hmoment
  · cases symbology with
    | unsupported code => cases hmoment
    | empty => cases hmoment
    | radials packet =>
        obtain hempty | ⟨_, _, _, _, _, -, hbody, hread⟩ := hsymbology
        · cases hempty
        · exact ⟨message, description, packet, rfl, hknown,
            compressionMethod_of_bodyCursor hbody, Symbology.fits_of_read hread⟩

theorem wellFormed_of_splitHeading {bytes body : List UInt8} {outer : Option Heading}
    (h : splitHeading bytes = .ok (outer, body)) : ∀ heading ∈ outer, heading.WellFormed := by
  rw [splitHeading] at h
  split at h
  · obtain ⟨rfl, -⟩ := Prod.mk.inj (Except.ok.inj h)
    intro heading hheading
    cases hheading
  · cases hread : Heading.read bytes with
    | error fault => simp [hread] at h
    | ok found =>
        obtain ⟨heading, rest⟩ := found
        simp only [hread] at h
        obtain ⟨rfl, -⟩ := Prod.mk.inj (Except.ok.inj h)
        rintro _ ⟨⟩
        obtain ⟨head, hspelled, -⟩ := Heading.read_eq_ok_iff.1 hread
        exact hspelled.1

/-- A product file holds one message, and the heading that applies to it is well formed. -/
theorem decodeWith_eq_ok {codec : Codec} {bytes : List UInt8} {product : Product α}
    (h : decodeWith codec bytes = .ok product) :
    ∃ message heading, decodeMessage codec message heading = .ok product ∧
      ∀ found ∈ heading, found.WellFormed := by
  rw [decodeWith] at h
  obtain ⟨⟨outer, body⟩, hsplit, h⟩ := except_bind_eq_ok.1 h
  have houter := wellFormed_of_splitHeading hsplit
  dsimp only at h
  by_cases hstream : isStream body = true
  · rw [if_pos hstream] at h
    obtain ⟨contents, -, h⟩ := except_bind_eq_ok.1 h
    obtain ⟨message, -, h⟩ := except_bind_eq_ok.1 h
    obtain ⟨⟨inner, rest⟩, hinner, h⟩ := except_bind_eq_ok.1 h
    refine ⟨rest, outer <|> some inner, h, ?_⟩
    cases outer with
    | some heading => exact houter
    | none =>
        rintro _ ⟨⟩
        obtain ⟨head, hspelled, -⟩ := Heading.read_eq_ok_iff.1 hinner
        exact hspelled.1
  · rw [if_neg hstream] at h
    exact ⟨body, outer, h, houter⟩

end WeatherRadar.Level3
