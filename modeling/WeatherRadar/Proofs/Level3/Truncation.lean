import WeatherRadar.Proofs.Level3.RoundTrip
import WeatherRadar.Proofs.Level3.ShortReads
/-!
# Products that lack radials

A packet announces its radials, and its reader holds it to that.  A product that was read with some
of them left out is written with the old number, and cannot be read again
(`decode_encode_dropped`).  A file that is cut within its radials is refused at the first part that
is not whole, unless nothing is left of its layer (`decode_cut`).
-/

namespace WeatherRadar.Level3

open Symbology

variable {α : Type} [Scalar α]

/-! ## Radials as they are written -/

/-- The bytes of a radial that its reader needs: all but the one that evens out the payload. -/
def Radial.neededSize (radial : Radial α) : Nat :=
  match payloadOf radial with
  | .ok (length, _) => 6 + payloadSize radial.encoding length
  | .error _ => 0

omit [Scalar α] in
theorem payloadOf_eq {radial : Radial α} {length : Nat} {written : List UInt8}
    (h : payloadOf radial = .ok (length, written)) :
    ∃ payload, written = payload ++ List.replicate (payload.length % 2) 0 ∧
      payload.length = payloadSize radial.encoding length := by
  unfold payloadOf at h
  split at h
  · rename_i levels hencoding hgates
    rw [hencoding]
    cases hpacked : GateLevels.packRuns levels.toList with
    | error fault => simp [hpacked, Except.map] at h
    | ok packed =>
        rw [hpacked] at h
        obtain ⟨rfl, rfl⟩ := Prod.mk.inj (Except.ok.inj h)
        have heven : packed.length % 2 = 0 := by
          unfold GateLevels.packRuns at hpacked
          split at hpacked
          · cases hpacked
          · rw [← Except.ok.inj hpacked, GateLevels.length_padEven]
            omega
        refine ⟨packed, by simp [heven], ?_⟩
        show packed.length = packed.length / 2 * 2
        omega
  · rename_i levels hencoding hgates
    obtain ⟨rfl, rfl⟩ := Prod.mk.inj (Except.ok.inj h)
    rw [hencoding]
    exact ⟨levels.toList, GateLevels.padEven_eq _, Array.length_toList⟩
  · cases h

theorem countBytes_eq {what : WrittenCount} {value : Nat} {bytes : List UInt8}
    (h : countBytes what value = .ok bytes) :
    value < 0x8000 ∧ bytes = int16Bytes (Int16.ofNat value) := by
  unfold countBytes at h
  split at h
  · rename_i hlt
    exact ⟨hlt, (Except.ok.inj h).symm⟩
  · cases h

theorem Symbology.RawRadial.announced_eq {encoding : GateEncoding} {raw : RawRadial} {length : Nat}
    (h : raw.payload.length = payloadSize encoding length) : raw.announced encoding = length := by
  cases encoding with
  | literal8 => exact h
  | literal16 => exact h
  | runLength4 =>
      show raw.payload.length / 2 = length
      rw [h, payloadSize]
      omega

theorem Symbology.RawRadial.holdable_of_length {encoding : GateEncoding} {raw : RawRadial}
    {length : Nat} (h : raw.payload.length = payloadSize encoding length)
    (hlength : length < 0x8000) :
    raw.Holdable encoding := by
  refine ⟨?_, ?_⟩
  · rw [announced_eq h]
    omega
  · rintro rfl
    rw [h, payloadSize]
    omega

theorem radialBytes_eq {radial : Radial α} {bytes : List UInt8}
    (h : radialBytes radial = .ok bytes) :
    ∃ raw : RawRadial, raw.Holdable radial.encoding ∧
      bytes = raw.fields radial.encoding ++ List.replicate (raw.payload.length % 2) 0 ∧
      (raw.fields radial.encoding).length = radial.neededSize := by
  unfold radialBytes at h
  obtain ⟨⟨length, written⟩, hpayload, h⟩ := except_bind_eq_ok.1 h
  obtain ⟨front, hcount, h⟩ := except_bind_eq_ok.1 h
  obtain ⟨hlength, rfl⟩ := countBytes_eq hcount
  obtain ⟨payload, rfl, hsize⟩ := payloadOf_eq hpayload
  let raw : RawRadial := ⟨tenthsOf radial.azimuth, tenthsOf radial.width, payload⟩
  refine ⟨raw, RawRadial.holdable_of_length hsize hlength, ?_, ?_⟩
  · rw [← Except.ok.inj h, RawRadial.fields, RawRadial.announced_eq hsize]
    simp only [raw, List.append_assoc]
  · rw [RawRadial.length_fields, Radial.neededSize, hpayload]
    exact congrArg (6 + ·) hsize

theorem mapM_radialBytes_eq {encoding : GateEncoding} {radials : List (Radial α)}
    (hencoding : ∀ radial ∈ radials, radial.encoding = encoding) {written : List (List UInt8)}
    (h : radials.mapM radialBytes = .ok written) :
    ∃ raws : List RawRadial, (∀ raw ∈ raws, raw.Holdable encoding) ∧
      written.flatten = heldRadials encoding raws ∧
      neededSizes encoding raws = radials.map Radial.neededSize := by
  induction radials generalizing written with
  | nil =>
      obtain rfl := Except.ok.inj h
      exact ⟨[], by simp, rfl, rfl⟩
  | cons radial radials ih =>
      rw [List.mapM_cons] at h
      obtain ⟨bytes, hbytes, h⟩ := except_bind_eq_ok.1 h
      obtain ⟨rest, hrest, h⟩ := except_bind_eq_ok.1 h
      obtain rfl := Except.ok.inj h
      obtain ⟨raws, hraws, hflatten, hsizes⟩ :=
        ih (fun other hother => hencoding other (by simp [hother])) hrest
      obtain ⟨raw, hraw, rfl, hsize⟩ := radialBytes_eq hbytes
      rw [hencoding radial (by simp)] at hraw hsize ⊢
      refine ⟨raw :: raws, ?_, ?_, ?_⟩
      · intro other hother
        rcases List.mem_cons.1 hother with rfl | hother
        · exact hraw
        · exact hraws other hother
      · rw [List.flatten_cons, hflatten, heldRadials, heldRadials, List.flatMap_cons]
      · rw [List.map_cons, ← hsizes, ← hsize]
        rfl

theorem layerBytes_eq (product : Product α) {packet : PacketHeader} {encoding : GateEncoding}
    (hpacked : packetEncoding? packet.code = some encoding)
    (hencoding : ∀ radial ∈ product.radials, radial.encoding = encoding) {layer : List UInt8}
    (hsize : layer.length + 16 < 0x100000000) (h : layerBytes product packet = .ok layer) :
    ∃ raws, IsRadialLayer encoding product.header.radialCount raws layer ∧
      neededSizes encoding raws = product.radials.map Radial.neededSize := by
  unfold layerBytes at h
  obtain ⟨bins, hbins, h⟩ := except_bind_eq_ok.1 h
  obtain ⟨count, hcount, h⟩ := except_bind_eq_ok.1 h
  obtain ⟨radials, hradials, h⟩ := except_bind_eq_ok.1 h
  obtain ⟨hbinCount, rfl⟩ := countBytes_eq hbins
  obtain ⟨hdeclared, rfl⟩ := countBytes_eq hcount
  obtain ⟨raws, hraws, hflatten, hsizes⟩ := mapM_radialBytes_eq hencoding hradials
  refine ⟨raws, ⟨hraws, hdeclared, hsize, packet, _, hpacked, hbinCount, ?_⟩, hsizes⟩
  rw [← Except.ok.inj h, hflatten, radialLayer, packetFields]
  simp only [List.append_assoc]

/-! ## Radials that were left out -/

theorem length_neededSizes (encoding : GateEncoding) (raws : List RawRadial) :
    (neededSizes encoding raws).length = raws.length := List.length_map _

theorem length_heldRadials_cons (encoding : GateEncoding) (raw : RawRadial)
    (raws : List RawRadial) :
    (heldRadials encoding (raw :: raws)).length = (raw.fields encoding).length +
      raw.payload.length % 2 + (heldRadials encoding raws).length := by
  rw [heldRadials, List.flatMap_cons, List.length_append, List.length_append,
    List.length_replicate]
  rfl

theorem wholeWithin_heldRadials (encoding : GateEncoding) (raws : List RawRadial) :
    wholeWithin (neededSizes encoding raws) (heldRadials encoding raws).length = raws.length := by
  induction raws with
  | nil => rfl
  | cons raw raws ih =>
      have hsize := RawRadial.length_fields encoding raw
      have hlength := length_heldRadials_cons encoding raw raws
      have hless : (heldRadials encoding (raw :: raws)).length -
          ((raw.fields encoding).length + (raw.fields encoding).length % 2) =
            (heldRadials encoding raws).length := by
        omega
      have hsizes : neededSizes encoding (raw :: raws) =
          (raw.fields encoding).length :: neededSizes encoding raws := rfl
      rw [hsizes, wholeWithin, if_neg (by omega), hless, ih, List.length_cons]

theorem IsRadialLayer.length_blockBytes {encoding : GateEncoding} {declared : Nat}
    {raws : List RawRadial} {layer : List UInt8} (h : IsRadialLayer encoding declared raws layer) :
    (blockBytes layer).length = 30 + (heldRadials encoding raws).length := by
  obtain ⟨header, binCount, -, -, rfl⟩ := h.spelled
  simp only [blockBytes, radialLayer, packetFields, List.length_append, length_int16Bytes,
    length_uint16Bytes, length_uint32Bytes]
  omega

/-- A block with fewer radials than it announces stops behind the last one. -/
theorem read_incomplete {encoding : GateEncoding} {declared : Nat} {raws : List RawRadial}
    {layer : List UInt8} (hlayer : IsRadialLayer encoding declared raws layer)
    (hless : raws.length < declared) (data : List UInt8) (position : Nat) :
    StopsAt (.radial raws.length) (Symbology.read ⟨data, position, blockBytes layer⟩ :
      Except Error (Symbology α × Cursor)) := by
  have hlength := hlayer.length_blockBytes
  have hbehind : (blockBytes layer).length - 30 = (heldRadials encoding raws).length := by omega
  have hwhole := wholeWithin_heldRadials encoding raws
  have hplace : blockPlace (neededSizes encoding raws) (blockBytes layer).length =
      .radial raws.length := by
    unfold blockPlace layersPlace layerPlace
    rw [if_neg (by omega), if_neg (by omega), if_neg (by omega), Nat.sub_sub, Nat.sub_sub, hbehind,
      hwhole]
  obtain ⟨hstops, -⟩ := read_cut (α := α) hlayer List.prefix_rfl (by rwa [hbehind, hwhole]) data
    position
  rw [← hplace]
  exact hstops (by omega)

/-- A product that lacks some of the radials of its packet is written with the number of all of
them, whatever sections it was read from. -/
theorem decode_encode_incomplete {codec : Codec} {message : MessageHeader}
    {description : Description} {heading : Option Heading} {packet : RadialPacket α}
    (blocks : BlockLayout) (hkind : (ProductKind.ofCode? message.code).isSome = true)
    (hmethod : description.compressionMethod = 0 ∨
      description.compressionMethod = Description.compressedMethod)
    (hfits : packet.Fits) (hdropped : packet.dropped ≠ [])
    (hwell : ∀ found ∈ heading, found.WellFormed) (htell : ∀ found ∈ heading, found.IsTellable)
    (hcodec : description.compressionMethod = Description.compressedMethod → KeepsBlocks codec) :
    let product : Product α :=
      .ofSymbology (.ofSections message description heading) heading blocks (.radials packet)
    ∃ written, encodeWith codec product = .ok written ∧
      StopsAt (.radial packet.radials.length)
        (decodeWith codec written : Except Error (Product α)) := by
  intro product
  have hcodec' : product.header.compressionMethod = Description.compressedMethod →
      KeepsBlocks codec := hcodec
  obtain ⟨encoding, hpacked, hall⟩ := hfits.radials
  obtain ⟨written, -, hlayer, hlength, hbound⟩ :=
    layerBytes_fits hfits product rfl rfl rfl
  generalize uint16Bytes packet.header.code ++ packetBytes packet written = layer at hlayer hlength
  have hblock : (blockBytes layer).length ≤ 30 + 0x7FFF * (0x7FFF + 8) := by
    rw [blockBytes_eq, List.length_append, List.length_append]
    show 10 + (6 + layer.length) ≤ _
    omega
  have hsize := length_writtenBody_lt hcodec' hblock
  obtain ⟨raws, hraws, hsizes⟩ := layerBytes_eq product hpacked
    (fun radial hradial => (hall radial hradial).packedAs) (by omega) hlayer
  have hcount : raws.length = packet.radials.length := by
    have hlengths := congrArg List.length hsizes
    rwa [length_neededSizes, List.length_map] at hlengths
  have hless : raws.length < packet.declaredRadials := by
    have hcomplete := hfits.complete
    have hpos := List.length_pos_iff.2 hdropped
    omega
  refine ⟨headingBytes heading ++ writtenMessage product.header
    (writtenBody codec product.header (blockBytes layer)), ?_, ?_⟩
  · have hpacket : product.header.packet = some packet.header := rfl
    rw [encodeWith, encodeMessage_eq rfl hpacket hlayer hsize]
    rfl
  · obtain ⟨data, hdecode⟩ := decodeMessage_written hcodec' hmethod hsize hkind heading
    rw [decodeWith_framed (isBareMessage_written hkind _) hwell htell, hdecode, ← hcount]
    exact (read_incomplete hraws hless data Description.bodyOffset).run.map _

/-- A product that was read with some of its radials left out cannot be read again once it is
written: the packet announces the ones that were left out as well. -/
theorem decode_encode_dropped {codec : Codec} {bytes : List UInt8} {product : Product α}
    (hdecode : decodeWith codec bytes = .ok product) (hmoment : product.moment = .radial)
    (hdropped : product.droppedRadials ≠ [])
    (htell : ∀ heading ∈ product.heading, heading.IsTellable)
    (hcodec : product.header.compressionMethod = Description.compressedMethod →
      KeepsBlocks codec) :
    ∃ written, encodeWith codec product = .ok written ∧
      StopsAt (.radial product.radials.length)
        (decodeWith codec written : Except Error (Product α)) := by
  obtain ⟨source, heading, hmessage, hwell⟩ := decodeWith_eq_ok hdecode
  obtain ⟨message, description, packet, rfl, hkind, hmethod, hfits⟩ :=
    decodeMessage_radial hmessage hmoment
  exact decode_encode_incomplete _ hkind hmethod hfits hdropped hwell htell hcodec

/-- A product of three radials of three gates, the first of which spells two. -/
def droppedSample : List UInt8 :=
  sampleMessage.toBytes ++ sampleDescription.toBytes ++ blockBytes (uint16Bytes digitalPacket ++
    [0, 0, 0, 3, 0, 0, 0, 0, 3, 231, 0, 3] ++ [0, 2, 0, 5, 0, 10, 7, 8] ++
    [0, 3, 0, 15, 0, 10, 1, 2, 3, 0] ++ [0, 3, 0, 25, 0, 10, 4, 5, 6, 0])

theorem decode_encode_droppedSample : ∃ product : Product Rat,
    decodeWith Codec.standard droppedSample = .ok product ∧
    (product.moment = .radial ∧ product.radials.length = 2 ∧ product.droppedRadials ≠ [] ∧
      product.header.compressionMethod = 0 ∧
      ∀ heading ∈ product.heading, heading.IsTellable) ∧
    ∃ written, encodeWith Codec.standard product = .ok written ∧
      StopsAt (.radial 2) (decodeWith Codec.standard written : Except Error (Product Rat)) := by
  have hchecked : ((decodeWith Codec.standard droppedSample :
      Except Error (Product Rat)).toOption.any fun product => decide (product.moment = .radial ∧
        product.radials.length = 2 ∧ product.droppedRadials ≠ [] ∧
        product.header.compressionMethod = 0 ∧
        ∀ heading ∈ product.heading, heading.IsTellable)) = true := by
    decide +kernel
  obtain ⟨product, hdecode, hpassed⟩ := exists_ok_of_any hchecked
  have hfacts := of_decide_eq_true hpassed
  refine ⟨product, hdecode, hfacts, ?_⟩
  obtain ⟨hmoment, hcount, hdropped, hmethod, htell⟩ := hfacts
  have hplain : product.header.compressionMethod = Description.compressedMethod →
      KeepsBlocks Codec.standard := by
    rw [hmethod]
    intro h
    exact absurd h (by decide)
  obtain ⟨written, hencode, hstops⟩ :=
    decode_encode_dropped hdecode hmoment hdropped htell hplain
  rw [hcount] at hstops
  exact ⟨written, hencode, hstops⟩

/-! ## Files that are cut -/

/-- What neither looks like a stream or a message nor begins with a heading is refused. -/
theorem splitHeading_unframed {bytes : List UInt8} (hstream : isStream bytes = false)
    (hmessage : looksLikeMessage bytes = false)
    (hheading : ∀ h head rest, Heading.IsSpelled h head → bytes ≠ head ++ rest) :
    splitHeading bytes = .error (.unsupportedFormat .unframed) := by
  rw [splitHeading, hstream, hmessage, Bool.or_self, if_neg Bool.false_ne_true]
  cases hread : Heading.read bytes with
  | error fault => rfl
  | ok found =>
      obtain ⟨head, hspelled, hbytes⟩ := Heading.read_eq_ok_iff.1 hread
      exact absurd hbytes (hheading _ _ _ hspelled)

theorem isStream_of_prefix {short bytes : List UInt8} (hshort : short <+: bytes)
    (hbytes : bytes.head? ≠ some 0x78) : isStream short = false := by
  rw [isStream, beq_eq_false_iff_ne]
  cases short with
  | nil => exact fun h => by cases h
  | cons first short =>
      obtain ⟨rest, rfl⟩ := hshort
      exact hbytes

theorem looksLikeMessage_of_short {bytes : List UInt8}
    (hshort : bytes.length < Description.bodyOffset) : looksLikeMessage bytes = false := by
  have hless : Cursor.hasAtLeast Description.bodyOffset bytes = false := by
    rw [← Bool.not_eq_true, hasAtLeast_iff]
    omega
  rw [looksLikeMessage, hless, Bool.false_and]

/-- A heading that is cut is no heading: every heading ends where its grammar says. -/
theorem splitHeading_cut_heading {heading : Heading} (hwell : heading.WellFormed)
    (htell : heading.IsTellable) {short : List UInt8} (hshort : short <+: heading.toBytes)
    (hcut : short.length < heading.toBytes.length) :
    splitHeading short = .error (.unsupportedFormat .unframed) := by
  have hspelled := Heading.isSpelled_toBytes hwell
  apply splitHeading_unframed
  · have hfirst := hspelled.head?_ne htell []
    rw [List.append_nil] at hfirst
    exact isStream_of_prefix hshort hfirst
  · by_cases hplace : MessageHeader.size < short.length
    · apply looksLikeMessage_eq_false (List.getElem?_eq_getElem hplace)
      exact hspelled.lt _ (hshort.subset (List.getElem_mem hplace))
    · apply looksLikeMessage_of_short
      have hsize : MessageHeader.size < Description.bodyOffset := by decide
      omega
  · rintro other head rest hother rfl
    -- The whole heading would begin with a shorter one, but a heading is read to its end.
    obtain ⟨more, hmore⟩ := hshort
    have hread := Heading.read_spelled hother (rest ++ more)
    have hwhole := Heading.read_spelled hspelled []
    rw [List.append_nil, ← hmore, List.append_assoc, hread] at hwhole
    obtain ⟨-, hnil⟩ := Prod.mk.inj (Except.ok.inj hwhole)
    have hmoreNil := (List.append_eq_nil_iff.1 hnil).2
    rw [← hmore, hmoreNil, List.append_nil] at hcut
    exact Nat.lt_irrefl _ hcut

/-- A message that is cut before its body is taken for nothing at all. -/
theorem splitHeading_cut_message {message : List UInt8} (hmessage : IsBareMessage message)
    {short : List UInt8} (hshort : short <+: message)
    (hcut : short.length < Description.bodyOffset) :
    splitHeading short = .error (.unsupportedFormat .unframed) := by
  apply splitHeading_unframed
  · exact isStream_of_prefix hshort hmessage.first
  · exact looksLikeMessage_of_short hcut
  · rintro heading head rest hspelled rfl
    have hlength := hspelled.length_ge
    obtain ⟨more, rfl⟩ := hshort
    -- A heading is text throughout, but here it would hold the first byte of the divider.
    have hplace : 18 < head.length := by omega
    have hdivider := hmessage.divider.1
    rw [List.append_assoc, List.getElem?_append_left hplace,
      List.getElem?_eq_getElem hplace] at hdivider
    have hlt := hspelled.lt _ (List.getElem_mem hplace)
    rw [Option.some.inj hdivider] at hlt
    exact absurd hlt (by decide)

/-- A message that is cut before its body stops in its header or in its description. -/
theorem decodeMessage_cut {codec : Codec} {bytes : List UInt8} {heading : Option Heading}
    (hcut : bytes.length < Description.bodyOffset) :
    ∃ place, StopsAt place (decodeMessage codec bytes heading : Except Error (Product α)) := by
  by_cases hsize : MessageHeader.size ≤ bytes.length
  · have hless : (bytes.drop MessageHeader.size).length < Description.size := by
      rw [List.length_drop]
      unfold Description.bodyOffset at hcut
      omega
    obtain ⟨short, hshort⟩ : StopsAt .description (Description.read
        ⟨bytes, MessageHeader.size, bytes.drop MessageHeader.size⟩) :=
      (stopsAt_bytes hless).bind _
    refine ⟨.description, short, ?_⟩
    rw [decodeMessage]
    simp only [bind, Except.bind, readMessageHeader_eq hsize, hshort]
  · obtain ⟨short, hshort⟩ : StopsAt .messageHeader (MessageHeader.read (.ofBytes bytes)) :=
      (stopsAt_bytes (Nat.lt_of_not_le hsize)).bind _
    refine ⟨.messageHeader, short, ?_⟩
    rw [decodeMessage]
    simp only [bind, Except.bind, hshort]

theorem decodeMessage_plain (codec : Codec) (message : MessageHeader) (description : Description)
    (hkind : (ProductKind.ofCode? message.code).isSome = true)
    (hmethod : description.compressionMethod = 0) {blocks : BlockLayout}
    (hblocks : BlockLayout.ofDescription description = blocks)
    (hoffset : blocks.symbology = some Description.bodyOffset) (body : List UInt8)
    (heading : Option Heading) :
    ∃ data, (decodeMessage codec (message.toBytes ++ description.toBytes ++ body) heading :
      Except Error (Product α)) =
        (Symbology.read.run' ⟨data, Description.bodyOffset, body⟩).map
          (.ofSymbology (.ofSections message description heading) heading blocks) := by
  have hbefore : (message.toBytes ++ description.toBytes).length = Description.bodyOffset := by
    rw [List.length_append, MessageHeader.length_toBytes, Description.length_toBytes]
    rfl
  have hknown : (ProductKind.ofCode? message.code).isNone = false := by
    rw [Option.isNone_eq_false_iff]
    exact hkind
  have hseek := seek_append (message.toBytes ++ description.toBytes) body
    ⟨message.toBytes ++ description.toBytes ++ body, Description.bodyOffset,
      (message.toBytes ++ description.toBytes ++ body).drop Description.bodyOffset⟩ rfl
  rw [hbefore] at hseek
  refine ⟨message.toBytes ++ description.toBytes ++ body, ?_⟩
  rw [decodeMessage_sections, decodeSections, hknown, hblocks, if_neg Bool.false_ne_true]
  simp only [hoffset]
  rw [readBlock, bodyCursor, hmethod, if_pos (by decide)]
  simp only [bind, Except.bind, hseek, mapError_ok]

/-- A product with radials that is written without compression: heading, sections and a block. -/
theorem of_encodeWith_eq_ok {codec : Codec} {product : Product α} {written : List UInt8}
    (hmoment : product.moment = .radial) (hmethod : product.header.compressionMethod = 0)
    (h : encodeWith codec product = .ok written) :
    ∃ packet layer, product.header.packet = some packet ∧ layerBytes product packet = .ok layer ∧
      layer.length + 16 < 0x100000000 ∧ written = headingBytes product.heading ++
        writtenMessage product.header (blockBytes layer) := by
  unfold encodeWith at h
  obtain ⟨message, hmessage, h⟩ := except_bind_eq_ok.1 h
  unfold encodeMessage at hmessage
  obtain ⟨symbology, hsymbology, hmessage⟩ := except_bind_eq_ok.1 hmessage
  unfold symbologyBytes at hsymbology
  rw [hmoment] at hsymbology
  cases hpacket : product.header.packet with
  | none => simp [hpacket] at hsymbology
  | some packet =>
      simp only [hpacket] at hsymbology
      cases hlayer : layerBytes product packet with
      | error fault => simp [hlayer, Except.map] at hsymbology
      | ok layer =>
          rw [hlayer] at hsymbology
          obtain rfl := Except.ok.inj hsymbology
          have hplain : (product.header.compressionMethod == Description.compressedMethod) =
              false := by
            rw [hmethod]
            rfl
          simp only [hplain, Bool.false_eq_true, if_false] at hmessage
          by_cases hlong : 0x100000000 ≤ Description.bodyOffset + (blockBytes layer).length
          · rw [if_pos hlong] at hmessage
            cases hmessage
          · rw [if_neg hlong] at hmessage
            obtain rfl := Except.ok.inj hmessage
            obtain rfl := Except.ok.inj h
            refine ⟨packet, layer, rfl, hlayer, ?_, rfl⟩
            rw [blockBytes_eq, List.length_append, List.length_append] at hlong
            change ¬ 0x100000000 ≤ 120 + (10 + (6 + layer.length)) at hlong
            omega

/-! ## Radials that are cut -/

/-- Where a field ends, if fields of these sizes stand one behind the other, each evened out. -/
def fieldEnd (sizes : List Nat) (k : Nat) : Nat :=
  ((sizes.take k).map fun size => size + size % 2).sum + sizes.getD k 0

theorem wholeWithin_le {sizes : List Nat} {k n : Nat} (hk : 0 < sizes.getD k 0)
    (hn : n < fieldEnd sizes k) : wholeWithin sizes n ≤ k := by
  induction sizes generalizing k n with
  | nil => exact Nat.zero_le k
  | cons size sizes ih =>
      rw [wholeWithin]
      by_cases hcut : n < size
      · rw [if_pos hcut]
        exact Nat.zero_le k
      · rw [if_neg hcut]
        cases k with
        | zero => exact absurd (by simpa [fieldEnd] using hn) hcut
        | succ k =>
            rw [List.getD_cons_succ] at hk
            apply Nat.succ_le_succ
            apply ih hk
            simp only [fieldEnd, List.take_succ_cons, List.map_cons, List.sum_cons,
              List.getD_cons_succ] at hn ⊢
            omega

theorem neededSize_pos (encoding : GateEncoding) {raws : List RawRadial} {k : Nat}
    (hk : k < raws.length) : 0 < (neededSizes encoding raws).getD k 0 := by
  have hsize := RawRadial.length_fields encoding raws[k]
  rw [List.getD_eq_getElem?_getD, neededSizes, List.getElem?_map, List.getElem?_eq_getElem hk]
  show 0 < (raws[k].fields encoding).length
  omega

theorem fieldEnd_le (encoding : GateEncoding) {raws : List RawRadial} {k : Nat}
    (hk : k < raws.length) :
    fieldEnd (neededSizes encoding raws) k ≤ (heldRadials encoding raws).length := by
  induction raws generalizing k with
  | nil => cases hk
  | cons raw raws ih =>
      have hsize := RawRadial.length_fields encoding raw
      have hlength := length_heldRadials_cons encoding raw raws
      have hsizes : neededSizes encoding (raw :: raws) =
          (raw.fields encoding).length :: neededSizes encoding raws := rfl
      rw [hsizes, hlength]
      cases k with
      | zero =>
          have hend : fieldEnd ((raw.fields encoding).length :: neededSizes encoding raws) 0 =
              (raw.fields encoding).length := Nat.zero_add _
          omega
      | succ k =>
          rw [List.length_cons] at hk
          have hrest := ih (Nat.lt_of_succ_lt_succ hk)
          simp only [fieldEnd, List.take_succ_cons, List.map_cons, List.sum_cons,
            List.getD_cons_succ] at hrest ⊢
          omega

/-- Where the message of a written product has its body. -/
def Product.bodyStart (product : Product α) : Nat :=
  (headingBytes product.heading).length + Description.bodyOffset

/-- Where the only layer of a written product begins, behind its header. -/
def Product.layerStart (product : Product α) : Nat := product.bodyStart + 16

/-- Where the payload of a radial of a written product ends. -/
def Product.radialEnd (product : Product α) (k : Nat) : Nat :=
  product.layerStart + 14 + fieldEnd (product.radials.map Radial.neededSize) k

/-- A product that is written without compression and read again as radials: its kind is known, its
heading can be told, and its radials have the encoding of their packet. -/
structure Product.IsPlain (product : Product α) : Prop where
  moment : product.moment = .radial
  kind : (ProductKind.ofCode? product.header.code).isSome = true
  method : product.header.compressionMethod = 0
  packed : ∀ packet ∈ product.header.packet, ∀ radial ∈ product.radials,
    packetEncoding? packet.code = some radial.encoding
  wellFormed : ∀ heading ∈ product.heading, heading.WellFormed
  tellable : ∀ heading ∈ product.heading, heading.IsTellable

omit [Scalar α] in
theorem take_written (product : Product α) (message : MessageHeader) (description : Description)
    (body : List UInt8) {n : Nat} (hn : product.bodyStart ≤ n) :
    (headingBytes product.heading ++ (message.toBytes ++ description.toBytes ++ body)).take n =
      headingBytes product.heading ++ (message.toBytes ++ description.toBytes ++
        body.take (n - product.bodyStart)) := by
  have hfront : (headingBytes product.heading ++ (message.toBytes ++ description.toBytes)).length =
      product.bodyStart := by
    rw [List.length_append, List.length_append, message.length_toBytes, description.length_toBytes]
    rfl
  rw [← List.append_assoc (headingBytes product.heading), List.take_append, hfront,
    List.take_of_length_le (by omega), List.append_assoc]

theorem Product.IsPlain.written {codec : Codec} {product : Product α} (hplain : product.IsPlain)
    {written : List UInt8} (hencode : encodeWith codec product = .ok written)
    (hsome : product.radials ≠ []) :
    ∃ encoding raws layer, ∃ message : MessageHeader,
      IsRadialLayer encoding product.header.radialCount raws layer ∧
      neededSizes encoding raws = product.radials.map Radial.neededSize ∧
      (ProductKind.ofCode? message.code).isSome = true ∧
      written = headingBytes product.heading ++ (message.toBytes ++
        (Description.ofProduct product.header true).toBytes ++ blockBytes layer) := by
  obtain ⟨packet, layer, hpacket, hlayer, hsize, rfl⟩ :=
    of_encodeWith_eq_ok hplain.moment hplain.method hencode
  have hpacked := hplain.packed packet hpacket
  have hfirst := hpacked (product.radials.head hsome) (List.head_mem hsome)
  obtain ⟨raws, hraws, hsizes⟩ := layerBytes_eq product hfirst
    (fun radial hmem => Option.some.inj ((hpacked radial hmem).symm.trans hfirst)) hsize hlayer
  exact ⟨_, raws, layer, MessageHeader.ofProduct product.header _ 3, hraws, hsizes, hplain.kind,
    rfl⟩

/-- A file is refused because it is cut: it is taken for no product at all, or bytes are missing
at a place. -/
def IsRefused (result : Except Error (Product α)) : Prop :=
  result = .error (.unsupportedFormat .unframed) ∨ ∃ place, StopsAt place result

theorem decodeWith_cut_front {codec : Codec} {heading : Option Heading}
    (hwell : ∀ found ∈ heading, found.WellFormed) (htell : ∀ found ∈ heading, found.IsTellable)
    {message short : List UInt8} (hmessage : IsBareMessage message)
    (hshort : short <+: headingBytes heading ++ message)
    (hcut : short.length < (headingBytes heading).length + Description.bodyOffset) :
    IsRefused (decodeWith codec short : Except Error (Product α)) := by
  cases heading with
  | none =>
      have hlength : (headingBytes none).length = 0 := rfl
      left
      rw [decodeWith, splitHeading_cut_message hmessage (show short <+: message from hshort)
        (by omega)]
      rfl
  | some heading =>
      have hspelled := Heading.isSpelled_toBytes (hwell heading rfl)
      have htold := htell heading rfl
      rcases prefix_append_cases hshort with ⟨hpart, hprefix⟩ | ⟨part, rfl, hpart⟩
      · left
        rw [decodeWith, splitHeading_cut_heading (hwell heading rfl) htold hprefix hpart]
        rfl
      · right
        rw [List.length_append] at hcut
        have hstream := isStream_of_prefix hpart hmessage.first
        rw [headingBytes, decodeWith, splitHeading_of_heading hspelled htold]
        simp only [bind, Except.bind, hstream, Bool.false_eq_true, if_false]
        exact decodeMessage_cut (by omega)

/-- A file that is cut in its body is read as the part of its block that is left. -/
theorem decodeWith_cut_body (codec : Codec) {product : Product α} (hplain : product.IsPlain)
    {message : MessageHeader} (hkind : (ProductKind.ofCode? message.code).isSome = true)
    (left : List UInt8) :
    ∃ data header, (decodeWith codec (headingBytes product.heading ++ (message.toBytes ++
      (Description.ofProduct product.header true).toBytes ++ left)) : Except Error (Product α)) =
        (Symbology.read.run' ⟨data, Description.bodyOffset, left⟩).map
          (.ofSymbology header product.heading ⟨some Description.bodyOffset, none, none⟩) := by
  obtain ⟨data, hdata⟩ := decodeMessage_plain (α := α) codec message
    (Description.ofProduct product.header true) hkind hplain.method rfl rfl left product.heading
  rw [decodeWith_framed (isBareMessage_sections message hkind _ left) hplain.wellFormed
    hplain.tellable, hdata]
  exact ⟨data, _, rfl⟩

/-- What is read of a file that is cut in its body, where an announced radial is not whole. -/
theorem decode_take_body (codec : Codec) {product : Product α} (hplain : product.IsPlain)
    {message : MessageHeader} (hkind : (ProductKind.ofCode? message.code).isSome = true)
    {encoding : GateEncoding} {raws : List RawRadial} {layer : List UInt8}
    (hraws : IsRadialLayer encoding product.header.radialCount raws layer) {n : Nat}
    (hbody : product.bodyStart ≤ n) (hn : n - product.bodyStart ≤ (blockBytes layer).length)
    (hcut : wholeWithin (neededSizes encoding raws) (n - product.bodyStart - 30) <
      product.header.radialCount) :
    let file := headingBytes product.heading ++ (message.toBytes ++
      (Description.ofProduct product.header true).toBytes ++ blockBytes layer)
    (n ≠ product.layerStart →
      StopsAt (blockPlace (neededSizes encoding raws) (n - product.bodyStart))
        (decodeWith codec (file.take n) : Except Error (Product α))) ∧
    (n = product.layerStart → ∃ header : ProductHeader α, decodeWith codec (file.take n) =
      .ok ⟨header, [], [], .unparsed .noSymbology, product.heading,
        ⟨some Description.bodyOffset, none, none⟩⟩) := by
  intro file
  have htake : file.take n = _ := take_written product message
    (Description.ofProduct product.header true) (blockBytes layer) hbody
  have hprefix := List.take_prefix (n - product.bodyStart) (blockBytes layer)
  have hlength : ((blockBytes layer).take (n - product.bodyStart)).length =
      n - product.bodyStart := List.length_take_of_le hn
  generalize (blockBytes layer).take (n - product.bodyStart) = left at *
  obtain ⟨data, header, hdecode⟩ := decodeWith_cut_body codec hplain hkind left
  rw [← hlength] at hcut ⊢
  obtain ⟨hstops, hempty⟩ := read_cut (α := α) hraws hprefix hcut data Description.bodyOffset
  unfold Product.layerStart
  rw [htake, hdecode]
  constructor
  · intro hne
    exact (hstops (by omega)).run.map _
  · intro heq
    obtain ⟨next, hnext⟩ := hempty (by omega)
    rw [StateT.run', hnext]
    exact ⟨header, rfl⟩

/-- A written product that is cut where a byte of one of its announced radials is missing is
refused, and from its body on with the place of the first part that is not whole.  Only where the
header of its layer is whole and nothing is left of the layer, it is taken for a product without
radials. -/
theorem decode_cut {codec : Codec} {product : Product α} (hplain : product.IsPlain)
    {written : List UInt8} (hencode : encodeWith codec product = .ok written) {k : Nat}
    (hannounced : k < product.header.radialCount) (hradial : k < product.radials.length)
    {n : Nat} (hn : n < product.radialEnd k) :
    (n < product.bodyStart →
      IsRefused (decodeWith codec (written.take n) : Except Error (Product α))) ∧
    (product.bodyStart ≤ n → n ≠ product.layerStart →
      StopsAt (blockPlace (product.radials.map Radial.neededSize) (n - product.bodyStart))
        (decodeWith codec (written.take n) : Except Error (Product α))) ∧
    (n = product.layerStart → ∃ header : ProductHeader α, decodeWith codec (written.take n) =
      .ok ⟨header, [], [], .unparsed .noSymbology, product.heading,
        ⟨some Description.bodyOffset, none, none⟩⟩) := by
  have hsome : product.radials ≠ [] := List.ne_nil_of_length_pos (Nat.zero_lt_of_lt hradial)
  obtain ⟨encoding, raws, layer, message, hraws, hsizes, hkind, rfl⟩ :=
    hplain.written hencode hsome
  have hless : k < raws.length := by
    rwa [← length_neededSizes encoding, hsizes, List.length_map]
  have hpos := neededSize_pos encoding hless
  have hends := fieldEnd_le encoding hless
  have hblock := hraws.length_blockBytes
  unfold Product.radialEnd Product.layerStart at hn
  rw [← hsizes] at hn ⊢
  have hwhole : wholeWithin (neededSizes encoding raws) (n - product.bodyStart - 30) ≤ k := by
    apply wholeWithin_le hpos
    unfold fieldEnd at hn ⊢
    omega
  refine ⟨?_, ?_, ?_⟩
  · intro hcut
    apply decodeWith_cut_front hplain.wellFormed hplain.tellable
      (isBareMessage_sections message hkind _ (blockBytes layer)) (List.take_prefix _ _)
    exact Nat.lt_of_le_of_lt (List.length_take_le _ _) hcut
  · intro hbody
    exact (decode_take_body codec hplain hkind hraws hbody (by omega)
      (Nat.lt_of_le_of_lt hwhole hannounced)).1
  · intro heq
    have hbody : product.bodyStart ≤ n := heq ▸ Nat.le_add_right _ _
    exact (decode_take_body codec hplain hkind hraws hbody (by omega)
      (Nat.lt_of_le_of_lt hwhole hannounced)).2 heq

/-- A product with two radials of three gates. -/
def plainSample : Product Rat :=
  let heading : Heading := ⟨none, "SDUS54", "KOUN", "150000", none, "N0Q", "TLX"⟩
  let first : Radial Rat := ⟨1 / 2, 1, .literal8, .bytes #[1, 2, 3]⟩
  let second : Radial Rat := ⟨3 / 2, 1, .literal8, .bytes #[4, 5, 6]⟩
  .ofSymbology (.ofSections sampleMessage sampleDescription (some heading)) (some heading)
    ⟨some Description.bodyOffset, none, none⟩
    (.radials ⟨⟨digitalPacket, 0, 0, 0, 999⟩, 3, 2, [first, second], []⟩)

/-- Cut behind the header of its layer, the product is taken for one without radials; cut before
its last gate, it is refused with the second radial. -/
theorem decode_cut_plainSample : plainSample.IsPlain ∧ plainSample.header.radialCount = 2 ∧
    plainSample.radials.length = 2 ∧
    ∃ written, encodeWith Codec.standard plainSample = .ok written ∧
      (∃ header : ProductHeader Rat, decodeWith Codec.standard (written.take 166) =
        .ok ⟨header, [], [], .unparsed .noSymbology, plainSample.heading,
          ⟨some Description.bodyOffset, none, none⟩⟩) ∧
      StopsAt (.radial 1) (decodeWith Codec.standard (written.take 198) :
        Except Error (Product Rat)) := by
  have hplain : plainSample.IsPlain := by
    refine ⟨rfl, by decide, by decide, ?_, ?_, ?_⟩
    · rintro packet ⟨⟩ radial hradial
      simp only [plainSample, Product.ofSymbology, List.mem_cons, List.not_mem_nil,
        or_false] at hradial
      rcases hradial with rfl | rfl <;> rfl
    · rintro heading ⟨⟩
      exact ⟨by decide, by decide, by decide, by decide, by decide, by decide, by decide⟩
    · rintro heading ⟨⟩
      decide
  have hwritten : (encodeWith Codec.standard plainSample).toOption.isSome = true := by
    decide +kernel
  cases hencode : encodeWith Codec.standard plainSample with
  | error fault =>
      rw [hencode] at hwritten
      cases hwritten
  | ok written =>
      refine ⟨hplain, rfl, rfl, written, rfl, ?_, ?_⟩
      · obtain ⟨-, -, hempty⟩ := decode_cut hplain hencode (k := 1) (n := 166) (by decide)
          (by decide) (by decide)
        exact hempty (by decide)
      · obtain ⟨-, hstops, -⟩ := decode_cut hplain hencode (k := 1) (n := 198) (by decide)
          (by decide) (by decide)
        have hplace : blockPlace (plainSample.radials.map Radial.neededSize)
            (198 - plainSample.bodyStart) = .radial 1 := by decide +kernel
        rw [hplace] at hstops
        exact hstops (by decide) (by decide)

end WeatherRadar.Level3
