import WeatherRadar.Proofs.Calendar
import WeatherRadar.Proofs.Level3.Decoded
import WeatherRadar.Proofs.Level3.Framing
/-!
# Products are read back as they are written

A product that was read from any bytes, with radials and without losing one of them, can be written,
and what is written is read as the same product (`decode_encode`).  Only the places of the blocks
change: the symbology block follows the description, and there is no other one.
-/

namespace WeatherRadar.Level3

open Symbology

variable {α : Type} [Scalar α]

/-! ## Headers -/

/-- Times that a header can hold. -/
def IsWritable (time : Option Instant) : Prop :=
  ∀ t ∈ time, t.seconds < 65535 * Instant.secondsPerDay

theorem ofJulian?_timeFields {day : UInt16} {seconds : UInt32}
    (h : IsWritable (Instant.ofJulian? day seconds)) :
    Instant.ofJulian? (timeFields (Instant.ofJulian? day seconds)).1
      (timeFields (Instant.ofJulian? day seconds)).2 = Instant.ofJulian? day seconds := by
  cases htime : Instant.ofJulian? day seconds with
  | none => rfl
  | some t =>
      rw [htime] at h
      exact Instant.ofJulian?_toJulian (Instant.seconds_nonneg_of_ofJulian? htime) (h t rfl)

theorem ofSections_ofProduct (hα : ExactDegrees α) {message : MessageHeader}
    {description : Description} {heading : Option Heading} {header : ProductHeader α}
    (hvolume : IsWritable (Instant.ofJulian? description.volumeDate description.volumeTime))
    (hgeneration :
      IsWritable (Instant.ofJulian? description.generationDate description.generationTime))
    (hheader : ∃ firstGateRange radialCount gatesPerRadial packet,
      header = { (ProductHeader.ofSections message description heading : ProductHeader α) with
        firstGateRange := firstGateRange
        radialCount := radialCount
        gatesPerRadial := gatesPerRadial
        packet := packet }) (length : Nat) (blockCount : UInt16) (hasSymbology : Bool) :
    ProductHeader.ofSections (MessageHeader.ofProduct header length blockCount)
      (Description.ofProduct header hasSymbology) heading =
        (ProductHeader.ofSections message description heading : ProductHeader α) := by
  obtain ⟨firstGateRange, radialCount, gatesPerRadial, packet, rfl⟩ := hheader
  have hlatitude := hα.thousandths description.latitude
  have hlongitude := hα.thousandths description.longitude
  have hv := ofJulian?_timeFields hvolume
  have hg := ofJulian?_timeFields hgeneration
  unfold ProductHeader.ofSections
  congr 1
  · exact congrArg (fun n : Int32 => (Scalar.ofInt n.toInt / Scalar.ofInt 1000 : α)) hlatitude
  · exact congrArg (fun n : Int32 => (Scalar.ofInt n.toInt / Scalar.ofInt 1000 : α)) hlongitude

/-! ## Messages -/

/-- A codec that finds blocks again after it has packed them, and needs at most a hundredth and 600
bytes more for them. -/
structure KeepsBlocks (codec : Codec) : Prop where
  expands : ∀ bytes, codec.expandBlocks (codec.packBlocks bytes) = some bytes
  size : ∀ bytes, (codec.packBlocks bytes).length ≤ bytes.length + bytes.length / 100 + 600

/-- The blocks of a product as they are written. -/
def writtenBody (codec : Codec) (header : ProductHeader α) (block : List UInt8) : List UInt8 :=
  if header.compressionMethod == Description.compressedMethod then codec.packBlocks block else block

/-- The bytes of a message with a symbology block. -/
def writtenMessage (header : ProductHeader α) (body : List UInt8) : List UInt8 :=
  (MessageHeader.ofProduct header (Description.bodyOffset + body.length) 3).toBytes ++
    (Description.ofProduct header true).toBytes ++ body

omit [Scalar α] in
theorem length_writtenBody_lt {codec : Codec} {header : ProductHeader α}
    (hcodec : header.compressionMethod = Description.compressedMethod → KeepsBlocks codec)
    {block : List UInt8} (hblock : block.length ≤ 30 + 0x7FFF * (0x7FFF + 8)) :
    Description.bodyOffset + (writtenBody codec header block).length < 0x100000000 := by
  have hoffset : Description.bodyOffset = 120 := rfl
  rw [writtenBody]
  by_cases hpacked : (header.compressionMethod == Description.compressedMethod) = true
  · rw [if_pos hpacked]
    have hsize := (hcodec (beq_iff_eq.1 hpacked)).size block
    omega
  · rw [if_neg hpacked]
    omega

theorem encodeMessage_eq {codec : Codec} {product : Product α} {layer : List UInt8}
    {packet : PacketHeader} (hmoment : product.moment = .radial)
    (hpacket : product.header.packet = some packet) (hlayer : layerBytes product packet = .ok layer)
    (hsize : Description.bodyOffset +
      (writtenBody codec product.header (blockBytes layer)).length < 0x100000000) :
    encodeMessage codec product = .ok (writtenMessage product.header
      (writtenBody codec product.header (blockBytes layer))) := by
  have hsymbology : symbologyBytes product = .ok (some (blockBytes layer)) := by
    rw [symbologyBytes, hmoment, hpacket]
    simp only [hlayer, Except.map]
  have hfits : ¬ 0x100000000 ≤ Description.bodyOffset +
      (writtenBody codec product.header (blockBytes layer)).length := Nat.not_le.2 hsize
  rw [encodeMessage, hsymbology]
  exact if_neg hfits

theorem seek_append (before after : List UInt8) (cursor : Cursor)
    (hdata : cursor.data = before ++ after) :
    cursor.seek before.length = .ok ⟨before ++ after, before.length, after⟩ := by
  have hall : Cursor.hasAtLeast before.length (before ++ after) = true := by
    rw [hasAtLeast_iff, List.length_append]
    omega
  rw [Cursor.seek, hdata, if_pos hall, List.drop_left]

theorem bodyCursor_written {codec : Codec} {header : ProductHeader α} {block : List UInt8}
    (hcodec : header.compressionMethod = Description.compressedMethod → KeepsBlocks codec)
    (hmethod : header.compressionMethod = 0 ∨
      header.compressionMethod = Description.compressedMethod)
    (hsize : Description.bodyOffset + (writtenBody codec header block).length < 0x100000000)
    {before : List UInt8} (hbefore : before.length = Description.bodyOffset) (cursor : Cursor)
    (hcursor : cursor.data = before ++ writtenBody codec header block) :
    ∃ body data, bodyCursor codec (before ++ writtenBody codec header block)
      (MessageHeader.ofProduct header (Description.bodyOffset +
        (writtenBody codec header block).length) 3) (Description.ofProduct header true) cursor =
          .ok body ∧
      body.seek Description.bodyOffset = .ok ⟨data, Description.bodyOffset, block⟩ := by
  have hfield : (Description.ofProduct header true).compressionMethod =
      header.compressionMethod := rfl
  rw [bodyCursor, hfield]
  rcases hmethod with hplain | hpacked
  · have hbody : writtenBody codec header block = block := by
      rw [writtenBody, hplain]
      rfl
    rw [hbody] at hcursor
    rw [hplain, if_pos (by decide), ← hbefore]
    exact ⟨cursor, _, rfl, seek_append before block cursor hcursor⟩
  · have hbody : writtenBody codec header block = codec.packBlocks block := by
      rw [writtenBody, hpacked]
      rfl
    have hcompressed : (Description.ofProduct header true).isCompressed = true := by
      rw [Description.isCompressed, hfield, hpacked]
      rfl
    have hlength : (MessageHeader.ofProduct header (Description.bodyOffset +
        (writtenBody codec header block).length) 3).length.toNat - Description.bodyOffset =
          (writtenBody codec header block).length := by
      show (UInt32.ofNat _).toNat - _ = _
      rw [UInt32.toNat_ofNat', Nat.mod_eq_of_lt hsize, Nat.add_sub_cancel_left]
    have hexpanded : expandMessage codec (before ++ writtenBody codec header block)
        (MessageHeader.ofProduct header (Description.bodyOffset +
          (writtenBody codec header block).length) 3) = .ok (before ++ block) := by
      rw [expandMessage, hlength, ← hbefore, List.drop_left, List.take_left, List.take_length,
        expandBlocks, hbody, (hcodec hpacked).expands]
      rfl
    rw [hpacked, if_neg (by decide), hcompressed, if_pos rfl, hexpanded, ← hbefore]
    exact ⟨_, _, rfl, seek_append before block _ rfl⟩

theorem readBlock_written {codec : Codec} {header : ProductHeader α} {block : List UInt8}
    (hcodec : header.compressionMethod = Description.compressedMethod → KeepsBlocks codec)
    (hmethod : header.compressionMethod = 0 ∨
      header.compressionMethod = Description.compressedMethod)
    (hsize : Description.bodyOffset + (writtenBody codec header block).length < 0x100000000) :
    ∃ data, (readBlock codec (writtenMessage header (writtenBody codec header block))
      (MessageHeader.ofProduct header (Description.bodyOffset +
        (writtenBody codec header block).length) 3) (Description.ofProduct header true)
      Description.bodyOffset : Except Error (Symbology α)) =
        Symbology.read.run' ⟨data, Description.bodyOffset, block⟩ := by
  generalize hmessage : MessageHeader.ofProduct header (Description.bodyOffset +
    (writtenBody codec header block).length) 3 = message
  generalize hdescription : Description.ofProduct header true = description
  have hbefore : (message.toBytes ++ description.toBytes).length = Description.bodyOffset := by
    rw [List.length_append, MessageHeader.length_toBytes, Description.length_toBytes]
    rfl
  have hwhole : writtenMessage header (writtenBody codec header block) =
      message.toBytes ++ description.toBytes ++ writtenBody codec header block := by
    rw [writtenMessage, hmessage, hdescription]
  obtain ⟨body, data, hbody, hseek⟩ := bodyCursor_written hcodec hmethod hsize hbefore
    ⟨message.toBytes ++ description.toBytes ++ writtenBody codec header block,
      Description.bodyOffset, (message.toBytes ++ description.toBytes ++
        writtenBody codec header block).drop Description.bodyOffset⟩ rfl
  rw [hmessage, hdescription] at hbody
  refine ⟨data, ?_⟩
  rw [hwhole, readBlock, hbody]
  simp only [bind, Except.bind, hseek, mapError_ok]

/-- A written message is read as the header that was written and as its block. -/
theorem decodeMessage_written {codec : Codec} {header : ProductHeader α} {block : List UInt8}
    (hcodec : header.compressionMethod = Description.compressedMethod → KeepsBlocks codec)
    (hmethod : header.compressionMethod = 0 ∨
      header.compressionMethod = Description.compressedMethod)
    (hsize : Description.bodyOffset + (writtenBody codec header block).length < 0x100000000)
    (hkind : (ProductKind.ofCode? header.code).isSome = true) (heading : Option Heading) :
    ∃ data, (decodeMessage codec (writtenMessage header (writtenBody codec header block)) heading :
      Except Error (Product α)) =
        (Symbology.read.run' ⟨data, Description.bodyOffset, block⟩).map
          (.ofSymbology (.ofSections (MessageHeader.ofProduct header (Description.bodyOffset +
            (writtenBody codec header block).length) 3) (Description.ofProduct header true) heading)
          heading ⟨some Description.bodyOffset, none, none⟩) := by
  obtain ⟨data, hblock⟩ := readBlock_written hcodec hmethod hsize
  have hknown : (ProductKind.ofCode? header.code).isNone = false := by
    rw [Option.isNone_eq_false_iff]
    exact hkind
  refine ⟨data, ?_⟩
  rw [writtenMessage] at hblock ⊢
  generalize hmessage : MessageHeader.ofProduct header (Description.bodyOffset +
    (writtenBody codec header block).length) 3 = message at hblock ⊢
  have hcode : message.code = header.code := by
    rw [← hmessage]
    rfl
  have hlayout : BlockLayout.ofDescription (Description.ofProduct header true) =
      ⟨some Description.bodyOffset, none, none⟩ := rfl
  rw [decodeMessage_sections, decodeSections, hcode, hknown, hlayout, if_neg Bool.false_ne_true]
  dsimp only
  rw [hblock]

/-! ## Product files -/

theorem head?_code {code : ProductCode} (hkind : (ProductKind.ofCode? code).isSome = true) :
    (int16Bytes code).head? ≠ some 0x78 := by
  have hknown : ∀ kind ∈ ProductKind.known, (int16Bytes kind.code).head? ≠ some 0x78 := by
    decide
  obtain ⟨kind, hfound⟩ := Option.isSome_iff_exists.1 hkind
  have hcode : kind.code = code := by
    simpa using List.find?_some hfound
  rw [← hcode]
  exact hknown kind (List.mem_of_find?_eq_some hfound)

theorem isBareMessage_sections (message : MessageHeader)
    (hkind : (ProductKind.ofCode? message.code).isSome = true) (description : Description)
    (body : List UInt8) : IsBareMessage (message.toBytes ++ description.toBytes ++ body) := by
  have hfront : message.toBytes.length = 18 := message.length_toBytes
  have hsize : description.toBytes.length = 102 := description.length_toBytes
  obtain ⟨before, after, hdescription, hbefore⟩ := description.standsAt 0
  obtain rfl : before = [] := List.length_eq_zero_iff.1 hbefore
  have hdivider : description.toBytes = 0xFF :: 0xFF :: after := hdescription
  refine ⟨?_, ⟨?_, ?_⟩, ?_⟩
  · rw [List.length_append, List.length_append]
    omega
  · rw [List.append_assoc, List.getElem?_append_right (by omega), hfront, hdivider]
    rfl
  · rw [List.append_assoc, List.getElem?_append_right (by omega), hfront, hdivider]
    rfl
  · obtain ⟨before, after, hbytes, hbefore⟩ := message.standsAt 0
    obtain rfl : before = [] := List.length_eq_zero_iff.1 hbefore
    have hcode : message.toBytes = int16Bytes message.code ++ after := hbytes
    rw [hcode, List.append_assoc, List.append_assoc, List.head?_append]
    exact head?_code hkind

theorem isBareMessage_written {header : ProductHeader α}
    (hkind : (ProductKind.ofCode? header.code).isSome = true) (body : List UInt8) :
    IsBareMessage (writtenMessage header body) :=
  isBareMessage_sections (.ofProduct header _ 3) hkind _ body

def headingBytes : Option Heading → List UInt8
  | some heading => heading.toBytes
  | none => []

/-- A bare message behind its heading, or alone, is read with that heading. -/
theorem decodeWith_framed {codec : Codec} {message : List UInt8} (hmessage : IsBareMessage message)
    {heading : Option Heading} (hwell : ∀ found ∈ heading, found.WellFormed)
    (htell : ∀ found ∈ heading, found.IsTellable) :
    (decodeWith codec (headingBytes heading ++ message) : Except Error (Product α)) =
      decodeMessage codec message heading := by
  cases heading with
  | none => exact decodeWith_bare hmessage
  | some found =>
      exact decodeWith_headed (Heading.isSpelled_toBytes (hwell found rfl)) (htell found rfl)
        hmessage

/-- A product with radials is written and read again, whatever sections it was read from. -/
theorem decode_encode_radials (hα : ExactDegrees α) {codec : Codec} {message : MessageHeader}
    {description : Description} {heading : Option Heading} {packet : RadialPacket α}
    (blocks : BlockLayout) (hkind : (ProductKind.ofCode? message.code).isSome = true)
    (hmethod : description.compressionMethod = 0 ∨
      description.compressionMethod = Description.compressedMethod)
    (hfits : packet.Fits) (hdropped : packet.dropped = [])
    (hvolume : IsWritable (Instant.ofJulian? description.volumeDate description.volumeTime))
    (hgeneration :
      IsWritable (Instant.ofJulian? description.generationDate description.generationTime))
    (hwell : ∀ found ∈ heading, found.WellFormed) (htell : ∀ found ∈ heading, found.IsTellable)
    (hcodec : description.compressionMethod = Description.compressedMethod → KeepsBlocks codec) :
    let product : Product α :=
      .ofSymbology (.ofSections message description heading) heading blocks (.radials packet)
    ∃ written, encodeWith codec product = .ok written ∧ decodeWith codec written =
      .ok { product with blocks := ⟨some Description.bodyOffset, none, none⟩ } := by
  intro product
  have hcodec' : product.header.compressionMethod = Description.compressedMethod →
      KeepsBlocks codec := hcodec
  obtain ⟨layer, hlayer, hblock, hread⟩ := Symbology.read_written hα hfits hdropped
    (show product.header.gatesPerRadial = packet.binCount from rfl) rfl rfl
  have hsize := length_writtenBody_lt hcodec' hblock
  have hheader : ∃ firstGateRange radialCount gatesPerRadial packet,
      product.header = { (ProductHeader.ofSections message description heading :
        ProductHeader α) with
        firstGateRange := firstGateRange
        radialCount := radialCount
        gatesPerRadial := gatesPerRadial
        packet := packet } := ⟨_, _, _, _, rfl⟩
  refine ⟨headingBytes heading ++ writtenMessage product.header
    (writtenBody codec product.header (blockBytes layer)), ?_, ?_⟩
  · have hpacket : product.header.packet = some packet.header := rfl
    rw [encodeWith, encodeMessage_eq rfl hpacket hlayer hsize]
    rfl
  · obtain ⟨data, hdecode⟩ := decodeMessage_written hcodec' hmethod hsize hkind heading
    obtain ⟨next, hnext⟩ := hread data Description.bodyOffset
    rw [decodeWith_framed (isBareMessage_written hkind _) hwell htell, hdecode, StateT.run', hnext,
      ofSections_ofProduct hα hvolume hgeneration hheader]
    rfl

/-- A product that was read can be written and is read again, if numbers keep angles and positions
exactly. -/
theorem decode_encode_of_exact (hα : ExactDegrees α) {codec : Codec} {bytes : List UInt8}
    {product : Product α} (hdecode : decodeWith codec bytes = .ok product)
    (hmoment : product.moment = .radial) (hdropped : product.droppedRadials = [])
    (hvolume : IsWritable product.header.volumeTime)
    (hgeneration : IsWritable product.header.generationTime)
    (htell : ∀ heading ∈ product.heading, heading.IsTellable)
    (hcodec : product.header.compressionMethod = Description.compressedMethod →
      KeepsBlocks codec) :
    ∃ written, encodeWith codec product = .ok written ∧ decodeWith codec written =
      .ok { product with blocks := ⟨some Description.bodyOffset, none, none⟩ } := by
  obtain ⟨source, heading, hmessage, hwell⟩ := decodeWith_eq_ok hdecode
  obtain ⟨message, description, packet, rfl, hkind, hmethod, hfits⟩ :=
    decodeMessage_radial hmessage hmoment
  exact decode_encode_radials hα _ hkind hmethod hfits hdropped hvolume hgeneration hwell htell
    hcodec

/-- A product that was read with radials, none of them dropped, can be written, and what is written
is read as the same product, with the symbology block right behind the description. -/
theorem decode_encode {codec : Codec} {bytes : List UInt8} {product : Product Rat}
    (hdecode : decodeWith codec bytes = .ok product) (hmoment : product.moment = .radial)
    (hdropped : product.droppedRadials = []) (hvolume : IsWritable product.header.volumeTime)
    (hgeneration : IsWritable product.header.generationTime)
    (htell : ∀ heading ∈ product.heading, heading.IsTellable)
    (hcodec : product.header.compressionMethod = Description.compressedMethod →
      KeepsBlocks codec) :
    ∃ written, encodeWith codec product = .ok written ∧ decodeWith codec written =
      .ok { product with blocks := ⟨some Description.bodyOffset, none, none⟩ } :=
  decode_encode_of_exact exactDegrees_rat hdecode hmoment hdropped hvolume hgeneration htell hcodec

def sampleMessage : MessageHeader := ⟨94, 19000, 60, 0, 300, 0, 3⟩

def sampleDescription : Description :=
  { latitude := 35333, longitude := -97278, height := 1277, code := 94, operationalMode := 2
    coveragePattern := 12, sequenceNumber := 3, volumeScanNumber := 4, volumeDate := 19000
    volumeTime := 60, generationDate := 19000, generationTime := 60, elevationNumber := 1
    parameters := #v[0, 0, 5, 0, 0, 0, 0, 0, 0, 0], thresholds := Vector.replicate 16 7
    version := 1, spotBlank := 0, symbologyOffset := 60, graphicOffset := 0, tabularOffset := 0 }

/-- A block with two radials of three gates. -/
def sampleBlock : List UInt8 :=
  blockBytes (uint16Bytes digitalPacket ++ [0, 2, 0, 3, 0, 0, 0, 0, 3, 231, 0, 2] ++
    [0, 3, 14, 15, 0, 10, 7, 8, 9, 0] ++ [0, 3, 0, 5, 0, 10, 1, 2, 3, 0])

/-- The block as bzip2 packs it. -/
def samplePacked : List UInt8 :=
  [66, 90, 104, 57, 49, 65, 89, 38, 83, 89, 16, 157, 209, 244, 0, 0, 25, 120, 1, 250, 241, 192, 0,
    16, 0, 16, 0, 0, 128, 0, 0, 160, 0, 49, 76, 0, 19, 65, 166, 167, 168, 79, 81, 155, 74, 34, 45,
    74, 132, 234, 231, 68, 207, 174, 242, 50, 89, 142, 145, 225, 133, 77, 13, 222, 35, 12, 74, 252,
    93, 201, 20, 225, 66, 64, 66, 119, 71, 208]

/-- A codec that packs the block as bzip2 does, and marks all other bytes. -/
def sampleCodec : Codec :=
  { Codec.standard with
    packBlocks := fun bytes => if bytes = sampleBlock then samplePacked else 0 :: bytes
    expandBlocks := fun bytes => if bytes = samplePacked then some sampleBlock else bytes.tail? }

theorem keepsBlocks_sample : KeepsBlocks sampleCodec where
  expands bytes := by
    simp only [sampleCodec]
    by_cases hblock : bytes = sampleBlock
    · rw [if_pos hblock, if_pos rfl, hblock]
    · have hmarked : 0 :: bytes ≠ samplePacked := by simp [samplePacked]
      rw [if_neg hblock, if_neg hmarked]
      rfl
  size bytes := by
    simp only [sampleCodec]
    split
    · have hpacked : samplePacked.length ≤ 100 := by decide
      omega
    · rw [List.length_cons]
      omega

/-- A product with the packed block, and a tabular block that is not read. -/
def sampleBytes : List UInt8 :=
  let heading : Heading := ⟨some "042", "SDUS54", "KOUN", "150000", none, "N0Q", "TLX"⟩
  let message : MessageHeader := ⟨94, 19000, 60, 198, 300, 0, 3⟩
  let description : Description :=
    { latitude := 35333, longitude := -97278, height := 1277, code := 94, operationalMode := 2
      coveragePattern := 12, sequenceNumber := 3, volumeScanNumber := 4, volumeDate := 19000
      volumeTime := 60, generationDate := 0, generationTime := 0, elevationNumber := 1
      parameters := #v[0, 0, 5, 0, 0, 0, 0, 1, 0, 50], thresholds := Vector.replicate 16 7
      version := 1, spotBlank := 0, symbologyOffset := 60, graphicOffset := 0
      tabularOffset := 90 }
  heading.toBytes ++ message.toBytes ++ description.toBytes ++ samplePacked

theorem decode_encode_sample : ∃ product : Product Rat,
    decodeWith sampleCodec sampleBytes = .ok product ∧
    (product.moment = .radial ∧ product.droppedRadials = [] ∧ product.radials.length = 2 ∧
      product.header.volumeTime = some ⟨1641513660⟩ ∧ product.header.generationTime = none ∧
      (∀ heading ∈ product.heading, heading.IsTellable) ∧
      product.header.compressionMethod = Description.compressedMethod) ∧
    KeepsBlocks sampleCodec ∧
    ∃ written, encodeWith sampleCodec product = .ok written ∧
      decodeWith sampleCodec written =
        .ok { product with blocks := ⟨some Description.bodyOffset, none, none⟩ } := by
  have hchecked : ((decodeWith sampleCodec sampleBytes :
      Except Error (Product Rat)).toOption.any fun product => decide (product.moment = .radial ∧
        product.droppedRadials = [] ∧ product.radials.length = 2 ∧
        product.header.volumeTime = some ⟨1641513660⟩ ∧
        product.header.generationTime = none ∧
        (∀ heading ∈ product.heading, heading.IsTellable) ∧
        product.header.compressionMethod = Description.compressedMethod)) = true := by
    decide +kernel
  cases hdecode : (decodeWith sampleCodec sampleBytes : Except Error (Product Rat)) with
  | error fault =>
      rw [hdecode] at hchecked
      cases hchecked
  | ok product =>
      rw [hdecode] at hchecked
      have hfacts := of_decide_eq_true hchecked
      refine ⟨product, rfl, hfacts, keepsBlocks_sample, ?_⟩
      obtain ⟨hmoment, hdropped, -, hvolume, hgeneration, htell, -⟩ := hfacts
      apply decode_encode hdecode hmoment hdropped _ _ htell fun _ => keepsBlocks_sample
      · rw [hvolume]
        rintro t ⟨⟩
        decide
      · rw [hgeneration]
        rintro t ⟨⟩

end WeatherRadar.Level3
