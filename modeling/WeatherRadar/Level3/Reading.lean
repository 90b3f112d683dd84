import WeatherRadar.Compression.Codec
import WeatherRadar.Level3.Symbology
/-!
# Reading products

A product may stand alone, behind a heading, or compressed behind a heading of its own.  The first
byte of a zlib stream, the divider of the description and the heading grammar tell which it is.
The blocks behind the description may be compressed as well.

A product of an unknown kind, or without radials, is read as far as its header.
-/

namespace WeatherRadar.Level3

/-- Length of a gate in meters for kinds of products that are not known. -/
def defaultGateSpacing : Nat := 1000

/-- The error for a product whose zlib streams cannot be read. -/
def streamError : Zlib.Error → Error
  | .noStream => .decompression .noStream
  | .stream .truncated => .decompression .streamEnded
  | .stream .corrupt => .decompression .corruptStream

/-- The contents of the zlib streams at the start of some bytes. -/
def inflateAll (codec : Codec) (bytes : List UInt8) : Except Error (List UInt8) :=
  (Zlib.inflateWith codec.inflateStream bytes).mapError streamError

def expandBlocks (codec : Codec) (bytes : List UInt8) : Except Error (List UInt8) :=
  match codec.expandBlocks bytes with
  | some contents => .ok contents
  | none => .error (.decompression .corruptBlocks)

/-- Whether some bytes begin like a zlib stream. -/
def isStream (bytes : List UInt8) : Bool := bytes.head? == some Zlib.marker

/-- The heading before a product, if it needs one, and the bytes behind it. -/
def splitHeading (bytes : List UInt8) : Except Error (Option Heading × List UInt8) :=
  if isStream bytes || looksLikeMessage bytes then .ok (none, bytes)
  else match Heading.read bytes with
    | .ok (heading, rest) => .ok (some heading, rest)
    | .error _ => .error (.unsupportedFormat .unframed)

variable {α : Type} [Scalar α]

/-- The header of a product before its packet is read. -/
def ProductHeader.ofSections (message : MessageHeader) (description : Description)
    (heading : Option Heading) : ProductHeader α where
  siteId := match heading with
    | some h => upperCase (trimBlanks h.designator)
    | none => ""
  code := message.code
  volumeTime := Instant.ofJulian? description.volumeDate description.volumeTime
  generationTime := Instant.ofJulian? description.generationDate description.generationTime
  elevationAngle := Symbology.degrees description.elevationTenths
  elevationNumber := description.elevationNumber
  firstGateRange := Scalar.ofInt 0
  gateSpacing := Scalar.ofNat <|
    match ProductKind.ofCode? message.code with
    | some kind => kind.gateSpacing
    | none => defaultGateSpacing
  radialCount := 0
  gatesPerRadial := 0
  siteLatitude := Scalar.ofInt description.latitude.toInt / Scalar.ofInt 1000
  siteLongitude := Scalar.ofInt description.longitude.toInt / Scalar.ofInt 1000
  siteHeight := description.height
  operationalMode := description.operationalMode
  coveragePattern := description.coveragePattern
  volumeScanNumber := description.volumeScanNumber
  sequenceNumber := description.sequenceNumber
  source := message.source
  destination := message.destination
  thresholds := description.thresholds
  parameters := description.parameters
  version := description.version
  spotBlank := description.spotBlank
  packet := none

def BlockLayout.ofDescription (description : Description) : BlockLayout where
  symbology := Description.blockOffset? description.symbologyOffset
  graphic := Description.blockOffset? description.graphicOffset
  tabular := Description.blockOffset? description.tabularOffset

/-- The message with its blocks expanded: they end where the header says that the message does, or
where it really ends. -/
def expandMessage (codec : Codec) (bytes : List UInt8) (message : MessageHeader) :
    Except Error (List UInt8) := do
  let size := message.length.toNat - Description.bodyOffset
  let blocks ← expandBlocks codec ((bytes.drop Description.bodyOffset).take size)
  return bytes.take Description.bodyOffset ++ blocks

def bodyCursor (codec : Codec) (bytes : List UInt8) (message : MessageHeader)
    (description : Description) (cursor : Cursor) : Except Error Cursor :=
  if description.compressionMethod == 0 then .ok cursor
  else if description.isCompressed then
    (expandMessage codec bytes message).map Cursor.ofBytes
  else .error (.unsupportedFormat (.compression description.compressionMethod))

/-- The product of a header and of what its symbology block holds. -/
def Product.ofSymbology (header : ProductHeader α) (heading : Option Heading)
    (blocks : BlockLayout) : Symbology α → Product α
  | .radials packet =>
    { header := { header with
        packet := some packet.header
        radialCount := packet.declaredRadials
        gatesPerRadial := packet.binCount
        firstGateRange := Scalar.ofInt packet.header.firstBin.toInt * header.gateSpacing }
      radials := packet.radials
      droppedRadials := packet.dropped
      moment := .radial
      heading := heading
      blocks := blocks }
  | .unsupported code => ⟨header, [], [], .unparsed (.unsupportedPacket code), heading, blocks⟩
  | .empty => ⟨header, [], [], .unparsed .noSymbology, heading, blocks⟩

def decodeMessage (codec : Codec) (bytes : List UInt8) (heading : Option Heading) :
    Except Error (Product α) := do
  let (message, cursor) ← MessageHeader.read (Cursor.ofBytes bytes)
  let (description, cursor) ← Description.read cursor
  let blocks := BlockLayout.ofDescription description
  let header : ProductHeader α := .ofSections message description heading
  if header.kind?.isNone then
    return ⟨header, [], [], .unparsed .unknownProduct, heading, blocks⟩
  match blocks.symbology with
  | none => return .ofSymbology header heading blocks .empty
  | some offset =>
    let cursor ← bodyCursor codec bytes message description cursor
    let cursor ← (cursor.seek offset).mapError (.truncated .symbology)
    let (symbology, _) ← Symbology.read cursor
    return .ofSymbology header heading blocks symbology

/-- Reads a product file whose compressed parts a codec expands. -/
def decodeWith (codec : Codec) (bytes : List UInt8) : Except Error (Product α) := do
  let (outer, body) ← splitHeading bytes
  if isStream body then
    let (inner, message) ← Heading.read (← skipControlBlock (← inflateAll codec body))
    decodeMessage codec message (outer <|> some inner)
  else
    decodeMessage codec body outer

def decode (bytes : List UInt8) : Except Error (Product α) := decodeWith Codec.standard bytes

end WeatherRadar.Level3
