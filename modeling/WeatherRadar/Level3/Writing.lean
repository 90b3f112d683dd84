import WeatherRadar.Level3.Reading
/-!
# Writing products

A product is written with its heading, if it has one, and with one layer of radials.  What the
reader understands is kept; other blocks are not written.
-/

namespace WeatherRadar.Level3

/-- The control block before the heading of a compressed product: a length of twelve units and a
flag, and nothing else. -/
def controlBlock : List UInt8 := [0x40, 0x0C] ++ List.replicate 22 0

/-- A whole number as one of sixteen bits, cut to their range. -/
def saturate16 (n : Int) : Int16 := Int16.ofInt (max (-0x8000) (min n 0x7FFF))

/-- A whole number as one of 32 bits, cut to their range. -/
def saturate32 (n : Int) : Int32 := Int32.ofInt (max (-0x80000000) (min n 0x7FFFFFFF))

/-- The bytes of a number that has to fit into sixteen bits with a sign. -/
def countBytes (what : WrittenCount) (value : Nat) : Except Error (List UInt8) :=
  if value < 0x8000 then .ok (int16Bytes (Int16.ofNat value))
  else .error (.encode (.count what value))

/-- Day and seconds of an instant, zeros if there is none. -/
def timeFields : Option Instant → UInt16 × UInt32
  | some t => t.toJulian
  | none => (0, 0)

variable {α : Type} [Scalar α]

/-- An angle in tenths of a degree. -/
def tenthsOf (degrees : α) : Int16 := saturate16 (Scalar.nearest (degrees * Scalar.ofInt 10))

/-- A coordinate in thousandths of a degree. -/
def thousandthsOf (degrees : α) : Int32 :=
  saturate32 (Scalar.nearest (degrees * Scalar.ofInt 1000))

/-- The payload of a radial and its length in units of its encoding. -/
def payloadOf (radial : Radial α) : Except Error (Nat × List UInt8) :=
  match radial.encoding, radial.gates with
  | .runLength4, .bytes levels =>
    (GateLevels.packRuns levels.toList).map fun packed => (packed.length / 2, packed)
  | .literal8, .bytes levels => .ok (levels.size, GateLevels.padEven levels.toList)
  | encoding, _ => .error (.encode (.encoding encoding))

def radialBytes (radial : Radial α) : Except Error (List UInt8) := do
  let (length, payload) ← payloadOf radial
  return (← countBytes .radialLength length) ++ int16Bytes (tenthsOf radial.azimuth) ++
    int16Bytes (tenthsOf radial.width) ++ payload

def layerBytes (product : Product α) (packet : PacketHeader) : Except Error (List UInt8) := do
  let bins ← countBytes .bins product.header.gatesPerRadial
  let count ← countBytes .radials product.header.radialCount
  let radials ← product.radials.mapM radialBytes
  return uint16Bytes packet.code ++ int16Bytes packet.firstBin ++ bins ++
    int16Bytes packet.iCenter ++ int16Bytes packet.jCenter ++ uint16Bytes packet.rangeScale ++
    count ++ radials.flatten

/-- The bytes of the symbology block with a single layer. -/
def blockBytes (layer : List UInt8) : List UInt8 :=
  int16Bytes blockDivider ++ int16Bytes Symbology.blockId ++
    uint32Bytes (UInt32.ofNat (layer.length + 16)) ++ uint16Bytes 1 ++ int16Bytes blockDivider ++
    uint32Bytes (UInt32.ofNat layer.length) ++ layer

/-- The bytes of the symbology block of a product, if it has one. -/
def symbologyBytes (product : Product α) : Except Error (Option (List UInt8)) :=
  match product.moment with
  | .unparsed _ => .ok none
  | .radial =>
    match product.header.packet with
    | none => .error (.encode .noPacket)
    | some packet => (layerBytes product packet).map fun layer => some (blockBytes layer)

/-- The message header of a product with a number of bytes and of blocks. -/
def MessageHeader.ofProduct (header : ProductHeader α) (length : Nat) (blockCount : UInt16) :
    MessageHeader :=
  let (date, time) := timeFields header.generationTime
  { code := header.code, date := date, time := time, length := UInt32.ofNat length,
    source := header.source, destination := header.destination, blockCount := blockCount }

/-- The description of a product with or without a symbology block. -/
def Description.ofProduct (header : ProductHeader α) (hasSymbology : Bool) : Description :=
  let (volumeDate, volumeTime) := timeFields header.volumeTime
  let (generationDate, generationTime) := timeFields header.generationTime
  { latitude := thousandthsOf header.siteLatitude
    longitude := thousandthsOf header.siteLongitude
    height := header.siteHeight
    code := header.code
    operationalMode := header.operationalMode
    coveragePattern := header.coveragePattern
    sequenceNumber := header.sequenceNumber
    volumeScanNumber := header.volumeScanNumber
    volumeDate := volumeDate
    volumeTime := volumeTime
    generationDate := generationDate
    generationTime := generationTime
    elevationNumber := header.elevationNumber
    parameters := header.parameters
    thresholds := header.thresholds
    version := header.version
    spotBlank := header.spotBlank
    symbologyOffset := if hasSymbology then UInt32.ofNat (Description.bodyOffset / 2) else 0
    graphicOffset := 0
    tabularOffset := 0 }

/-- Writes a message without heading. -/
def encodeMessage (codec : Codec) (product : Product α) : Except Error (List UInt8) := do
  let symbology ← symbologyBytes product
  let isCompressed := product.header.compressionMethod == Description.compressedMethod
  let body := match symbology with
    | some block => if isCompressed then codec.packBlocks block else block
    | none => []
  let length := Description.bodyOffset + body.length
  if 0x100000000 ≤ length then throw (.encode (.tooLong length))
  let message := MessageHeader.ofProduct product.header length (if symbology.isSome then 3 else 2)
  let description := Description.ofProduct product.header symbology.isSome
  return message.toBytes ++ description.toBytes ++ body

/-- Writes a product file with a codec for its blocks. -/
def encodeWith (codec : Codec) (product : Product α) : Except Error (List UInt8) := do
  let message ← encodeMessage codec product
  return (match product.heading with
    | some heading => heading.toBytes
    | none => []) ++ message

/-- Writes a product file that is compressed as a whole behind its heading. -/
def encodeCompressedWith (codec : Codec) (product : Product α) : Except Error (List UInt8) :=
  match product.heading with
  | none => .error (.encode .noHeading)
  | some heading => do
    let message ← encodeMessage codec product
    return heading.toBytes ++ codec.deflateStream (controlBlock ++ heading.toBytes ++ message)

def encode (product : Product α) : Except Error (List UInt8) := encodeWith Codec.standard product

/-- Writes a product file that is compressed as a whole. -/
def encodeCompressed (product : Product α) : Except Error (List UInt8) :=
  encodeCompressedWith Codec.standard product

end WeatherRadar.Level3
