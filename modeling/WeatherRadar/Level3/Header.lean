import WeatherRadar.Calendar
import WeatherRadar.Layer
import WeatherRadar.Level3.Cursor
/-!
# Message header and product description

Every product starts with a message header of 18 bytes and a description of 102 bytes.  All numbers
are written with the most significant byte first.
-/

namespace WeatherRadar.Level3

def uint16At (bytes : List UInt8) (offset : Nat) : UInt16 :=
  UInt16.ofNat (bigEndian [bytes.getD offset 0, bytes.getD (offset + 1) 0])

/-- The two bytes at an offset, with a sign. -/
def int16At (bytes : List UInt8) (offset : Nat) : Int16 :=
  Int16.ofNat (bigEndian [bytes.getD offset 0, bytes.getD (offset + 1) 0])

def uint32At (bytes : List UInt8) (offset : Nat) : UInt32 :=
  UInt32.ofNat (bigEndian [bytes.getD offset 0, bytes.getD (offset + 1) 0,
    bytes.getD (offset + 2) 0, bytes.getD (offset + 3) 0])

/-- The four bytes at an offset, with a sign. -/
def int32At (bytes : List UInt8) (offset : Nat) : Int32 :=
  Int32.ofNat (bigEndian [bytes.getD offset 0, bytes.getD (offset + 1) 0,
    bytes.getD (offset + 2) 0, bytes.getD (offset + 3) 0])

/-- The number that stands before every block. -/
def blockDivider : Int16 := -1

/-- The header of a message. -/
structure MessageHeader where
  code : ProductCode
  /-- The day it was sent, 1 for the first day of 1970. -/
  date : UInt16
  /-- Seconds after midnight. -/
  time : UInt32
  length : UInt32
  source : Int16
  destination : Int16
  blockCount : UInt16
  deriving DecidableEq, Repr

namespace MessageHeader

def size : Nat := 18

def ofBytes (b : List UInt8) : MessageHeader where
  code := int16At b 0
  date := uint16At b 2
  time := uint32At b 4
  length := uint32At b 8
  source := int16At b 12
  destination := int16At b 14
  blockCount := uint16At b 16

def toBytes (h : MessageHeader) : List UInt8 :=
  int16Bytes h.code ++ uint16Bytes h.date ++ uint32Bytes h.time ++ uint32Bytes h.length ++
    int16Bytes h.source ++ int16Bytes h.destination ++ uint16Bytes h.blockCount

def read : Parser MessageHeader := do return ofBytes (← Parser.bytes .messageHeader size)

end MessageHeader

/-- The description of a product. -/
structure Description where
  /-- Thousandths of a degree north. -/
  latitude : Int32
  /-- Thousandths of a degree east. -/
  longitude : Int32
  /-- Feet above sea level. -/
  height : Int16
  code : ProductCode
  operationalMode : UInt16
  coveragePattern : UInt16
  sequenceNumber : Int16
  volumeScanNumber : UInt16
  volumeDate : UInt16
  volumeTime : UInt32
  generationDate : UInt16
  generationTime : UInt32
  elevationNumber : UInt16
  /-- Numbers whose meaning depends on the product.  The third is the elevation angle in tenths of
  a degree, the eighth the compression method, and the last two the size of the expanded blocks. -/
  parameters : Vector Int16 10
  thresholds : Vector UInt16 16
  version : UInt8
  spotBlank : UInt8
  /-- Where the blocks begin, in units of two bytes from the beginning of the message. -/
  symbologyOffset : UInt32
  graphicOffset : UInt32
  tabularOffset : UInt32
  deriving DecidableEq, Repr

namespace Description

def size : Nat := 102

/-- The first byte behind message header and description. -/
def bodyOffset : Nat := MessageHeader.size + size

/-- The compression method for blocks that are compressed. -/
def compressedMethod : Int16 := 1

/-- The elevation angle in tenths of a degree. -/
def elevationTenths (d : Description) : Int16 := d.parameters.getD 2 0

def compressionMethod (d : Description) : Int16 := d.parameters.getD 7 0

def isCompressed (d : Description) : Bool := d.compressionMethod == compressedMethod

/-- The size of the expanded blocks, for a compressed product. -/
def expandedSize (d : Description) : Nat :=
  (d.parameters.getD 8 0).toUInt16.toNat * 65536 + (d.parameters.getD 9 0).toUInt16.toNat

/-- The byte at which a block begins, if there is one.  It cannot begin in the header. -/
def blockOffset? (halfwords : UInt32) : Option Nat :=
  let offset := halfwords.toNat * 2
  if bodyOffset ≤ offset then some offset else none

def parameterOffsets : Vector Nat 10 := #v[34, 36, 40, 74, 76, 78, 80, 82, 84, 86]

def thresholdOffset : Nat := 42

/-- The description that bytes spell, whatever divider stands before it. -/
def fieldsOf (b : List UInt8) : Description where
  latitude := int32At b 2
  longitude := int32At b 6
  height := int16At b 10
  code := int16At b 12
  operationalMode := uint16At b 14
  coveragePattern := uint16At b 16
  sequenceNumber := int16At b 18
  volumeScanNumber := uint16At b 20
  volumeDate := uint16At b 22
  volumeTime := uint32At b 24
  generationDate := uint16At b 28
  generationTime := uint32At b 30
  elevationNumber := uint16At b 38
  parameters := parameterOffsets.map (int16At b)
  thresholds := Vector.ofFn fun i => uint16At b (thresholdOffset + 2 * i.val)
  version := b.getD 88 0
  spotBlank := b.getD 89 0
  symbologyOffset := uint32At b 90
  graphicOffset := uint32At b 94
  tabularOffset := uint32At b 98

def ofBytes (b : List UInt8) : Except Error Description :=
  let divider := int16At b 0
  if divider == blockDivider then .ok (fieldsOf b)
  else .error (.invalidSection (.divider divider))

def parameterBytes (d : Description) (i : Nat) : List UInt8 := int16Bytes (d.parameters.getD i 0)

def toBytes (d : Description) : List UInt8 :=
  int16Bytes blockDivider ++ int32Bytes d.latitude ++ int32Bytes d.longitude ++
    int16Bytes d.height ++ int16Bytes d.code ++ uint16Bytes d.operationalMode ++
    uint16Bytes d.coveragePattern ++ int16Bytes d.sequenceNumber ++
    uint16Bytes d.volumeScanNumber ++ uint16Bytes d.volumeDate ++ uint32Bytes d.volumeTime ++
    uint16Bytes d.generationDate ++ uint32Bytes d.generationTime ++
    [0, 1].flatMap d.parameterBytes ++ uint16Bytes d.elevationNumber ++ d.parameterBytes 2 ++
    d.thresholds.toList.flatMap uint16Bytes ++ [3, 4, 5, 6, 7, 8, 9].flatMap d.parameterBytes ++
    [d.version, d.spotBlank] ++ uint32Bytes d.symbologyOffset ++
    uint32Bytes d.graphicOffset ++ uint32Bytes d.tabularOffset

def read : Parser Description := do
  let bytes ← Parser.bytes .description size
  (ofBytes bytes : Except Error Description)

end Description

/-- Whether some bytes have the divider of a description where a message has it. -/
def looksLikeMessage (bytes : List UInt8) : Bool :=
  Cursor.hasAtLeast Description.bodyOffset bytes &&
    int16At (bytes.drop MessageHeader.size) 0 == blockDivider

end WeatherRadar.Level3
