/-!
# What can be wrong with a product file

The causes for which a product is refused by the reader or the writer, with the text that reports
each.
-/

namespace WeatherRadar.Level3

/-- A read of more bytes than there are. -/
structure ShortRead where
  offset : Nat
  requested : Nat
  remaining : Nat
  deriving DecidableEq, Repr

def ShortRead.message (short : ShortRead) : String :=
  "requested " ++ toString short.requested ++ " bytes at offset " ++ toString short.offset ++
    ", only " ++ toString short.remaining ++ " remaining"

/-- Why a field cannot be read. -/
inductive ReadError where
  | short (short : ShortRead)
  | width (bytes : Nat)
  deriving DecidableEq, Repr

namespace ReadError

def message : ReadError → String
  | short s => s.message
  | width bytes => "unsupported field width " ++ toString bytes ++ " (expected 1, 2, 4 or 8)"

def kind : ReadError → String
  | short _ => "truncated"
  | width _ => "invalid_width"

end ReadError

/-- The part of a product in which a read failed.  Layers and radials are counted from zero. -/
inductive Place where
  | heading
  | controlBlock
  | messageHeader
  | description
  | symbology
  | layer (index : Nat)
  | packetHeader
  | radial (index : Nat)
  deriving DecidableEq, Repr

def Place.name : Place → String
  | heading => "WMO heading"
  | controlBlock => "CCB header"
  | messageHeader => "message header"
  | description => "product description block"
  | symbology => "symbology block"
  | layer index => "symbology layer " ++ toString (index + 1)
  | packetHeader => "packet header"
  | radial index => "radial " ++ toString (index + 1)

/-- What the heading grammar expects where a heading goes wrong. -/
inductive Expected where
  /-- A number of characters of a class. -/
  | counted
  /-- At least one character of a class. -/
  | oneOrMore
  | character
  deriving DecidableEq, Repr

def Expected.name : Expected → String
  | counted => "TakeWhileMN"
  | oneOrMore => "TakeWhile1"
  | character => "Char"

/-- A number of a radial packet that must not be negative. -/
inductive PacketCount where
  | bins
  | radials
  | radialLength
  deriving DecidableEq, Repr

def PacketCount.name : PacketCount → String
  | bins => "bin count"
  | radials => "radial count"
  | radialLength => "radial length"

/-- Why a section is not what it should be. -/
inductive SectionFault where
  | heading (expected : Expected) (offset : Nat)
  | controlLength (bytes : Nat)
  | divider (found : Int16)
  | symbology (divider block : Int16)
  | layer (index : Nat) (divider : Int16)
  | negative (count : PacketCount) (value : Int16)
  | described (part reason : String)
  deriving DecidableEq, Repr

/-- The part of a product that a fault is about. -/
def SectionFault.part : SectionFault → String
  | heading _ _ => "WMO heading"
  | controlLength _ => "CCB header"
  | divider _ => "product description block"
  | symbology _ _ => "symbology block"
  | layer _ _ => "symbology layer"
  | negative _ _ => "radial packet"
  | described part _ => part

def SectionFault.message : SectionFault → String
  | heading expected offset => expected.name ++ " at byte " ++ toString offset
  | controlLength bytes => "length " ++ toString bytes ++ " too small"
  | divider found => "expected divider -1, found " ++ toString found.toInt
  | symbology found block =>
    "divider " ++ toString found.toInt ++ " block id " ++ toString block.toInt
  | layer index found =>
    "layer " ++ toString (index + 1) ++ " divider " ++ toString found.toInt
  | negative count value => "negative " ++ count.name ++ ": " ++ toString value.toInt
  | described _ reason => reason

/-- Why the kind of a file is not supported. -/
inductive FormatFault where
  | unframed
  | compression (method : Int16)
  | described (text : String)
  deriving DecidableEq, Repr

/-- The text that reports why a file is not supported. -/
def FormatFault.message : FormatFault → String
  | unframed => "data starts with neither a WMO heading nor a Level III message header"
  | compression method => "compression method " ++ toString method.toInt
  | described text => text

/-- Why compressed data cannot be expanded. -/
inductive ExpansionFault where
  | noStream
  | streamEnded
  | corruptStream
  | corruptBlocks
  deriving DecidableEq, Repr

/-- The text that reports why compressed data cannot be expanded. -/
def ExpansionFault.message : ExpansionFault → String
  | noStream => "data does not start with a zlib header"
  | streamEnded => "zlib stream ended unexpectedly"
  | corruptStream => "zlib stream is corrupt"
  | corruptBlocks => "bzip2: data is corrupt"

/-- The encoding of the gates of a radial. -/
inductive GateEncoding where
  | literal8
  /-- Two bytes for each gate, the high one first. -/
  | literal16
  /-- Bytes with a run count in the high half and the level of the run in the low half. -/
  | runLength4
  deriving DecidableEq, Repr

def GateEncoding.name : GateEncoding → String
  | literal8 => "Literal8"
  | literal16 => "Literal16"
  | runLength4 => "RunLength4"

/-- A number that the writer has to fit into sixteen bits with a sign. -/
inductive WrittenCount where
  | bins
  | radials
  | radialLength
  deriving DecidableEq, Repr

/-- The name of a number that the writer has to fit in. -/
def WrittenCount.name : WrittenCount → String
  | bins => "bin count"
  | radials => "radial count"
  | radialLength => "radial length"

/-- Why a product cannot be written. -/
inductive EncodeFault where
  | level (level : UInt8)
  | noPacket
  | encoding (encoding : GateEncoding)
  | count (what : WrittenCount) (value : Nat)
  | noHeading
  | tooLong (bytes : Nat)
  deriving DecidableEq, Repr

/-- The text that reports why a product cannot be written. -/
def EncodeFault.message : EncodeFault → String
  | level l => "level " ++ toString l.toNat ++ " does not fit in 4 bits"
  | noPacket => "radial product without packet header"
  | encoding e => e.name ++ " radials cannot be written to a radial packet"
  | count what value => what.name ++ " " ++ toString value ++ " out of range"
  | noHeading => "compressed products need a WMO heading"
  | tooLong bytes => "message too long: " ++ toString bytes

/-- Why a product file cannot be read or written. -/
inductive Error where
  | truncated (place : Place) (short : ShortRead)
  | unsupportedFormat (fault : FormatFault)
  /-- A payload that does not spell as many gates as its packet announces. -/
  | malformedRunLength (expected actual : Nat)
  | invalidSection (fault : SectionFault)
  | decompression (fault : ExpansionFault)
  | invalidWidth (bytes : Nat)
  | encode (fault : EncodeFault)
  deriving DecidableEq, Repr

namespace Error

def message : Error → String
  | truncated place short => "Truncated input in " ++ place.name ++ ": " ++ short.message
  | unsupportedFormat fault => "Unsupported format: " ++ fault.message
  | malformedRunLength expected actual =>
    "Malformed run-length data: expanded to " ++ toString actual ++ " gates, expected " ++
      toString expected
  | invalidSection fault => "Invalid " ++ fault.part ++ ": " ++ fault.message
  | decompression fault => "Decompression failed: " ++ fault.message
  | invalidWidth bytes => "Unsupported field width: " ++ toString bytes
  | encode fault => "Cannot encode product: " ++ fault.message

def kind : Error → String
  | truncated _ _ => "truncated_input"
  | unsupportedFormat _ => "unsupported_format"
  | malformedRunLength _ _ => "malformed_run_length"
  | invalidSection _ => "invalid_section"
  | decompression _ => "decompression"
  | invalidWidth _ => "invalid_width"
  | encode _ => "encode"

/-- A read error with the part of the product it arose in. -/
def ofRead (place : Place) : ReadError → Error
  | .short s => truncated place s
  | .width bytes => invalidWidth bytes

end Error

end WeatherRadar.Level3
