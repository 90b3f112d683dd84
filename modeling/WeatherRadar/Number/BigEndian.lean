/-!
# Big-endian numbers

Files of products and images write whole numbers in bytes, the most significant byte first.
-/

namespace WeatherRadar

/-- The number that bytes spell, most significant byte first. -/
def bigEndian (bytes : List UInt8) : Nat := bytes.foldl (fun value b => value * 256 + b.toNat) 0

/-- The bytes of a number, most significant byte first. -/
def bigEndianBytes (width value : Nat) : List UInt8 :=
  match width with
  | 0 => []
  | width + 1 => UInt8.ofNat (value / Nat.pow 256 width) :: bigEndianBytes width value

def uint16Bytes (n : UInt16) : List UInt8 := bigEndianBytes 2 n.toNat

def int16Bytes (n : Int16) : List UInt8 := bigEndianBytes 2 n.toUInt16.toNat

def uint32Bytes (n : UInt32) : List UInt8 := bigEndianBytes 4 n.toNat

def int32Bytes (n : Int32) : List UInt8 := bigEndianBytes 4 n.toUInt32.toNat

end WeatherRadar
