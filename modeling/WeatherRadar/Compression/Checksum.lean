/-!
# Checksums

The checksums by which compressed streams and image chunks are verified: a cyclic redundancy check
with the least significant bit first, one with the most significant bit first, and the pair of sums
that ends a zlib stream.
-/

namespace WeatherRadar.Checksum

def reflectedStep : Nat → UInt32 → UInt32
  | 0, crc => crc
  | n + 1, crc =>
    reflectedStep n (if crc &&& 1 == 1 then (crc >>> 1) ^^^ 0xEDB88320 else crc >>> 1)

/-- The remainder of each byte under the reflected polynomial. -/
def reflectedTable : Array UInt32 :=
  (Array.range 256).map fun i => reflectedStep 8 (UInt32.ofNat i)

@[inline] def reflectedByte (crc : UInt32) (b : UInt8) : UInt32 :=
  reflectedTable.getD ((crc ^^^ b.toUInt32) &&& 0xFF).toNat 0 ^^^ (crc >>> 8)

/-- The reflected check of some bytes after others: `crc32 init` continues from the check `init`
of the bytes before. -/
def crc32From (init : UInt32) (bytes : ByteArray) : UInt32 :=
  bytes.foldl reflectedByte (init ^^^ 0xFFFFFFFF) ^^^ 0xFFFFFFFF

def crc32 (bytes : ByteArray) : UInt32 := crc32From 0 bytes

/-- Eight steps of the polynomial division with the most significant bit first. -/
def directStep : Nat → UInt32 → UInt32
  | 0, crc => crc
  | n + 1, crc =>
    directStep n (if crc >>> 31 == 1 then (crc <<< 1) ^^^ 0x04C11DB7 else crc <<< 1)

def directTable : Array UInt32 :=
  (Array.range 256).map fun i => directStep 8 (UInt32.ofNat i <<< 24)

/-- The check of some bytes with the most significant bit first. -/
def directCrc32 (bytes : ByteArray) : UInt32 :=
  let remainder : UInt32 := bytes.foldl (fun (crc : UInt32) b =>
    (crc <<< 8) ^^^ directTable.getD ((crc >>> 24) ^^^ b.toUInt32).toNat 0) 0xFFFFFFFF
  remainder ^^^ 0xFFFFFFFF

/-- The two sums of some bytes modulo 65521. -/
def adler32 (bytes : ByteArray) : UInt32 :=
  let (a, b) := bytes.foldl (fun (a, b) byte =>
    let a := (a + byte.toUInt32) % 65521
    (a, (b + a) % 65521)) ((1 : UInt32), (0 : UInt32))
  (b <<< 16) ||| a

end WeatherRadar.Checksum
