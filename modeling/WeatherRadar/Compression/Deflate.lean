import WeatherRadar.Compression.Checksum
/-!
# Writing zlib streams

Contents are written as one block in the fixed prefix codes.  Repetitions are found by looking up
the last place where the next three bytes occurred, and are as long as the bytes agree.
-/

namespace WeatherRadar

namespace Deflate

/-- Bits waiting for their byte, and the bytes that are complete. -/
structure BitSink where
  bytes : ByteArray
  held : UInt64
  count : UInt64

namespace BitSink

def start (bytes : ByteArray) : BitSink := ⟨bytes, 0, 0⟩

/-- Moves complete bytes out; at most seven bits stay. -/
def drain : Nat → BitSink → BitSink
  | 0, sink => sink
  | n + 1, sink =>
    if sink.count < 8 then sink
    else drain n ⟨sink.bytes.push sink.held.toUInt8, sink.held >>> 8, sink.count - 8⟩

/-- Appends the low `count ≤ 32` bits of a number, least significant first. -/
@[inline] def push (sink : BitSink) (value : Nat) (count : Nat) : BitSink :=
  drain 5 { sink with
    held := sink.held ||| (UInt64.ofNat value <<< sink.count)
    count := sink.count + UInt64.ofNat count }

def finish (sink : BitSink) : ByteArray :=
  if sink.count == 0 then sink.bytes else sink.bytes.push sink.held.toUInt8

end BitSink

/-- The bits of a number in reverse order. -/
def reverseBits : Nat → Nat → Nat
  | 0, _ => 0
  | count + 1, value => value % 2 * Nat.pow 2 count + reverseBits count (value / 2)

/-- The fixed code of each byte and length symbol, ready to be written, and its length. -/
def fixedCodes : Array (Nat × Nat) :=
  (Array.range 288).map fun symbol =>
    if symbol < 144 then (reverseBits 8 (0x30 + symbol), 8)
    else if symbol < 256 then (reverseBits 9 (0x190 + (symbol - 144)), 9)
    else if symbol < 280 then (reverseBits 7 (symbol - 256), 7)
    else (reverseBits 8 (0xC0 + (symbol - 280)), 8)

def pushSymbol (sink : BitSink) (symbol : Nat) : BitSink :=
  let (code, count) := fixedCodes.getD symbol (0, 7)
  sink.push code count

/-- The number of bits of a natural number beyond its two leading ones. -/
def extraBits (n : Nat) (kept : Nat) : Nat := n.log2 - kept

def pushLength (sink : BitSink) (length : Nat) : BitSink :=
  if length == 258 then pushSymbol sink 285
  else
    let n := length - 3
    if n < 8 then pushSymbol sink (257 + n)
    else
      let bits := extraBits n 2
      (pushSymbol sink (257 + 4 * bits + n / Nat.pow 2 bits)).push (n % Nat.pow 2 bits) bits

def pushDistance (sink : BitSink) (distance : Nat) : BitSink :=
  let n := distance - 1
  if n < 4 then sink.push (reverseBits 5 n) 5
  else
    let bits := extraBits n 1
    (sink.push (reverseBits 5 (2 * bits + n / Nat.pow 2 bits)) 5).push (n % Nat.pow 2 bits) bits

/-- How many of at most `limit` bytes from two places on agree. -/
def agreement (data : ByteArray) (a b : Nat) : Nat → Nat
  | 0 => 0
  | limit + 1 =>
    if data.get! a == data.get! b then agreement data (a + 1) (b + 1) limit + 1 else 0

/-- The table entry of the three bytes from a place on. -/
def tripleSlot (data : ByteArray) (i : Nat) : Nat :=
  ((data.get! i).toNat * 1021 + (data.get! (i + 1)).toNat * 131 + (data.get! (i + 2)).toNat * 7)
    % 8192

/-- Writes the bytes from a place on.  `last` holds one more than the place where three bytes of
each table entry were seen last.  A step moves on by one byte at least, so `fuel` beyond the bytes
that are left is never used up. -/
def deflateFrom (data : ByteArray) : Nat → Nat → Array Nat → BitSink → BitSink
  | 0, _, _, sink => sink
  | fuel + 1, i, last, sink =>
    if i + 3 ≤ data.size then
      let slot := tripleSlot data i
      let seen := last.getD slot 0
      let last := last.setIfInBounds slot (i + 1)
      let length :=
        if seen != 0 && i + 1 - seen ≤ 32768 then
          agreement data (seen - 1) i (min 258 (data.size - i))
        else 0
      if length ≥ 3 then
        deflateFrom data fuel (i + length) last
          (pushDistance (pushLength sink length) (i + 1 - seen))
      else deflateFrom data fuel (i + 1) last (pushSymbol sink (data.get! i).toNat)
    else if i < data.size then
      deflateFrom data fuel (i + 1) last (pushSymbol sink (data.get! i).toNat)
    else sink

def deflate (data out : ByteArray) : ByteArray :=
  let sink := (BitSink.start out).push 3 3
  (pushSymbol (deflateFrom data (data.size + 1) 0 (Array.replicate 8192 0) sink) 256).finish

end Deflate

namespace Zlib

/-- A number as four bytes, most significant first. -/
def pushBigEndian32 (out : ByteArray) (n : UInt32) : ByteArray :=
  (((out.push (n >>> 24).toUInt8).push (n >>> 16).toUInt8).push (n >>> 8).toUInt8).push n.toUInt8

def compress (data : ByteArray) : ByteArray :=
  pushBigEndian32 (Deflate.deflate data ⟨#[0x78, 0x9C]⟩) (Checksum.adler32 data)

end Zlib

end WeatherRadar
