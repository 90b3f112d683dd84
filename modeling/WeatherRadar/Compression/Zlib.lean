import WeatherRadar.Compression.Checksum
import WeatherRadar.Compression.Inflate
/-!
# Zlib streams

A zlib stream is deflate data between a two-byte header and a checksum of the contents.  Radar
products hold one or more of them in a row; the contents follow each other too.
-/

namespace WeatherRadar.Zlib

open Deflate (Fault)

/-- The first byte of a stream with a window of 32768 bytes. -/
def marker : UInt8 := 0x78

/-- The number that four bytes spell, most significant byte first. -/
def bigEndian32 (data : ByteArray) (start : Nat) : UInt32 :=
  ((data.get! start).toUInt32 <<< 24) ||| ((data.get! (start + 1)).toUInt32 <<< 16) |||
    ((data.get! (start + 2)).toUInt32 <<< 8) ||| (data.get! (start + 3)).toUInt32

/-- Whether two header bytes announce deflate data with a window of at most 32768 bytes and no
preset dictionary. -/
def validHeader (method flags : UInt8) : Bool :=
  (method.toNat * 256 + flags.toNat) % 31 == 0 && flags.toNat / 32 % 2 == 0 &&
    method.toNat % 16 == 8 && method.toNat / 16 ≤ 7

/-- Reads one stream from a byte on.  The result is its contents and the first byte after it. -/
def readStream (data : ByteArray) (start : Nat) : Except Fault (ByteArray × Nat) := do
  if data.size < start + 2 then throw .truncated
  if !validHeader (data.get! start) (data.get! (start + 1)) then throw .corrupt
  let (contents, finish) ← Deflate.inflate data (start + 2)
  if data.size < finish + 4 then throw .truncated
  if bigEndian32 data finish != Checksum.adler32 contents then throw .corrupt
  return (contents, finish + 4)

/-- Why a series of streams cannot be read. -/
inductive Error where
  | noStream
  | stream (fault : Fault)
  deriving DecidableEq, Repr

/-- A reader of one stream at the start of some bytes, which gives its contents and what follows. -/
abbrev StreamReader := List UInt8 → Except Fault (List UInt8 × List UInt8)

/-- The streams that follow each other at the start of some bytes, up to the first byte that does
not begin one. -/
def contentsWith (single : StreamReader) (data : List UInt8) : Except Error (List UInt8) :=
  if data.head? == some marker then
    match single data with
    | .error fault => .error (.stream fault)
    | .ok (contents, rest) =>
      if rest.length < data.length then (contentsWith single rest).map (contents ++ ·)
      else .ok contents
  else .ok []
termination_by data.length

/-- The contents of one or more streams in a row.  Bytes after the last one are ignored. -/
def inflateWith (single : StreamReader) (data : List UInt8) : Except Error (List UInt8) :=
  if data.head? == some marker then contentsWith single data else .error .noStream

def singleStream : StreamReader := fun data =>
  (readStream ⟨data.toArray⟩ 0).map fun (contents, finish) =>
    (contents.toList, data.drop finish)

/-- The contents of one or more streams in a row. -/
def inflate (data : List UInt8) : Except Error (List UInt8) := inflateWith singleStream data

end WeatherRadar.Zlib
