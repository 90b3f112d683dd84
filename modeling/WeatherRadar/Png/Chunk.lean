import WeatherRadar.Compression.Checksum
import WeatherRadar.Number.BigEndian
/-!
# Chunks of an image file

A file in the Portable Network Graphics format is a signature and a row of chunks.  A chunk has a
length, a kind of four letters, data, and a check of kind and data.
-/

namespace WeatherRadar.Png

def signature : List UInt8 := [137, 80, 78, 71, 13, 10, 26, 10]

/-- The kinds of chunks that are written. -/
inductive ChunkKind where
  | header
  | palette
  | transparency
  | imageData
  | finish
  deriving DecidableEq, Repr

def ChunkKind.letters : ChunkKind → List UInt8
  | header => [0x49, 0x48, 0x44, 0x52]
  | palette => [0x50, 0x4C, 0x54, 0x45]
  | transparency => [0x74, 0x52, 0x4E, 0x53]
  | imageData => [0x49, 0x44, 0x41, 0x54]
  | finish => [0x49, 0x45, 0x4E, 0x44]

def chunkCheck (letters data : List UInt8) : UInt32 :=
  Checksum.crc32 ⟨(letters ++ data).toArray⟩

def chunkBytes (kind : ChunkKind) (data : List UInt8) : List UInt8 :=
  uint32Bytes (UInt32.ofNat data.length) ++ kind.letters ++ data ++
    uint32Bytes (chunkCheck kind.letters data)

/-- How pixels are stored. -/
inductive ColorType where
  /-- A byte, the number of a color. -/
  | indexed
  /-- Four bytes: red, green, blue and alpha. -/
  | rgba
  deriving DecidableEq, Repr

def ColorType.code : ColorType → UInt8
  | indexed => 3
  | rgba => 6

def ColorType.pixelBytes : ColorType → Nat
  | indexed => 1
  | rgba => 4

/-- The way to store pixels that a number stands for. -/
def ColorType.ofCode? (code : UInt8) : Option ColorType :=
  [indexed, rgba].find? (·.code == code)

/-- The data of the header: the size of the image, eight bits for each number, and how pixels are
stored. -/
def headerData (width height : Nat) (colorType : ColorType) : List UInt8 :=
  uint32Bytes (UInt32.ofNat width) ++ uint32Bytes (UInt32.ofNat height) ++
    [8, colorType.code, 0, 0, 0]

end WeatherRadar.Png
