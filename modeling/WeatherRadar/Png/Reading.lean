import WeatherRadar.Color
import WeatherRadar.Compression.Codec
import WeatherRadar.Number.BigEndian
/-!
# Reading image files

A reader that knows the format on its own: it has nothing in common with the writer but the
compression of rows, and computes the checks of chunks bit by bit.  A file is taken apart into its
chunks.  An image is read from a file with the signature of the format, sound chunks of which only
the last one ends it, and rows without filters.
-/

namespace WeatherRadar.Png

/-! ## Checks of chunks -/

/-- A check after a bit: all bits move down by one, and the polynomial is taken off if the bit that
drops out is not the one that comes in. -/
def checkBit (check : UInt32) (bit : Bool) : UInt32 :=
  if (check &&& 1 == 1) == bit then check >>> 1 else (check >>> 1) ^^^ 0xEDB88320

/-- A check after some bits of a number, the lowest one first. -/
def checkBits (check : UInt32) (count bits : Nat) : UInt32 :=
  match count with
  | 0 => check
  | count + 1 => checkBits (checkBit check (bits % 2 == 1)) count (bits / 2)

/-- The cyclic redundancy check of some bytes.  It starts with all bits set, and is inverted at the
end. -/
def bitwiseCheck (bytes : List UInt8) : UInt32 :=
  ~~~bytes.foldl (fun check byte => checkBits check 8 byte.toNat) 0xFFFFFFFF

/-! ## Chunks -/

/-- The bytes of the letters that name a kind of chunk. -/
def letterBytes (letters : List Char) : List UInt8 :=
  letters.map fun letter => UInt8.ofNat letter.toNat

/-- A chunk as it was found. -/
structure FoundChunk where
  letters : List UInt8
  data : List UInt8
  /-- Whether the check is that of its letters and data. -/
  sound : Bool
  deriving DecidableEq, Repr

def FoundChunk.isNamed (chunk : FoundChunk) (letters : List Char) : Bool :=
  chunk.letters == letterBytes letters

/-- The first chunk of some bytes, and what follows it. -/
def takeChunk? (bytes : List UInt8) : Option (FoundChunk × List UInt8) :=
  match bytes with
  | l0 :: l1 :: l2 :: l3 :: k0 :: k1 :: k2 :: k3 :: rest =>
    let length := bigEndian [l0, l1, l2, l3]
    let letters := [k0, k1, k2, k3]
    let data := rest.take length
    match rest.drop length with
    | c0 :: c1 :: c2 :: c3 :: more =>
      let check := bigEndian [c0, c1, c2, c3]
      some (⟨letters, data, check == (bitwiseCheck (letters ++ data)).toNat⟩, more)
    | _ => none
  | _ => none

theorem takeChunk?_length {bytes more : List UInt8} {chunk : FoundChunk}
    (h : takeChunk? bytes = some (chunk, more)) : more.length < bytes.length := by
  unfold takeChunk? at h
  split at h
  · next rest =>
    dsimp only at h
    split at h
    · next hdrop =>
      have hlen := congrArg List.length hdrop
      simp only [Option.some.injEq, Prod.mk.injEq] at h
      obtain ⟨-, rfl⟩ := h
      simp only [List.length_drop, List.length_cons] at hlen ⊢
      omega
    · simp at h
  · simp at h

/-- The chunks that follow each other at the start of some bytes, and the bytes behind them. -/
def takeChunks (bytes : List UInt8) : List FoundChunk × List UInt8 :=
  match h : takeChunk? bytes with
  | none => ([], bytes)
  | some (chunk, more) =>
    have := takeChunk?_length h
    let (chunks, rest) := takeChunks more
    (chunk :: chunks, rest)
termination_by bytes.length

/-! ## Files -/

/-- A file taken apart. -/
structure File where
  signature : List UInt8
  chunks : List FoundChunk
  /-- The bytes behind the last chunk. -/
  trailing : List UInt8

namespace File

def ofBytes (bytes : List UInt8) : File :=
  let (chunks, trailing) := takeChunks (bytes.drop 8)
  ⟨bytes.take 8, chunks, trailing⟩

/-- Whether the signature is that of the format, the checks of all chunks are right, and the last
chunk and no other one ends the file. -/
def isSound (file : File) : Bool :=
  file.signature == [137, 80, 78, 71, 13, 10, 26, 10] && file.chunks.all (·.sound) &&
    file.chunks.dropLast.all (!·.isNamed ['I', 'E', 'N', 'D']) &&
    file.chunks.getLast?.any (·.isNamed ['I', 'E', 'N', 'D']) && file.trailing.isEmpty

def data? (file : File) (letters : List Char) : Option (List UInt8) :=
  (file.chunks.find? (·.isNamed letters)).map (·.data)

/-- Width, height and color type that the header tells.  Colors are numbers of a palette, with color
type 3, or four channels, with color type 6, in bytes that are not interlaced. -/
def header? (file : File) : Option (Nat × Nat × UInt8) :=
  match file.data? ['I', 'H', 'D', 'R'] with
  | some [w0, w1, w2, w3, h0, h1, h2, h3, 8, colorType, 0, 0, 0] =>
    if colorType == 3 || colorType == 6 then
      some (bigEndian [w0, w1, w2, w3], bigEndian [h0, h1, h2, h3], colorType)
    else none
  | _ => none

/-- The expanded data of the image: its rows, each after the number of its filter. -/
def rows? (codec : Codec) (file : File) : Option (List UInt8) :=
  let data := (file.chunks.filter (·.isNamed ['I', 'D', 'A', 'T'])).flatMap (·.data)
  match codec.inflateStream data with
  | .ok (contents, []) => some contents
  | _ => none

/-- The colors of the palette: triples of bytes with an alpha each, 255 where none is given. -/
def colors (triples alphas : List UInt8) : List Rgba :=
  match triples with
  | r :: g :: b :: rest => ⟨r, g, b, alphas.headD 255⟩ :: colors rest alphas.tail
  | _ => []

def palette (file : File) : List Rgba :=
  colors ((file.data? ['P', 'L', 'T', 'E']).getD []) ((file.data? ['t', 'R', 'N', 'S']).getD [])

end File

/-! ## Pixels -/

/-- Some rows without the numbers of their filters, which must be zero. -/
def unfiltered? (rows : List UInt8) (rowBytes height : Nat) : Option (List UInt8) :=
  let all := rows.toArray
  if all.size != height * (rowBytes + 1) then none
  else if (List.range height).all fun row => all[row * (rowBytes + 1)]? == some 0 then
    some ((List.range height).flatMap fun row =>
      (all.extract (row * (rowBytes + 1) + 1) ((row + 1) * (rowBytes + 1))).toList)
  else none

def bytesPerPixel (colorType : UInt8) : Nat := if colorType == 3 then 1 else 4

/-- Pixels that are stored as red, green, blue and alpha. -/
def channelPixels (bytes : Array UInt8) : List Rgba :=
  (List.range (bytes.size / 4)).map fun i =>
    ⟨bytes.getD (4 * i) 0, bytes.getD (4 * i + 1) 0, bytes.getD (4 * i + 2) 0,
      bytes.getD (4 * i + 3) 0⟩

/-- The colors of stored pixels; none for the number of no color. -/
def resolve (colorType : UInt8) (palette : Array Rgba) (bytes : List UInt8) :
    List (Option Rgba) :=
  if colorType == 3 then bytes.map fun index => palette[index.toNat]?
  else (channelPixels bytes.toArray).map some

structure Image where
  width : Nat
  height : Nat
  colorType : UInt8
  pixels : List Rgba
  deriving DecidableEq

def decodeWith (codec : Codec) (bytes : List UInt8) : Option Image := do
  let file := File.ofBytes bytes
  if !file.isSound then none
  let (width, height, colorType) ← file.header?
  let stored ← unfiltered? (← file.rows? codec) (width * bytesPerPixel colorType) height
  let pixels ← (resolve colorType file.palette.toArray stored).mapM id
  return ⟨width, height, colorType, pixels⟩

end WeatherRadar.Png
