/-!
# Inflating deflate data

Deflate data is a sequence of blocks, each stored as it is or written in prefix codes for bytes and
for copies of earlier output.  Bits are taken from the least significant end of each byte.  Reading
fails in two ways: the data may end too early, or hold something no compressor writes.
-/

namespace WeatherRadar.Deflate

/-- Why compressed data cannot be read. -/
inductive Fault where
  | truncated
  | corrupt
  deriving DecidableEq, Repr

/-- The number that `count ≤ 16` bits from a position on spell, least significant bit first. -/
def peekBits (data : ByteArray) (position count : Nat) : Nat :=
  let byte := position / 8
  let b0 := (data.get! byte).toNat
  let b1 := if byte + 1 < data.size then (data.get! (byte + 1)).toNat else 0
  let b2 := if byte + 2 < data.size then (data.get! (byte + 2)).toNat else 0
  ((b0 + b1 * 256 + b2 * 65536) >>> (position % 8)) % Nat.pow 2 count

/-- Takes a number of `count ≤ 16` bits. -/
def takeBits (data : ByteArray) (position count : Nat) : Except Fault (Nat × Nat) :=
  if position + count ≤ 8 * data.size then
    .ok (if count == 0 then 0 else peekBits data position count, position + count)
  else .error .truncated

/-- A prefix code in canonical form: how many codes there are of each length up to 15, and the
symbols in the order of their codes. -/
structure PrefixCode where
  counts : Array Nat
  symbols : Array Nat

namespace PrefixCode

def countLengths (lengths : List Nat) : Array Nat :=
  lengths.foldl (fun counts length => counts.modify length (· + 1)) (Array.replicate 16 0)

/-- The symbols that have a code, shorter codes first. -/
def orderSymbols (lengths : List Nat) : Array Nat :=
  let numbered := lengths.zipIdx
  ((List.range' 1 15).flatMap fun length =>
    (numbered.filter (·.1 == length)).map (·.2)).toArray

/-- The share of all codes of length 16 that the codes take up. -/
def share (counts : Array Nat) : Nat :=
  (List.range' 1 15).foldl (fun total length =>
    total + counts.getD length 0 * Nat.pow 2 (16 - length)) 0

/-- The code with the given lengths, where 0 means that a symbol has none.  Unless there is at most
one symbol, the codes must fill the code space exactly. -/
def ofLengths (lengths : List Nat) : Except Fault PrefixCode :=
  let counts := countLengths lengths
  let symbols := orderSymbols lengths
  if share counts != 65536 && symbols.size > 1 then .error .corrupt
  else .ok ⟨counts, symbols⟩

/-- Follows a code bit by bit.  `first` is the first code of the current length and `index` the
place of its symbol. -/
def follow (prefixCode : PrefixCode) (data : ByteArray) :
    Nat → Nat → Nat → Nat → Nat → Nat → Except Fault (Nat × Nat)
  | 0, _, _, _, _, _ => .error .corrupt
  | left + 1, length, code, first, index, position =>
    if position < 8 * data.size then
      let code := code + peekBits data position 1
      let count := prefixCode.counts.getD length 0
      if code < first + count then
        .ok (prefixCode.symbols.getD (index + (code - first)) 0, position + 1)
      else
        prefixCode.follow data left (length + 1) (code * 2) ((first + count) * 2) (index + count)
          (position + 1)
    else .error .truncated

def take (prefixCode : PrefixCode) (data : ByteArray) (position : Nat) :
    Except Fault (Nat × Nat) :=
  prefixCode.follow data 15 1 0 0 0 position

end PrefixCode

/-- The least length and the extra bits of each length symbol from 257 on. -/
def lengthBases : Array (Nat × Nat) := #[
  (3, 0), (4, 0), (5, 0), (6, 0), (7, 0), (8, 0), (9, 0), (10, 0), (11, 1), (13, 1), (15, 1),
  (17, 1), (19, 2), (23, 2), (27, 2), (31, 2), (35, 3), (43, 3), (51, 3), (59, 3), (67, 4),
  (83, 4), (99, 4), (115, 4), (131, 5), (163, 5), (195, 5), (227, 5), (258, 0)]

/-- The least distance and the extra bits of each distance symbol. -/
def distanceBases : Array (Nat × Nat) := #[
  (1, 0), (2, 0), (3, 0), (4, 0), (5, 1), (7, 1), (9, 2), (13, 2), (17, 3), (25, 3), (33, 4),
  (49, 4), (65, 5), (97, 5), (129, 6), (193, 6), (257, 7), (385, 7), (513, 8), (769, 8),
  (1025, 9), (1537, 9), (2049, 10), (3073, 10), (4097, 11), (6145, 11), (8193, 12), (12289, 12),
  (16385, 13), (24577, 13)]

/-- Appends `length` bytes that repeat the output from `distance` back.  The window before the
start of the output holds zeros. -/
def copyBack (distance : Nat) : Nat → ByteArray → ByteArray
  | 0, output => output
  | length + 1, output =>
    let byte := if distance ≤ output.size then output.get! (output.size - distance) else 0
    copyBack distance length (output.push byte)

/-- Reads a symbol with all that belongs to it and goes on behind it, unless it ends the block. -/
@[inline] def inflateSymbol (data : ByteArray) (literals distances : PrefixCode)
    (goOn : Nat → ByteArray → Except Fault (Nat × ByteArray)) (position : Nat)
    (output : ByteArray) : Except Fault (Nat × ByteArray) := do
  let (symbol, position) ← literals.take data position
  if symbol < 256 then goOn position (output.push (UInt8.ofNat symbol))
  else if symbol == 256 then return (position, output)
  else
    let some (lengthBase, lengthBits) := lengthBases[symbol - 257]? | throw .corrupt
    let (extra, position) ← takeBits data position lengthBits
    let (symbol, position) ← distances.take data position
    let some (distanceBase, distanceBits) := distanceBases[symbol]? | throw .corrupt
    let (far, position) ← takeBits data position distanceBits
    goOn position (copyBack (distanceBase + far) (lengthBase + extra) output)

/-- Reads symbols up to the end of a block.  Each takes a bit at least, so `fuel` beyond the bits
that are left is never used up. -/
def inflateCodes (data : ByteArray) (literals distances : PrefixCode) :
    Nat → Nat → ByteArray → Except Fault (Nat × ByteArray)
  | 0, _, _ => .error .truncated
  | fuel + 1, position, output =>
    inflateSymbol data literals distances (inflateCodes data literals distances fuel) position
      output

def fixedLiterals : List Nat :=
  List.replicate 144 8 ++ List.replicate 112 9 ++ List.replicate 24 7 ++ List.replicate 8 8

def fixedDistances : List Nat := List.replicate 32 5

/-- The order in which the lengths of the code for code lengths are written. -/
def lengthOrder : List Nat :=
  [16, 17, 18, 0, 8, 7, 9, 6, 10, 5, 11, 4, 12, 3, 13, 2, 14, 1, 15]

/-- Reads `count` three-bit numbers. -/
def takeTriples (data : ByteArray) : Nat → Nat → Except Fault (List Nat × Nat)
  | 0, position => .ok ([], position)
  | count + 1, position => do
    let (n, position) ← takeBits data position 3
    let (rest, position) ← takeTriples data count position
    return (n :: rest, position)

/-- Reads code lengths until there are `total`, in reverse order.  A run may not pass the end. -/
def takeLengths (data : ByteArray) (lengthCode : PrefixCode) (total : Nat) :
    Nat → List Nat → Nat → Nat → Except Fault (List Nat × Nat)
  | 0, soFar, _, position => .ok (soFar, position)
  | fuel + 1, soFar, count, position =>
    if count == total then .ok (soFar, position)
    else if count > total then .error .corrupt
    else do
      let (symbol, position) ← lengthCode.take data position
      if symbol < 16 then
        takeLengths data lengthCode total fuel (symbol :: soFar) (count + 1) position
      else
        let (value, base, bits) ←
          if symbol == 16 then
            match soFar with
            | [] => .error Fault.corrupt
            | previous :: _ => .ok (previous, 3, 2)
          else if symbol == 17 then .ok (0, 3, 3)
          else .ok (0, 11, 7)
        let (extra, position) ← takeBits data position bits
        takeLengths data lengthCode total fuel
          (List.replicate (base + extra) value ++ soFar) (count + (base + extra)) position

/-- Reads the codes of a block that brings its own. -/
def takeCodes (data : ByteArray) (position : Nat) :
    Except Fault (PrefixCode × PrefixCode × Nat) := do
  let (literals, position) ← takeBits data position 5
  let (distances, position) ← takeBits data position 5
  let (triples, position) ← takeBits data position 4
  if literals > 29 || distances > 29 then throw .corrupt
  let (triples, position) ← takeTriples data (triples + 4) position
  let given := lengthOrder.zip triples
  let lengthCode ← PrefixCode.ofLengths
    ((List.range 19).map fun symbol => ((given.find? (·.1 == symbol)).map (·.2)).getD 0)
  let total := literals + 257 + (distances + 1)
  let (reversed, position) ← takeLengths data lengthCode total (total + 1) [] 0 position
  let lengths := reversed.reverse
  let literalCode ← PrefixCode.ofLengths (lengths.take (literals + 257))
  let distanceCode ← PrefixCode.ofLengths (lengths.drop (literals + 257))
  return (literalCode, distanceCode, position)

/-- Reads a block that is stored as it is, from the next byte boundary on. -/
def inflateStored (data : ByteArray) (position : Nat) (output : ByteArray) :
    Except Fault (Nat × ByteArray) := do
  let position := (position + 7) / 8 * 8
  let (length, position) ← takeBits data position 16
  let (complement, position) ← takeBits data position 16
  if length + complement != 65535 then throw .corrupt
  let start := position / 8
  if start + length ≤ data.size then
    return (position + 8 * length, output ++ data.extract start (start + length))
  else throw .truncated

/-- Reads blocks up to the last one.  Each takes three bits at least, so `fuel` beyond the bits
that are left is never used up. -/
def inflateBlocks (data : ByteArray) : Nat → Nat → ByteArray → Except Fault (Nat × ByteArray)
  | 0, _, _ => .error .truncated
  | fuel + 1, position, output => do
    let (last, position) ← takeBits data position 1
    let (kind, position) ← takeBits data position 2
    let (position, output) ←
      if kind == 0 then inflateStored data position output
      else if kind == 1 then do
        let literals ← PrefixCode.ofLengths fixedLiterals
        let distances ← PrefixCode.ofLengths fixedDistances
        inflateCodes data literals distances (8 * data.size + 1) position output
      else if kind == 2 then do
        let (literals, distances, position) ← takeCodes data position
        inflateCodes data literals distances (8 * data.size + 1) position output
      else .error .corrupt
    if last == 1 then return (position, output)
    else inflateBlocks data fuel position output

/-- Inflates deflate data from a byte on.  The result is the contents and the first byte after the
data. -/
def inflate (data : ByteArray) (start : Nat) : Except Fault (ByteArray × Nat) := do
  let (position, output) ← inflateBlocks data (8 * data.size + 1) (8 * start) ByteArray.empty
  return (output, (position + 7) / 8)

end WeatherRadar.Deflate
