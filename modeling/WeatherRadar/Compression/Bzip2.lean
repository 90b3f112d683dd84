import WeatherRadar.Compression.Checksum
/-!
# Reading bzip2 streams

A bzip2 stream is a sequence of blocks and a check of all of them.  A block holds the bytes of a
part of the contents, runs shortened, sorted by the bytes that follow them, and then written as
places in a list of recently used bytes, in prefix codes.  Bits are taken from the most significant
end of each byte.
-/

namespace WeatherRadar.Bzip2

/-- A bit position in some bytes. -/
structure Source where
  data : ByteArray
  position : Nat

namespace Source

/-- The number that `count ≤ 24` bits from the position on spell, most significant bit first. -/
def peek (source : Source) (count : Nat) : Nat :=
  let byte := source.position / 8
  let at_ (i : Nat) : Nat := if i < source.data.size then (source.data.get! i).toNat else 0
  let window := ((at_ byte * 256 + at_ (byte + 1)) * 256 + at_ (byte + 2)) * 256 + at_ (byte + 3)
  window / Nat.pow 2 (32 - count - source.position % 8) % Nat.pow 2 count

/-- Takes a number of `count ≤ 24` bits. -/
def take (source : Source) (count : Nat) : Option (Nat × Source) :=
  if source.position + count ≤ 8 * source.data.size then
    some (source.peek count, { source with position := source.position + count })
  else none

def take48 (source : Source) : Option (Nat × Source) := do
  let (high, source) ← source.take 24
  let (low, source) ← source.take 24
  return (high * 0x1000000 + low, source)

def take32 (source : Source) : Option (Nat × Source) := do
  let (high, source) ← source.take 16
  let (low, source) ← source.take 16
  return (high * 0x10000 + low, source)

end Source

def blockMark : Nat := 0x314159265359

/-- The mark before the check of all blocks. -/
def endMark : Nat := 0x177245385090

/-- Moves the member at a place to the front; the result is that member and the new list. -/
def moveToFront (list : List UInt8) (place : Nat) : UInt8 × List UInt8 :=
  let chosen := list.getD place 0
  (chosen, chosen :: (list.take place ++ list.drop (place + 1)))

/-! ## Prefix codes -/

/-- A prefix code: for each length up to 20 the first code, the place of its symbol and how many
codes there are, and the symbols in the order of their codes. -/
structure PrefixCode where
  counts : Array Nat
  symbols : Array Nat

def PrefixCode.ofLengths (lengths : List Nat) : PrefixCode where
  counts := lengths.foldl (fun counts length => counts.modify length (· + 1)) (Array.replicate 21 0)
  symbols :=
    let numbered := lengths.zipIdx
    ((List.range 21).flatMap fun length => (numbered.filter (·.1 == length)).map (·.2)).toArray

/-- Follows a code bit by bit.  `first` is the first code of the current length and `index` the
place of its symbol. -/
def PrefixCode.follow (prefixCode : PrefixCode) :
    Nat → Nat → Nat → Nat → Nat → Source → Option (Nat × Source)
  | 0, _, _, _, _, _ => none
  | left + 1, length, code, first, index, source =>
    if source.position < 8 * source.data.size then
      let code := code + source.peek 1
      let source := { source with position := source.position + 1 }
      let count := prefixCode.counts.getD length 0
      if code < first + count then
        (prefixCode.symbols[index + (code - first)]?).map fun symbol => (symbol, source)
      else
        prefixCode.follow left (length + 1) (code * 2) ((first + count) * 2) (index + count) source
    else none

def PrefixCode.take (prefixCode : PrefixCode) (source : Source) : Option (Nat × Source) :=
  prefixCode.follow 20 1 0 0 0 source

/-- The bytes that a block uses: sixteen bits tell which sixteenths of all bytes have any, and
sixteen more for each of those which bytes. -/
def takeUsed (source : Source) : Option (List UInt8 × Source) := do
  let (groups, source) ← source.take 16
  let mut source := source
  let mut used : List UInt8 := []
  for group in List.range 16 do
    if groups / Nat.pow 2 (15 - group) % 2 == 1 then
      let (bits, next) ← source.take 16
      source := next
      let members := (List.range 16).filter fun i => bits / Nat.pow 2 (15 - i) % 2 == 1
      used := used ++ members.map fun i => UInt8.ofNat (group * 16 + i)
  return (used, source)

/-- Counts the ones before a zero, of which there are fewer than `limit`. -/
def takeOnes : Nat → Source → Option (Nat × Source)
  | 0, _ => none
  | limit + 1, source => do
    let (bit, source) ← source.take 1
    if bit == 0 then return (0, source)
    else
      let (n, source) ← takeOnes limit source
      return (n + 1, source)

/-- Reads which of `tables` codes each group of fifty symbols is written in. -/
def takeSelectors (tables : Nat) : Nat → List UInt8 → Array Nat → Source →
    Option (Array Nat × Source)
  | 0, _, chosen, source => some (chosen, source)
  | count + 1, recent, chosen, source => do
    let (place, source) ← takeOnes tables source
    let (table, recent) := moveToFront recent place
    takeSelectors tables count recent (chosen.push table.toNat) source

/-- Adjusts a code length step by step.  Each step takes two bits, so `fuel` beyond the bits that
are left is never used up. -/
def takeLength : Nat → Nat → Source → Option (Nat × Source)
  | 0, _, _ => none
  | fuel + 1, length, source => do
    if length < 1 || length > 20 then none
    let (more, source) ← source.take 1
    if more == 0 then return (length, source)
    let (down, source) ← source.take 1
    takeLength fuel (if down == 1 then length - 1 else length + 1) source

/-- Reads the lengths of a code with `count` symbols, in reverse order. -/
def takeLengths : Nat → Nat → List Nat → Source → Option (List Nat × Source)
  | 0, _, soFar, source => some (soFar, source)
  | count + 1, length, soFar, source => do
    let (length, source) ← takeLength (8 * source.data.size + 1) length source
    takeLengths count length (length :: soFar) source

def takeCodes (symbols : Nat) : Nat → Array PrefixCode → Source →
    Option (Array PrefixCode × Source)
  | 0, codes, source => some (codes, source)
  | tables + 1, codes, source => do
    let (start, source) ← source.take 5
    let (reversed, source) ← takeLengths symbols start [] source
    takeCodes symbols tables (codes.push (PrefixCode.ofLengths reversed.reverse)) source

/-! ## Symbols -/

/-- Where the reading of a block's symbols stands: how many were read, the recently used bytes, the
length of the run of the first of them that is being read and the weight of its next digit, and the
bytes so far. -/
structure Decoding where
  count : Nat
  recent : List UInt8
  run : Nat
  weight : Nat
  bytes : ByteArray

def pushRun (b : UInt8) : Nat → ByteArray → ByteArray
  | 0, bytes => bytes
  | n + 1, bytes => pushRun b n (bytes.push b)

def Decoding.endRun (limit : Nat) (d : Decoding) : Option Decoding :=
  if d.bytes.size + d.run > limit then none
  else some { d with run := 0, weight := 1, bytes := pushRun (d.recent.headD 0) d.run d.bytes }

/-- Reads symbols up to the end of the block.  Each takes a bit at least, so `fuel` beyond the bits
that are left is never used up. -/
def takeSymbols (limit last : Nat) (selectors : Array Nat) (codes : Array PrefixCode) :
    Nat → Decoding → Source → Option (ByteArray × Source)
  | 0, _, _ => none
  | fuel + 1, d, source => do
    let table ← selectors[d.count / 50]?
    let code ← codes[table]?
    let (symbol, source) ← code.take source
    let d := { d with count := d.count + 1 }
    if symbol < 2 then
      if d.weight ≥ 0x200000 then none
      takeSymbols limit last selectors codes fuel
        { d with run := d.run + (symbol + 1) * d.weight, weight := 2 * d.weight } source
    else
      let d ← d.endRun limit
      if symbol == last then return (d.bytes, source)
      if d.bytes.size ≥ limit then none
      let (b, recent) := moveToFront d.recent (symbol - 1)
      takeSymbols limit last selectors codes fuel
        { d with recent := recent, bytes := d.bytes.push b } source

/-! ## Undoing the sort -/

/-- How many bytes are less than each byte. -/
def startsOf (sorted : ByteArray) : Array Nat :=
  let counts := sorted.foldl (fun counts b => counts.modify b.toNat (· + 1)) (Array.replicate 256 0)
  (counts.foldl (fun (starts, total) count => (starts.push total, total + count))
    ((#[] : Array Nat), 0)).1

/-- For each place in the sorted order of rotations, the place of the rotation by one more. -/
def successors (sorted : ByteArray) : Array Nat :=
  let step (state : Array Nat × Array Nat × Nat) (b : UInt8) : Array Nat × Array Nat × Nat :=
    let (next, starts, i) := state
    let place := starts.getD b.toNat 0
    (next.setIfInBounds place i, starts.modify b.toNat (· + 1), i + 1)
  (sorted.foldl step (Array.replicate sorted.size 0, startsOf sorted, 0)).1

/-- The bytes in their own order, from the sorted order of their rotations. -/
def unsort (sorted : ByteArray) (origin : Nat) : ByteArray :=
  let next := successors sorted
  let rec walk : Nat → Nat → ByteArray → ByteArray
    | 0, _, out => out
    | left + 1, place, out =>
      walk left (next.getD place 0) (out.push (sorted.get! place))
  walk sorted.size (next.getD origin 0) ByteArray.empty

/-! ## Randomised blocks -/

/-- The distances at which a randomised block has a bit of a byte inverted. -/
def randomDistances : Array Nat := #[
  619, 720, 127, 481, 931, 816, 813, 233, 566, 247, 985, 724, 205, 454, 863, 491, 741, 242, 949,
  214, 733, 859, 335, 708, 621, 574, 73, 654, 730, 472, 419, 436, 278, 496, 867, 210, 399, 680,
  480, 51, 878, 465, 811, 169, 869, 675, 611, 697, 867, 561, 862, 687, 507, 283, 482, 129, 807,
  591, 733, 623, 150, 238, 59, 379, 684, 877, 625, 169, 643, 105, 170, 607, 520, 932, 727, 476,
  693, 425, 174, 647, 73, 122, 335, 530, 442, 853, 695, 249, 445, 515, 909, 545, 703, 919, 874,
  474, 882, 500, 594, 612, 641, 801, 220, 162, 819, 984, 589, 513, 495, 799, 161, 604, 958, 533,
  221, 400, 386, 867, 600, 782, 382, 596, 414, 171, 516, 375, 682, 485, 911, 276, 98, 553, 163,
  354, 666, 933, 424, 341, 533, 870, 227, 730, 475, 186, 263, 647, 537, 686, 600, 224, 469, 68,
  770, 919, 190, 373, 294, 822, 808, 206, 184, 943, 795, 384, 383, 461, 404, 758, 839, 887, 715,
  67, 618, 276, 204, 918, 873, 777, 604, 560, 951, 160, 578, 722, 79, 804, 96, 409, 713, 940,
  652, 934, 970, 447, 318, 353, 859, 672, 112, 785, 645, 863, 803, 350, 139, 93, 354, 99, 820,
  908, 609, 772, 154, 274, 580, 184, 79, 626, 630, 742, 653, 282, 762, 623, 680, 81, 927, 626,
  789, 125, 411, 521, 938, 300, 821, 78, 343, 175, 128, 250, 170, 774, 972, 275, 999, 639, 495,
  78, 352, 126, 857, 956, 358, 619, 580, 124, 737, 594, 701, 612, 669, 112, 134, 694, 363, 992,
  809, 743, 168, 974, 944, 375, 748, 52, 600, 747, 642, 182, 862, 81, 344, 805, 988, 739, 511,
  655, 814, 334, 249, 515, 897, 955, 664, 981, 649, 113, 974, 459, 893, 228, 433, 837, 553, 268,
  926, 240, 102, 654, 459, 51, 686, 754, 806, 760, 493, 403, 415, 394, 687, 700, 946, 670, 656,
  610, 738, 392, 760, 799, 887, 653, 978, 321, 576, 617, 626, 502, 894, 679, 243, 440, 680, 879,
  194, 572, 640, 724, 926, 56, 204, 700, 707, 151, 457, 449, 797, 195, 791, 558, 945, 679, 297,
  59, 87, 824, 713, 663, 412, 693, 342, 606, 134, 108, 571, 364, 631, 212, 174, 643, 304, 329,
  343, 97, 430, 751, 497, 314, 983, 374, 822, 928, 140, 206, 73, 263, 980, 736, 876, 478, 430,
  305, 170, 514, 364, 692, 829, 82, 855, 953, 676, 246, 369, 970, 294, 750, 807, 827, 150, 790,
  288, 923, 804, 378, 215, 828, 592, 281, 565, 555, 710, 82, 896, 831, 547, 261, 524, 462, 293,
  465, 502, 56, 661, 821, 976, 991, 658, 869, 905, 758, 745, 193, 768, 550, 608, 933, 378, 286,
  215, 979, 792, 961, 61, 688, 793, 644, 986, 403, 106, 366, 905, 644, 372, 567, 466, 434, 645,
  210, 389, 550, 919, 135, 780, 773, 635, 389, 707, 100, 626, 958, 165, 504, 920, 176, 193, 713,
  857, 265, 203, 50, 668, 108, 645, 990, 626, 197, 510, 357, 358, 850, 858, 364, 936, 638]

/-- Inverts the bits that a randomised block has inverted. -/
def derandomise (bytes : ByteArray) : ByteArray :=
  let step (state : ByteArray × Nat × Nat) (b : UInt8) : ByteArray × Nat × Nat :=
    let (out, left, index) := state
    let (left, index) :=
      if left == 0 then (randomDistances.getD index 0, (index + 1) % 512) else (left, index)
    let left := left - 1
    (out.push (if left == 1 then b ^^^ 1 else b), left, index)
  (bytes.foldl step (ByteArray.empty, 0, 0)).1

/-! ## Runs -/

/-- Writes runs out: after four equal bytes comes a byte that counts how many more there are. -/
def expandRuns (bytes : ByteArray) : ByteArray :=
  let step (state : ByteArray × Nat × UInt8) (b : UInt8) : ByteArray × Nat × UInt8 :=
    let (out, equal, previous) := state
    if equal == 4 then (pushRun previous b.toNat out, 0, previous)
    else (out.push b, if equal != 0 && b == previous then equal + 1 else 1, b)
  (bytes.foldl step (ByteArray.empty, 0, 0)).1

/-! ## Streams -/

/-- Reads a block after its mark: its contents with its check. -/
def takeBlock (level : Nat) (source : Source) : Option (ByteArray × UInt32 × Source) := do
  let (check, source) ← source.take32
  let (randomised, source) ← source.take 1
  let (origin, source) ← source.take 24
  let (used, source) ← takeUsed source
  if used.isEmpty then none
  let (tables, source) ← source.take 3
  if tables < 2 || tables > 6 then none
  let (groups, source) ← source.take 15
  if groups < 1 then none
  let (selectors, source) ← takeSelectors tables groups
    ((List.range tables).map UInt8.ofNat) #[] source
  let symbols := used.length + 2
  let (codes, source) ← takeCodes symbols tables #[] source
  let (sorted, source) ← takeSymbols (100000 * level) (symbols - 1) (selectors.take 18002) codes
    (8 * source.data.size + 1) ⟨0, used, 0, 1, ByteArray.empty⟩ source
  if origin ≥ sorted.size then none
  let bytes := unsort sorted origin
  let contents := expandRuns (if randomised == 1 then derandomise bytes else bytes)
  if (Checksum.directCrc32 contents).toNat != check then none
  return (contents, UInt32.ofNat check, source)

/-- Reads blocks up to the check of all of them.  Each takes 48 bits at least, so `fuel` beyond the
bits that are left is never used up. -/
def takeBlocks (level : Nat) : Nat → UInt32 → ByteArray → Source → Option (ByteArray × Source)
  | 0, _, _, _ => none
  | fuel + 1, combined, out, source => do
    let (mark, source) ← source.take48
    if mark == endMark then
      let (check, source) ← source.take32
      if check != combined.toNat then none
      return (out, source)
    else if mark == blockMark then
      let (contents, check, source) ← takeBlock level source
      takeBlocks level fuel (((combined <<< 1) ||| (combined >>> 31)) ^^^ check) (out ++ contents)
        source
    else none

/-- Reads one stream from a byte on.  The result is its contents and the first byte after it. -/
def readStream (data : ByteArray) (start : Nat) : Option (ByteArray × Nat) := do
  if data.size < start + 4 then none
  if data.get! start != 0x42 || data.get! (start + 1) != 0x5A || data.get! (start + 2) != 0x68 then
    none
  let level := (data.get! (start + 3)).toNat - 0x30
  if level < 1 || level > 9 then none
  let (contents, source) ← takeBlocks level (8 * data.size + 1) 0 ByteArray.empty
    ⟨data, 8 * (start + 4)⟩
  return (contents, (source.position + 7) / 8)

/-- Reads streams to the end of the data.  Each takes four bytes at least, so `fuel` beyond the
bytes that are left is never used up. -/
def readStreams (data : ByteArray) : Nat → Nat → ByteArray → Option ByteArray
  | 0, _, _ => none
  | fuel + 1, start, out =>
    if start ≥ data.size then some out
    else do
      let (contents, finish) ← readStream data start
      readStreams data fuel finish (out ++ contents)

/-- The contents of streams that follow each other and fill the data.  None if there is no stream,
if one is cut short or broken, or if anything else follows. -/
def decompress (data : ByteArray) : Option ByteArray :=
  if data.isEmpty then none else readStreams data (data.size + 1) 0 ByteArray.empty

end WeatherRadar.Bzip2
