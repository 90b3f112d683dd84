import WeatherRadar.Compression.Checksum
/-!
# Writing bzip2 streams

Contents are cut into blocks.  In each, runs are shortened, the rotations are sorted by doubling the
length by which they are compared, and the last bytes of the sorted rotations are written as places
in a list of recently used bytes, with a prefix code made for the block.
-/

namespace WeatherRadar.Bzip2

/-- Bits waiting for their byte, most significant first, and the bytes that are complete. -/
structure Sink where
  bytes : ByteArray
  held : Nat
  count : Nat

namespace Sink

/-- Moves complete bytes out; at most seven bits stay. -/
def drain : Nat → Sink → Sink
  | 0, sink => sink
  | n + 1, sink =>
    if sink.count < 8 then sink
    else
      let left := sink.count - 8
      let unit := Nat.pow 2 left
      drain n ⟨sink.bytes.push (UInt8.ofNat (sink.held / unit)), sink.held % unit, left⟩

/-- Appends a number of `count ≤ 48` bits, most significant first. -/
def push (sink : Sink) (count value : Nat) : Sink :=
  drain 7 { sink with held := sink.held * Nat.pow 2 count + value, count := sink.count + count }

def finish (sink : Sink) : ByteArray :=
  if sink.count == 0 then sink.bytes else (sink.push (8 - sink.count) 0).bytes

end Sink

def pushCopies (b : UInt8) : Nat → ByteArray → ByteArray
  | 0, out => out
  | n + 1, out => pushCopies b n (out.push b)

/-- Writes a run of at most 255 bytes: four of them stand for themselves, the rest is counted. -/
def pushShortened (b : UInt8) (run : Nat) (out : ByteArray) : ByteArray :=
  if run < 4 then pushCopies b run out
  else (pushCopies b 4 out).push (UInt8.ofNat (run - 4))

def shortenRuns (bytes : ByteArray) : ByteArray :=
  let step (state : ByteArray × Nat × UInt8) (b : UInt8) : ByteArray × Nat × UInt8 :=
    let (out, run, previous) := state
    if run != 0 && b == previous && run < 255 then (out, run + 1, previous)
    else (pushShortened previous run out, 1, b)
  let (out, run, previous) := bytes.foldl step (ByteArray.empty, 0, 0)
  pushShortened previous run out

/-! ## Sorting rotations -/

/-- Places in an order, and for each place the class of rotations that look the same so far. -/
structure Sorting where
  order : Array Nat
  classes : Array Nat
  count : Nat

def sortByClass (places classes : Array Nat) (count : Nat) : Array Nat :=
  let counts := places.foldl (fun counts place =>
    counts.modify (classes.getD place 0) (· + 1)) (Array.replicate count 0)
  let starts := (counts.foldl (fun (starts, total) n => (starts.push total, total + n))
    ((#[] : Array Nat), 0)).1
  (places.foldl (fun (sorted, starts) place =>
    let c := classes.getD place 0
    (sorted.setIfInBounds (starts.getD c 0) place, starts.modify c (· + 1)))
    (Array.replicate places.size 0, starts)).1

/-- Numbers the classes of sorted places, where `same` tells whether neighbors look the same. -/
def numberClasses (order : Array Nat) (same : Nat → Nat → Bool) : Array Nat × Nat :=
  let step (state : Array Nat × Nat × Nat) (place : Nat) : Array Nat × Nat × Nat :=
    let (classes, count, previous) := state
    let count := if count == 0 || !same previous place then count + 1 else count
    (classes.setIfInBounds place (count - 1), count, place)
  let (classes, count, _) := order.foldl step (Array.replicate order.size 0, 0, 0)
  (classes, count)

def sortFirst (bytes : ByteArray) : Sorting :=
  let values := bytes.foldl (fun values b => values.push b.toNat) (#[] : Array Nat)
  let order := sortByClass (Array.range bytes.size) values 256
  let (classes, count) := numberClasses order fun i j => values.getD i 0 == values.getD j 0
  ⟨order, classes, count⟩

/-- Sorts rotations by twice the length by which they are sorted. -/
def Sorting.double (s : Sorting) (length : Nat) : Sorting :=
  let n := s.order.size
  let shifted := s.order.map fun place => (place + n - length % n) % n
  let order := sortByClass shifted s.classes s.count
  let far (i : Nat) := s.classes.getD ((i + length) % n) 0
  let (classes, count) := numberClasses order fun i j =>
    s.classes.getD i 0 == s.classes.getD j 0 && far i == far j
  ⟨order, classes, count⟩

/-- Doubles the length until all rotations differ or all of each is compared. -/
def Sorting.finish : Nat → Nat → Sorting → Sorting
  | 0, _, s => s
  | rounds + 1, length, s =>
    if s.count == s.order.size || length ≥ s.order.size then s
    else Sorting.finish rounds (2 * length) (s.double length)

/-- The last bytes of the sorted rotations, and the place of the rotation by nothing. -/
def sortRotations (bytes : ByteArray) : ByteArray × Nat :=
  let order := (Sorting.finish 32 1 (sortFirst bytes)).order
  let n := bytes.size
  let last := order.foldl (fun out place => out.push (bytes.get! ((place + n - 1) % n)))
    ByteArray.empty
  (last, (order.idxOf? 0).getD 0)

/-! ## Symbols -/

/-- Writes the length of a run of the most recent byte in digits one and two of weights 1, 2, 4… -/
def pushRunDigits : Nat → Nat → Array Nat → Array Nat
  | 0, _, out => out
  | fuel + 1, run, out =>
    if run == 0 then out
    else if run % 2 == 1 then pushRunDigits fuel (run / 2) (out.push 0)
    else pushRunDigits fuel ((run - 2) / 2) (out.push 1)

/-- The place of a byte in a list, and the list with that byte moved to the front. -/
def toFront (b : UInt8) (list : List UInt8) : Nat × List UInt8 :=
  ((list.idxOf b), b :: list.erase b)

/-- The symbols of a block: places in the list of recently used bytes, runs of place zero in
digits, and an end. -/
def symbolsOf (bytes : ByteArray) (used : List UInt8) : Array Nat :=
  let step (state : Array Nat × Nat × List UInt8) (b : UInt8) : Array Nat × Nat × List UInt8 :=
    let (out, run, recent) := state
    if recent.head? == some b then (out, run + 1, recent)
    else
      let (place, recent) := toFront b recent
      ((pushRunDigits 64 run out).push (place + 1), 0, recent)
  let (out, run, _) := bytes.foldl step (#[], 0, used)
  (pushRunDigits 64 run out).push (used.length + 1)

/-! ## Prefix codes -/

/-- Puts a tree, which is a weight and the depths of its symbols, into a list by weight. -/
def insertTree (tree : Nat × List (Nat × Nat)) :
    List (Nat × List (Nat × Nat)) → List (Nat × List (Nat × Nat))
  | [] => [tree]
  | other :: rest =>
    if tree.1 ≤ other.1 then tree :: other :: rest else other :: insertTree tree rest

/-- Joins the two lightest trees until one is left. -/
def joinTrees : Nat → List (Nat × List (Nat × Nat)) → List (Nat × Nat)
  | fuel + 1, a :: b :: rest =>
    joinTrees fuel
      (insertTree (a.1 + b.1, (a.2 ++ b.2).map fun (symbol, depth) => (symbol, depth + 1)) rest)
  | _, tree :: _ => tree.2
  | _, [] => []

/-- Code lengths for symbols with the given weights, none above `limit`: weights are evened out
until that is so. -/
def codeLengths (limit : Nat) : Nat → Array Nat → Array Nat
  | 0, weights => weights.map fun _ => 9
  | tries + 1, weights =>
    let trees := weights.toList.zipIdx.foldl (fun trees (weight, symbol) =>
      insertTree (weight, [(symbol, 0)]) trees) []
    let depths := joinTrees weights.size trees
    if depths.all fun (_, depth) => depth ≤ limit then
      depths.foldl (fun lengths (symbol, depth) => lengths.setIfInBounds symbol (max depth 1))
        (Array.replicate weights.size 1)
    else codeLengths limit tries (weights.map fun weight => weight / 2 + 1)

def canonicalCodes (lengths : Array Nat) : Array Nat :=
  let numbered := lengths.toList.zipIdx
  let step (state : Array Nat × Nat) (length : Nat) : Array Nat × Nat :=
    let (codes, next) := (numbered.filter (·.1 == length)).foldl
      (fun (codes, next) (_, symbol) => (codes.setIfInBounds symbol next, next + 1)) state
    (codes, next * 2)
  ((List.range' 1 20).foldl step (Array.replicate lengths.size 0, 0)).1

/-- Writes code lengths as steps from one to the next. -/
def pushLengths (lengths : Array Nat) (sink : Sink) : Sink :=
  let first := lengths.getD 0 1
  let repeated (steps code : Nat) (sink : Sink) : Sink :=
    (List.range steps).foldl (fun sink _ => sink.push 2 code) sink
  (lengths.foldl (fun (sink, current) length =>
    ((repeated (current - length) 3 (repeated (length - current) 2 sink)).push 1 0, length))
    (sink.push 5 first, first)).1

/-! ## Blocks and streams -/

def usedBytes (bytes : ByteArray) : List UInt8 :=
  let unseen := Array.replicate 256 false
  let seen := bytes.foldl (fun seen b => seen.setIfInBounds b.toNat true) unseen
  ((List.range 256).filter fun i => seen.getD i false).map UInt8.ofNat

def pushUsed (used : List UInt8) (sink : Sink) : Sink :=
  let groupBits (group : Nat) : Nat :=
    (List.range 16).foldl (fun bits i =>
      2 * bits + if used.contains (UInt8.ofNat (group * 16 + i)) then 1 else 0) 0
  let groups := (List.range 16).map groupBits
  let sink := sink.push 16 (groups.foldl (fun bits g => 2 * bits + if g == 0 then 0 else 1) 0)
  groups.foldl (fun sink g => if g == 0 then sink else sink.push 16 g) sink

def pushBlock (contents : ByteArray) (sink : Sink) : Sink :=
  let (last, origin) := sortRotations (shortenRuns contents)
  let used := usedBytes last
  let symbols := symbolsOf last used
  let weights := symbols.foldl (fun weights symbol => weights.modify symbol (· + 1))
    (Array.replicate (used.length + 2) 1)
  let lengths := codeLengths 17 20 weights
  let codes := canonicalCodes lengths
  let groups := (symbols.size + 49) / 50
  let sink := (((sink.push 48 0x314159265359).push 32 (Checksum.directCrc32 contents).toNat).push 1
    0).push 24 origin
  let sink := ((pushUsed used sink).push 3 2).push 15 groups
  let sink := (List.range groups).foldl (fun sink _ => sink.push 1 0) sink
  let sink := pushLengths lengths (pushLengths lengths sink)
  symbols.foldl (fun sink symbol => sink.push (lengths.getD symbol 1) (codes.getD symbol 0)) sink

/-- Writes blocks from a byte on and the check of all of them.  A block has a byte at least, so
`fuel` beyond the bytes that are left is never used up. -/
def pushBlocks (data : ByteArray) : Nat → Nat → UInt32 → Sink → Sink
  | 0, _, _, sink => sink
  | fuel + 1, start, combined, sink =>
    if start ≥ data.size then (sink.push 48 0x177245385090).push 32 combined.toNat
    else
      let contents := data.extract start (start + 500000)
      let check := Checksum.directCrc32 contents
      pushBlocks data fuel (start + 500000) (((combined <<< 1) ||| (combined >>> 31)) ^^^ check)
        (pushBlock contents sink)

def compress (data : ByteArray) : ByteArray :=
  (pushBlocks data (data.size + 1) 0 0 ⟨⟨#[0x42, 0x5A, 0x68, 0x39]⟩, 0, 0⟩).finish

end WeatherRadar.Bzip2
