import WeatherRadar.Level3.Cursor
/-!
# Headings

A product may begin with the abbreviated heading of the weather wire: an optional line with a
transmission number, a line with the kind of data, the office and the time, and a line with the
product category and its radar.  Every line ends with blanks, carriage returns and a line feed.
Inside a compressed product a control block stands before the heading.
-/

namespace WeatherRadar.Level3

/-- The heading of a product on the weather wire. -/
structure Heading where
  /-- The transmission number, if there is a line for it. -/
  sequenceNumber : Option String
  /-- Kind and area of the data, as in `SDUS54`. -/
  dataType : String
  office : String
  dateTime : String
  /-- The mark of a delayed or corrected product. -/
  amendment : Option String
  /-- The category of the product, as in `N0Q`. -/
  category : String
  /-- What the product is about, usually the three letters of a radar. -/
  designator : String
  deriving DecidableEq, Repr

namespace Heading

def isDigit (b : UInt8) : Bool := 0x30 ≤ b && b ≤ 0x39

def isAlphanumeric (b : UInt8) : Bool :=
  isDigit b || (0x41 ≤ b && b ≤ 0x5A) || (0x61 ≤ b && b ≤ 0x7A)

/-- The text of bytes below 128. -/
def asciiText (bytes : List UInt8) : String :=
  String.ofList (bytes.map fun b => Char.ofNat b.toNat)

/-- A piece of a heading at the start of some bytes: what it says and the bytes behind it, or what
was expected and the bytes from there on. -/
abbrev Piece := StateT (List UInt8) (Except (Expected × List UInt8))

/-- As many bytes of a class as there are, up to `most` and no fewer than `least`. -/
def counted (least most : Nat) (isMember : UInt8 → Bool) : Piece (List UInt8) := fun bytes =>
  let taken := (bytes.take most).takeWhile isMember
  if taken.length < least then .error (.counted, bytes) else .ok (taken, bytes.drop taken.length)

/-- As many bytes of a class as there are, of which there is one at least. -/
def oneOrMore (isMember : UInt8 → Bool) : Piece (List UInt8) := fun bytes =>
  let taken := bytes.takeWhile isMember
  if taken.isEmpty then .error (.oneOrMore, bytes) else .ok (taken, bytes.dropWhile isMember)

def blanks : Piece Unit := fun bytes => .ok ((), bytes.dropWhile (· == 0x20))

def byte (expected : UInt8) : Piece Unit
  | [] => .error (.character, [])
  | b :: bytes => if b == expected then .ok ((), bytes) else .error (.character, b :: bytes)

/-- A piece that may be missing; nothing is read then. -/
def optional {α : Type} (piece : Piece α) : Piece (Option α) := fun bytes =>
  match piece bytes with
  | .ok (found, rest) => .ok (some found, rest)
  | .error _ => .ok (none, bytes)

/-- The end of a line: any number of blanks, carriage returns, of which there is one at least, and
a line feed. -/
def lineEnd : Piece Unit := do
  blanks
  let _ ← oneOrMore (· == 0x0D)
  byte 0x0A

def sequenceLine : Piece String := do
  byte 0x01
  lineEnd
  let number ← oneOrMore isDigit
  lineEnd
  return asciiText number

/-- A blank and the three characters that mark a delayed or corrected product. -/
def amendmentMark : Piece String := do
  byte 0x20
  return asciiText (← counted 3 3 isAlphanumeric)

def piece : Piece Heading := do
  let sequenceNumber ← optional sequenceLine
  let dataType ← counted 6 6 isAlphanumeric
  byte 0x20
  let office ← counted 4 4 isAlphanumeric
  byte 0x20
  let dateTime ← counted 6 6 isDigit
  let amendment ← optional amendmentMark
  lineEnd
  let category ← counted 3 3 isAlphanumeric
  let designator ← counted 1 3 isAlphanumeric
  lineEnd
  return ⟨sequenceNumber, asciiText dataType, asciiText office, asciiText dateTime, amendment,
    asciiText category, asciiText designator⟩

/-- Reads a heading at the start of some bytes, and gives the bytes behind it. -/
def read (bytes : List UInt8) : Except Error (Heading × List UInt8) :=
  match piece bytes with
  | .ok found => .ok found
  | .error (expected, rest) =>
    .error (.invalidSection (.heading expected (bytes.length - rest.length)))

/-- The end of a line as it is written. -/
def writtenLineEnd : List UInt8 := [0x0D, 0x0D, 0x0A]

def toBytes (heading : Heading) : List UInt8 :=
  (match heading.sequenceNumber with
    | some number =>
      0x01 :: writtenLineEnd ++ Utf8.encode number ++ 0x20 :: writtenLineEnd
    | none => []) ++
  Utf8.encode heading.dataType ++ 0x20 :: Utf8.encode heading.office ++
  0x20 :: Utf8.encode heading.dateTime ++
  (match heading.amendment with
    | some mark => 0x20 :: Utf8.encode mark
    | none => []) ++
  writtenLineEnd ++ Utf8.encode heading.category ++ Utf8.encode heading.designator ++
  writtenLineEnd

end Heading

/-- The bytes behind a control block.  The low 14 bits of its first two bytes are its length in
units of two bytes. -/
def skipControlBlock (bytes : List UInt8) : Except Error (List UInt8) := do
  let (word, cursor) ← ((Cursor.ofBytes bytes).readUInt16).mapError (.truncated .controlBlock)
  let length := word.toNat % 0x4000 * 2
  if length < 2 then throw (.invalidSection (.controlLength length))
  let cursor ← (cursor.skip (length - 2)).mapError (.truncated .controlBlock)
  return cursor.rest

end WeatherRadar.Level3
