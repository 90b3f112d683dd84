import WeatherRadar.Level3.Error
import WeatherRadar.Number.BigEndian
import WeatherRadar.Text.Blank
import WeatherRadar.Text.Utf8
/-!
# Reading fields from bytes

A cursor is a place in some bytes.  A read either succeeds and gives the cursor behind the field,
or fails and tells where, how much was asked for and how much there is.
-/

namespace WeatherRadar.Level3

/-- The order of the bytes of a number. -/
inductive ByteOrder where
  /-- The most significant byte comes first. -/
  | big
  /-- The least significant byte comes first. -/
  | little
  deriving DecidableEq, Repr

/-- The word that at most eight bytes spell, of which each one moves up those before it. -/
def wordOf (bytes : List UInt8) : UInt64 :=
  bytes.foldl (fun word b => word <<< 8 ||| b.toUInt64) 0

def ByteOrder.word : ByteOrder → List UInt8 → UInt64
  | big, bytes => wordOf bytes
  | little, bytes => wordOf bytes.reverse

/-- The number with a sign in the lowest bytes of a word.  They are moved to the top, and the sign
fills the bits behind them on the way back. -/
def signedWord (width : Nat) (word : UInt64) : Int64 :=
  let unused := 64 - 8 * width
  (word <<< UInt64.ofNat unused).toInt64 >>> Int64.ofNat unused

/-- A place in some bytes. -/
structure Cursor where
  data : List UInt8
  /-- The number of bytes before the place. -/
  position : Nat
  rest : List UInt8
  deriving DecidableEq, Repr

namespace Cursor

def ofBytes (data : List UInt8) : Cursor := ⟨data, 0, data⟩

def remaining (cursor : Cursor) : Nat := cursor.rest.length

def isEmpty (cursor : Cursor) : Bool := cursor.rest.isEmpty

def peek? (cursor : Cursor) : Option UInt8 := cursor.rest.head?

/-- Whether a list has at least `n` members; looks at no more of them. -/
def hasAtLeast {α : Type} : Nat → List α → Bool
  | 0, _ => true
  | _ + 1, [] => false
  | n + 1, _ :: members => hasAtLeast n members

/-- The cursor `n` bytes further on, of which there are as many. -/
def advance (cursor : Cursor) (n : Nat) : Cursor :=
  { cursor with position := cursor.position + n, rest := cursor.rest.drop n }

def skip (cursor : Cursor) (n : Nat) : Except ShortRead Cursor :=
  if hasAtLeast n cursor.rest then .ok (cursor.advance n)
  else .error ⟨cursor.position, n, cursor.remaining⟩

/-- Moves to a number of bytes after the beginning. -/
def seek (cursor : Cursor) (offset : Nat) : Except ShortRead Cursor :=
  if hasAtLeast offset cursor.data then .ok ⟨cursor.data, offset, cursor.data.drop offset⟩
  else .error ⟨cursor.position, offset - cursor.position, cursor.remaining⟩

def readBytes (cursor : Cursor) (n : Nat) : Except ShortRead (List UInt8 × Cursor) :=
  (cursor.skip n).map fun next => (cursor.rest.take n, next)

/-- A cursor over the next bytes alone, and the one behind them. -/
def take (cursor : Cursor) (n : Nat) : Except ShortRead (Cursor × Cursor) :=
  (cursor.readBytes n).map fun (bytes, next) => (ofBytes bytes, next)

/-- A cursor over the next bytes alone, or over what there is of them, and the one behind them. -/
def takeUpTo (cursor : Cursor) (n : Nat) : Cursor × Cursor :=
  let bytes := cursor.rest.take n
  (ofBytes bytes, cursor.advance bytes.length)

/-- Reads a word of 1, 2, 4 or 8 bytes. -/
def readWord (cursor : Cursor) (width : Nat) (order : ByteOrder) :
    Except ReadError (UInt64 × Cursor) :=
  if [1, 2, 4, 8].contains width then
    match cursor.readBytes width with
    | .ok (bytes, next) => .ok (order.word bytes, next)
    | .error short => .error (.short short)
  else .error (.width width)

def readUnsigned (cursor : Cursor) (width : Nat) (order : ByteOrder) :
    Except ReadError (Nat × Cursor) :=
  (cursor.readWord width order).map fun (word, next) => (word.toNat, next)

/-- Reads a two's complement number of 1, 2, 4 or 8 bytes. -/
def readSigned (cursor : Cursor) (width : Nat) (order : ByteOrder) :
    Except ReadError (Int × Cursor) :=
  (cursor.readWord width order).map fun (word, next) => ((signedWord width word).toInt, next)

/-- Reads text of a fixed number of bytes without the zeros and blanks at its end. -/
def readText (cursor : Cursor) (n : Nat) : Except ShortRead (String × Cursor) :=
  (cursor.readBytes n).map fun (bytes, next) =>
    (String.ofList (dropTrailing (fun c => c == '\x00' || c == ' ') (Utf8.chars bytes)), next)

def readUInt8 (cursor : Cursor) : Except ShortRead (UInt8 × Cursor) :=
  (cursor.readBytes 1).map fun (bytes, next) => (UInt8.ofNat (bigEndian bytes), next)

def readUInt16 (cursor : Cursor) : Except ShortRead (UInt16 × Cursor) :=
  (cursor.readBytes 2).map fun (bytes, next) => (UInt16.ofNat (bigEndian bytes), next)

def readInt16 (cursor : Cursor) : Except ShortRead (Int16 × Cursor) :=
  (cursor.readBytes 2).map fun (bytes, next) => (Int16.ofNat (bigEndian bytes), next)

def readUInt32 (cursor : Cursor) : Except ShortRead (UInt32 × Cursor) :=
  (cursor.readBytes 4).map fun (bytes, next) => (UInt32.ofNat (bigEndian bytes), next)

def readInt32 (cursor : Cursor) : Except ShortRead (Int32 × Cursor) :=
  (cursor.readBytes 4).map fun (bytes, next) => (Int32.ofNat (bigEndian bytes), next)

end Cursor

abbrev Parser := StateT Cursor (Except Error)

namespace Parser

/-- A read whose failure is reported with its part of the product. -/
def of {α : Type} (read : Cursor → Except ShortRead (α × Cursor)) (place : Place) : Parser α :=
  fun cursor => (read cursor).mapError (.truncated place)

def uint16 (place : Place) : Parser UInt16 := of Cursor.readUInt16 place

def int16 (place : Place) : Parser Int16 := of Cursor.readInt16 place

def uint32 (place : Place) : Parser UInt32 := of Cursor.readUInt32 place

def bytes (place : Place) (n : Nat) : Parser (List UInt8) := of (Cursor.readBytes · n) place

/-- A cursor over the next bytes alone, or over what there is of them. -/
def block (n : Nat) : Parser Cursor := fun cursor => .ok (cursor.takeUpTo n)

end Parser

end WeatherRadar.Level3
