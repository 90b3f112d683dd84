import WeatherRadar.Proofs.Level3.Reads
import WeatherRadar.Proofs.Level3.Words
/-!
# Readers

A reader is some bytes and a place in them that calls move.  A call is a row of steps with checked
arithmetic: a difference below zero and a stretch of bytes past their end break it off
(`Stop.broken`).  On a reader within its bytes neither happens, and a call that reads a number of
bytes reads them and replies, or is refused and moves nothing (`ReaderCall.on_call`).  The cursor at
the place of the reader answers it with the same reply (`ReaderCall.call_eq`).
-/

namespace WeatherRadar.Level3

/-! ## Calls -/

/-- What is asked of a reader. -/
inductive ReaderCall where
  | unsigned (width : Nat) (order : ByteOrder)
  | signed (width : Nat) (order : ByteOrder)
  | uint8
  | uint16
  | int16
  | uint32
  | int32
  | bytes (n : Nat)
  | text (n : Nat)
  | skip (n : Nat)
  | seek (offset : Nat)
  | take (n : Nat)
  | takeUpTo (n : Nat)
  deriving DecidableEq, Repr

/-- What a call gives back. -/
inductive ReaderReply where
  | number (n : Int)
  | bytes (bytes : List UInt8)
  | text (s : String)
  | nothing
  /-- A cursor over some of the bytes alone. -/
  | inner (cursor : Cursor)
  deriving DecidableEq, Repr

namespace ReaderCall

/-- How many bytes a call reads, if that is a fixed number. -/
def size? : ReaderCall → Option Nat
  | unsigned width _ | signed width _ => if [1, 2, 4, 8].contains width then some width else none
  | uint8 => some 1
  | uint16 | int16 => some 2
  | uint32 | int32 => some 4
  | bytes n | text n | skip n | take n => some n
  | seek _ | takeUpTo _ => none

/-- The reply to a call that has read some bytes. -/
def reply : ReaderCall → List UInt8 → ReaderReply
  | unsigned _ order, read => .number (order.word read).toNat
  | signed width order, read => .number (signedWord width (order.word read)).toInt
  | uint8, read => .number (UInt8.ofNat (bigEndian read)).toNat
  | uint16, read => .number (UInt16.ofNat (bigEndian read)).toNat
  | int16, read => .number (Int16.ofNat (bigEndian read)).toInt
  | uint32, read => .number (UInt32.ofNat (bigEndian read)).toNat
  | int32, read => .number (Int32.ofNat (bigEndian read)).toInt
  | bytes _, read => .bytes read
  | text _, read =>
    .text (.ofList (dropTrailing (fun c => c == '\x00' || c == ' ') (Utf8.chars read)))
  | take _, read | takeUpTo _, read => .inner (.ofBytes read)
  | skip _, _ | seek _, _ => .nothing

end ReaderCall

namespace Cursor

/-- The reply to a read, and the cursor behind it. -/
def replied {α : Type} (reply : α → ReaderReply) (read : Except ReadError (α × Cursor)) :
    Except ReadError (ReaderReply × Cursor) :=
  read.map fun (a, next) => (reply a, next)

/-- The reply to a call, and the cursor behind what it reads. -/
def call (cursor : Cursor) : ReaderCall → Except ReadError (ReaderReply × Cursor)
  | .unsigned width order => replied (fun n : Nat => .number n) (cursor.readUnsigned width order)
  | .signed width order => replied .number (cursor.readSigned width order)
  | .uint8 => replied (.number ·.toNat) (cursor.readUInt8.mapError .short)
  | .uint16 => replied (.number ·.toNat) (cursor.readUInt16.mapError .short)
  | .int16 => replied (.number ·.toInt) (cursor.readInt16.mapError .short)
  | .uint32 => replied (.number ·.toNat) (cursor.readUInt32.mapError .short)
  | .int32 => replied (.number ·.toInt) (cursor.readInt32.mapError .short)
  | .bytes n => replied .bytes ((cursor.readBytes n).mapError .short)
  | .text n => replied .text ((cursor.readText n).mapError .short)
  | .skip n => ((cursor.skip n).mapError .short).map (.nothing, ·)
  | .seek offset => ((cursor.seek offset).mapError .short).map (.nothing, ·)
  | .take n => replied .inner ((cursor.take n).mapError .short)
  | .takeUpTo n => replied .inner (.ok (cursor.takeUpTo n))

end Cursor

/-! ## Readers -/

/-- Some bytes, and a place in them that calls move. -/
structure Reader where
  data : List UInt8
  position : Nat
  deriving DecidableEq, Repr

/-- The cursor at the place of a reader. -/
def Reader.cursor (r : Reader) : Cursor := ⟨r.data, r.position, r.data.drop r.position⟩

/-- The reader a number of bytes further on. -/
def Reader.moved (r : Reader) (n : Nat) : Reader := { r with position := r.position + n }

/-- The bytes in front of a reader. -/
def Reader.ahead (r : Reader) (n : Nat) : List UInt8 := (r.data.drop r.position).take n

/-- The failed read of a number of bytes. -/
def Reader.shortRead (r : Reader) (n : Nat) : ShortRead :=
  ⟨r.position, n, r.data.length - r.position⟩

/-- The place of a reader is not past the end of its bytes. -/
def Reader.IsPlaced (r : Reader) : Prop := r.position ≤ r.data.length

/-- There is a number of bytes in front of a reader. -/
def Reader.HasRoom (r : Reader) (n : Nat) : Prop := r.position + n ≤ r.data.length

namespace Reader

variable {r : Reader} {n : Nat}

theorem HasRoom.isPlaced (h : r.HasRoom n) : r.IsPlaced := (Nat.le_add_right _ n).trans h

theorem HasRoom.length_ahead (h : r.HasRoom n) : (r.ahead n).length = n := by
  rw [ahead, List.length_take, List.length_drop]
  rw [HasRoom] at h
  omega

theorem append_ahead (r : Reader) (n : Nat) :
    r.data.drop r.position = r.ahead n ++ (r.data.drop r.position).drop n :=
  (List.take_append_drop n _).symm

/-- There is room for what is left. -/
theorem IsPlaced.hasRoom_min (h : r.IsPlaced) (n : Nat) :
    r.HasRoom (min n (r.data.length - r.position)) := by
  rw [IsPlaced] at h
  rw [HasRoom]
  omega

end Reader

/-- Why a call goes no further. -/
inductive Stop where
  | refused (e : ReadError)
  /-- A difference is below zero, or a stretch of bytes is not within the bytes. -/
  | broken
  deriving DecidableEq, Repr

/-- Steps that move a reader.  One that stops leaves the reader where it is by then. -/
abbrev Moving := ExceptT Stop (StateM Reader)

namespace Moving

variable {α β : Type}

/-- What steps give, and the reader after them. -/
def on (steps : Moving α) (r : Reader) : Except Stop α × Reader := steps.run.run r

/-- A difference, which must not be below zero. -/
def difference (a b : Nat) : Moving Nat :=
  if b ≤ a then pure (a - b) else throw .broken

def remaining : Moving Nat := do
  let r ← get
  difference r.data.length r.position

/-- The bytes in front, of which there must be as many. -/
def stretch (n : Nat) : Moving (List UInt8) := do
  let r ← get
  if r.position + n ≤ r.data.length then pure (r.ahead n) else throw .broken

/-- Refuses a call if fewer bytes are left. -/
def check (n : Nat) : Moving Unit := do
  let left ← remaining
  let r ← get
  if left < n then throw (.refused (.short ⟨r.position, n, left⟩))

def advance (n : Nat) : Moving Unit := modify (·.moved n)

def skip (n : Nat) : Moving Unit := do
  check n
  advance n

def bytes (n : Nat) : Moving (List UInt8) := do
  check n
  let bytes ← stretch n
  advance n
  return bytes

def seek (offset : Nat) : Moving Unit := do
  let r ← get
  if r.data.length < offset then
    let requested ← difference offset r.position
    let left ← remaining
    throw (.refused (.short ⟨r.position, requested, left⟩))
  set { r with position := offset }

/-- Reads a number of bytes, or what there is of them. -/
def upTo (n : Nat) : Moving (List UInt8) := do
  let left ← remaining
  let bytes ← stretch (min n left)
  advance (min n left)
  return bytes

def word (width : Nat) (order : ByteOrder) : Moving UInt64 := do
  if [1, 2, 4, 8].contains width then
    let bytes ← bytes width
    return order.word bytes
  else throw (.refused (.width width))

def signed (width : Nat) (order : ByteOrder) : Moving Int64 := do
  let word ← word width order
  let unused ← difference 64 (8 * width)
  return (word <<< UInt64.ofNat unused).toInt64 >>> Int64.ofNat unused

/-- Reads bytes and replies. -/
def reading (call : ReaderCall) (n : Nat) : Moving ReaderReply := do
  let read ← bytes n
  return call.reply read

/-- The steps of a call. -/
def call : ReaderCall → Moving ReaderReply
  | .unsigned width order => return .number (← word width order).toNat
  | .signed width order => return .number (← signed width order).toInt
  | .uint8 => reading .uint8 1
  | .uint16 => reading .uint16 2
  | .int16 => reading .int16 2
  | .uint32 => reading .uint32 4
  | .int32 => reading .int32 4
  | .bytes n => reading (.bytes n) n
  | .text n => reading (.text n) n
  | .take n => reading (.take n) n
  | .skip n => do
    skip n
    return .nothing
  | .seek offset => do
    seek offset
    return .nothing
  | .takeUpTo n => do
    let read ← upTo n
    return .inner (.ofBytes read)

/-! ## Single steps -/

variable {r s : Reader} {p : Moving α} {f : α → Moving β} {a : α} {stop : Stop}

theorem on_bind_ok (h : p.on r = (.ok a, s)) : (p >>= f).on r = (f a).on s := by
  show @Moving.on β (ExceptT.bindCont f (p.on r).1) (p.on r).2 = _
  rw [h]
  rfl

theorem on_bind_error (h : p.on r = (.error stop, s)) : (p >>= f).on r = (.error stop, s) := by
  show @Moving.on β (ExceptT.bindCont f (p.on r).1) (p.on r).2 = _
  rw [h]
  rfl

theorem on_get_bind (f : Reader → Moving β) (r : Reader) : (get >>= f).on r = (f r).on r := rfl

theorem on_pure (a : α) (r : Reader) : (pure a : Moving α).on r = (.ok a, r) := rfl

theorem on_throw (stop : Stop) (r : Reader) : (throw stop : Moving α).on r = (.error stop, r) := rfl

theorem on_difference {m n : Nat} (hle : n ≤ m) (r : Reader) :
    (difference m n).on r = (.ok (m - n), r) := by
  rw [difference, if_pos hle, on_pure]

/-- What is left is counted without a difference below zero. -/
theorem on_remaining (h : r.IsPlaced) :
    remaining.on r = (.ok (r.data.length - r.position), r) := by
  rw [remaining, on_get_bind, on_difference h]

theorem on_stretch {n : Nat} (h : r.HasRoom n) : (stretch n).on r = (.ok (r.ahead n), r) := by
  rw [stretch, on_get_bind, if_pos (show r.position + n ≤ r.data.length from h), on_pure]

theorem on_advance (n : Nat) (r : Reader) : (advance n).on r = (.ok (), r.moved n) := rfl

theorem on_check {n : Nat} (h : r.HasRoom n) : (check n).on r = (.ok (), r) := by
  have hleft : ¬r.data.length - r.position < n := by
    rw [Reader.HasRoom] at h
    omega
  rw [check, on_bind_ok (on_remaining h.isPlaced), on_get_bind, if_neg hleft, on_pure]

theorem on_check_short {n : Nat} (hplaced : r.IsPlaced) (h : ¬r.HasRoom n) :
    (check n).on r = (.error (.refused (.short (r.shortRead n))), r) := by
  have hleft : r.data.length - r.position < n := by
    rw [Reader.IsPlaced] at hplaced
    rw [Reader.HasRoom] at h
    omega
  rw [check, on_bind_ok (on_remaining hplaced), on_get_bind, if_pos hleft, on_throw]
  rfl

theorem on_bytes {n : Nat} (h : r.HasRoom n) : (bytes n).on r = (.ok (r.ahead n), r.moved n) := by
  rw [bytes, on_bind_ok (on_check h), on_bind_ok (on_stretch h), on_bind_ok (on_advance n r),
    on_pure]

theorem on_bytes_short {n : Nat} (hplaced : r.IsPlaced) (h : ¬r.HasRoom n) :
    (bytes n).on r = (.error (.refused (.short (r.shortRead n))), r) := by
  rw [bytes, on_bind_error (on_check_short hplaced h)]

theorem on_skip {n : Nat} (h : r.HasRoom n) : (skip n).on r = (.ok (), r.moved n) := by
  rw [skip, on_bind_ok (on_check h), on_advance]

theorem on_skip_short {n : Nat} (hplaced : r.IsPlaced) (h : ¬r.HasRoom n) :
    (skip n).on r = (.error (.refused (.short (r.shortRead n))), r) := by
  rw [skip, on_bind_error (on_check_short hplaced h)]

theorem on_seek {offset : Nat} (h : offset ≤ r.data.length) :
    (seek offset).on r = (.ok (), { r with position := offset }) := by
  rw [seek, on_get_bind, if_neg (Nat.not_lt.2 h)]
  rfl

theorem on_seek_beyond {offset : Nat} (hplaced : r.IsPlaced) (h : r.data.length < offset) :
    (seek offset).on r =
      (.error (.refused (.short (r.shortRead (offset - r.position)))), r) := by
  have hbefore : r.position ≤ offset := (Nat.lt_of_le_of_lt hplaced h).le
  rw [seek, on_get_bind, if_pos h, on_bind_ok (on_difference hbefore r),
    on_bind_ok (on_remaining hplaced), on_bind_error (on_throw _ r)]
  rfl

theorem on_upTo (hplaced : r.IsPlaced) (n : Nat) :
    (upTo n).on r = (.ok (r.ahead (min n (r.data.length - r.position))),
      r.moved (min n (r.data.length - r.position))) := by
  rw [upTo, on_bind_ok (on_remaining hplaced), on_bind_ok (on_stretch (hplaced.hasRoom_min n)),
    on_bind_ok (on_advance _ r), on_pure]

theorem on_word {width : Nat} (hwidth : [1, 2, 4, 8].contains width = true) (order : ByteOrder)
    (h : r.HasRoom width) :
    (word width order).on r = (.ok (order.word (r.ahead width)), r.moved width) := by
  rw [word, if_pos hwidth, on_bind_ok (on_bytes h), on_pure]

theorem on_word_short {width : Nat} (hwidth : [1, 2, 4, 8].contains width = true)
    (order : ByteOrder) (hplaced : r.IsPlaced) (h : ¬r.HasRoom width) :
    (word width order).on r = (.error (.refused (.short (r.shortRead width))), r) := by
  rw [word, if_pos hwidth, on_bind_error (on_bytes_short hplaced h)]

theorem on_word_unsupported {width : Nat} (hwidth : ¬[1, 2, 4, 8].contains width = true)
    (order : ByteOrder) (r : Reader) :
    (word width order).on r = (.error (.refused (.width width)), r) := by
  rw [word, if_neg hwidth, on_throw]

theorem on_signed {width : Nat} (hwidth : [1, 2, 4, 8].contains width = true) (order : ByteOrder)
    (h : r.HasRoom width) : (signed width order).on r =
      (.ok (signedWord width (order.word (r.ahead width))), r.moved width) := by
  have hfits : 8 * width ≤ 64 := Nat.mul_le_mul_left 8 (contains_width_iff.1 hwidth).le_eight
  rw [signed, on_bind_ok (on_word hwidth order h), on_bind_ok (on_difference hfits _), on_pure]
  rfl

theorem on_reading (call : ReaderCall) {n : Nat} (h : r.HasRoom n) :
    (reading call n).on r = (.ok (call.reply (r.ahead n)), r.moved n) := by
  rw [reading, on_bind_ok (on_bytes h), on_pure]

theorem on_reading_short (call : ReaderCall) {n : Nat} (hplaced : r.IsPlaced) (h : ¬r.HasRoom n) :
    (reading call n).on r = (.error (.refused (.short (r.shortRead n))), r) := by
  rw [reading, on_bind_error (on_bytes_short hplaced h)]

end Moving

/-! ## Cursors at readers -/

namespace Reader

variable {r : Reader} {n : Nat}

theorem hasAtLeast_cursor (h : r.IsPlaced) :
    Cursor.hasAtLeast n r.cursor.rest = true ↔ r.HasRoom n := by
  rw [hasAtLeast_iff, cursor, List.length_drop, HasRoom]
  rw [IsPlaced] at h
  omega

theorem remaining_cursor (r : Reader) : r.cursor.remaining = r.data.length - r.position :=
  List.length_drop

theorem skip_cursor (h : r.HasRoom n) : r.cursor.skip n = .ok (r.moved n).cursor := by
  rw [Cursor.skip, if_pos ((hasAtLeast_cursor h.isPlaced).2 h), Cursor.advance]
  simp only [cursor, moved, List.drop_drop]

theorem skip_cursor_short (hplaced : r.IsPlaced) (h : ¬r.HasRoom n) :
    r.cursor.skip n = .error (r.shortRead n) := by
  rw [Cursor.skip, if_neg (mt (hasAtLeast_cursor hplaced).1 h), remaining_cursor]
  rfl

theorem readBytes_cursor (h : r.HasRoom n) :
    r.cursor.readBytes n = .ok (r.ahead n, (r.moved n).cursor) := by
  rw [Cursor.readBytes, skip_cursor h]
  rfl

theorem readBytes_cursor_short (hplaced : r.IsPlaced) (h : ¬r.HasRoom n) :
    r.cursor.readBytes n = .error (r.shortRead n) := by
  rw [Cursor.readBytes, skip_cursor_short hplaced h]
  rfl

theorem seek_cursor {offset : Nat} (h : offset ≤ r.data.length) :
    r.cursor.seek offset = .ok (cursor { r with position := offset }) := by
  have hall : Cursor.hasAtLeast offset r.cursor.data = true := (hasAtLeast_iff _ _).2 h
  rw [Cursor.seek, if_pos hall]
  rfl

theorem seek_cursor_beyond {offset : Nat} (h : r.data.length < offset) :
    r.cursor.seek offset = .error (r.shortRead (offset - r.position)) := by
  have hless : ¬Cursor.hasAtLeast offset r.cursor.data = true :=
    mt (hasAtLeast_iff _ _).1 (Nat.not_le.2 h)
  rw [Cursor.seek, if_neg hless, remaining_cursor]
  rfl

theorem takeUpTo_cursor (r : Reader) (n : Nat) : r.cursor.takeUpTo n =
    (.ofBytes (r.ahead (min n (r.data.length - r.position))),
      (r.moved (min n (r.data.length - r.position))).cursor) := by
  have hlength : r.cursor.rest.length = r.data.length - r.position := List.length_drop
  rw [Cursor.takeUpTo, List.take_eq_take_min, hlength]
  simp only [List.length_take, hlength, Nat.min_assoc, Nat.min_self]
  simp only [Cursor.advance, cursor, moved, ahead, List.drop_drop]

end Reader

/-! ## What calls do -/

namespace ReaderCall

variable {call : ReaderCall} {r : Reader} {n : Nat}

theorem size?_width {width : Nat}
    (h : (if [1, 2, 4, 8].contains width then some width else none) = some n) :
    [1, 2, 4, 8].contains width = true ∧ width = n := by
  obtain ⟨hwidth, hsame⟩ := Option.ite_none_right_eq_some.1 h
  exact ⟨hwidth, Option.some.inj hsame⟩

/-- A call that reads a number of bytes does nothing but read them and reply. -/
theorem on_call (hsize : call.size? = some n) (hplaced : r.IsPlaced) :
    (Moving.call call).on r = (Moving.reading call n).on r := by
  by_cases hroom : r.HasRoom n
  · rw [Moving.on_reading call hroom]
    cases call with
    | unsigned width order =>
        obtain ⟨hwidth, rfl⟩ := size?_width hsize
        rw [Moving.call, Moving.on_bind_ok (Moving.on_word hwidth order hroom), Moving.on_pure,
          reply]
    | signed width order =>
        obtain ⟨hwidth, rfl⟩ := size?_width hsize
        rw [Moving.call, Moving.on_bind_ok (Moving.on_signed hwidth order hroom), Moving.on_pure,
          reply]
    | skip k =>
        obtain rfl := Option.some.inj hsize
        rw [Moving.call, Moving.on_bind_ok (Moving.on_skip hroom), Moving.on_pure, reply]
    | seek offset => cases hsize
    | takeUpTo k => cases hsize
    | _ =>
        obtain rfl := Option.some.inj hsize
        exact Moving.on_reading _ hroom
  · rw [Moving.on_reading_short call hplaced hroom]
    cases call with
    | unsigned width order =>
        obtain ⟨hwidth, rfl⟩ := size?_width hsize
        exact Moving.on_bind_error (Moving.on_word_short hwidth order hplaced hroom)
    | signed width order =>
        obtain ⟨hwidth, rfl⟩ := size?_width hsize
        exact Moving.on_bind_error
          (Moving.on_bind_error (Moving.on_word_short hwidth order hplaced hroom))
    | skip k =>
        obtain rfl := Option.some.inj hsize
        exact Moving.on_bind_error (Moving.on_skip_short hplaced hroom)
    | seek offset => cases hsize
    | takeUpTo k => cases hsize
    | _ =>
        obtain rfl := Option.some.inj hsize
        exact Moving.on_reading_short _ hplaced hroom

/-- A cursor answers a call that reads a number of bytes by reading them and replying. -/
theorem call_eq (hsize : call.size? = some n) (cursor : Cursor) : cursor.call call =
    ((cursor.readBytes n).mapError .short).map fun (read, next) => (call.reply read, next) := by
  cases call with
  | unsigned width order =>
      obtain ⟨hwidth, rfl⟩ := size?_width hsize
      rw [Cursor.call, Cursor.readUnsigned, Cursor.readWord, if_pos hwidth]
      cases cursor.readBytes width <;> rfl
  | signed width order =>
      obtain ⟨hwidth, rfl⟩ := size?_width hsize
      rw [Cursor.call, Cursor.readSigned, Cursor.readWord, if_pos hwidth]
      cases cursor.readBytes width <;> rfl
  | skip k =>
      obtain rfl := Option.some.inj hsize
      rw [Cursor.call, Cursor.readBytes]
      cases cursor.skip k <;> rfl
  | seek offset => cases hsize
  | takeUpTo k => cases hsize
  | uint8 =>
      obtain rfl := Option.some.inj hsize
      rw [Cursor.call, Cursor.readUInt8]
      cases cursor.readBytes 1 <;> rfl
  | _ =>
      obtain rfl := Option.some.inj hsize
      simp only [Cursor.call, Cursor.readUInt16, Cursor.readInt16, Cursor.readUInt32,
        Cursor.readInt32, Cursor.readText, Cursor.take]
      cases cursor.readBytes _ <;> rfl

/-! ## What calls reply -/

/-- The number that a call for a number has to find in some bytes. -/
def number? : ReaderCall → List UInt8 → Option Int
  | unsigned _ order, read => some (order.value read)
  | signed width order, read => some (twosComplement (8 * width) (order.value read))
  | uint8, read | uint16, read | uint32, read => some (ByteOrder.big.value read)
  | int16, read => some (twosComplement 16 (ByteOrder.big.value read))
  | int32, read => some (twosComplement 32 (ByteOrder.big.value read))
  | _, _ => none

theorem reply_of_number? (hsize : call.size? = some n) {read : List UInt8} (hread : read.length = n)
    {k : Int} (hnumber : call.number? read = some k) : call.reply read = .number k := by
  have hlt := ByteOrder.big.value_lt read
  rw [hread] at hlt
  cases call with
  | unsigned width order =>
      obtain ⟨hwidth, rfl⟩ := size?_width hsize
      obtain rfl := Option.some.inj hnumber
      rw [reply, order.toNat_word (hread ▸ (contains_width_iff.1 hwidth).le_eight)]
  | signed width order =>
      obtain ⟨hwidth, rfl⟩ := size?_width hsize
      obtain rfl := Option.some.inj hnumber
      have hword := order.toNat_word (hread ▸ (contains_width_iff.1 hwidth).le_eight)
      have hfits : (order.word read).toNat < 256 ^ width := by
        rw [hword, ← hread]
        exact order.value_lt read
      rw [reply, toInt_signedWord (contains_width_iff.1 hwidth) hfits, hword]
  | uint8 =>
      obtain rfl := Option.some.inj hsize
      obtain rfl := Option.some.inj hnumber
      rw [reply, ← value_big, UInt8.toNat_ofNat_of_lt' hlt]
  | uint16 =>
      obtain rfl := Option.some.inj hsize
      obtain rfl := Option.some.inj hnumber
      rw [reply, ← value_big, UInt16.toNat_ofNat_of_lt' hlt]
  | uint32 =>
      obtain rfl := Option.some.inj hsize
      obtain rfl := Option.some.inj hnumber
      rw [reply, ← value_big, UInt32.toNat_ofNat_of_lt' hlt]
  | int16 =>
      obtain rfl := Option.some.inj hsize
      obtain rfl := Option.some.inj hnumber
      rw [reply, ← value_big, Int16.toInt_ofNat', ← bmod_eq_twosComplement (by decide) hlt]
      rfl
  | int32 =>
      obtain rfl := Option.some.inj hsize
      obtain rfl := Option.some.inj hnumber
      rw [reply, ← value_big, Int32.toInt_ofNat', ← bmod_eq_twosComplement (by decide) hlt]
      rfl
  | _ => cases hnumber

end ReaderCall

end WeatherRadar.Level3
