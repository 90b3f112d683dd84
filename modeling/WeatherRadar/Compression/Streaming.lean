import WeatherRadar.Compression.Zlib
import Mathlib.Data.PFun
/-!
# Streams expanded in rounds

A decompressor is offered bytes and room for their contents, and goes on with its stream as far as
either allows.  It is called again, with new room, until the stream has ended.  The streams of some
bytes are expanded one behind the other into one buffer.

Nothing here bounds the number of rounds: the loops are partial functions, without a result for what
they never finish.
-/

namespace WeatherRadar.Zlib

/-- How a round ends. -/
inductive Status where
  | ok
  /-- Neither bytes nor room were of use. -/
  | stuck
  | streamEnd
  deriving DecidableEq, Repr

/-- What a decompressor does with some bytes and room for some more. -/
structure Round (σ : Type) (input : List UInt8) (room : Nat) where
  state : σ
  /-- How many bytes it has taken. -/
  taken : Nat
  made : List UInt8
  status : Status
  taken_le : taken ≤ input.length
  made_le : made.length ≤ room

/-- A decompressor of one stream. -/
structure Inflater where
  State : Type
  start : State
  /-- Goes on with the stream, unless the bytes are rejected. -/
  round? : State → (input : List UInt8) → (room : Nat) → Option (Round State input room)

/-- How much memory buffers get. -/
structure Allocator where
  /-- The capacity of a new buffer for so many bytes. -/
  create : Nat → Nat
  /-- The capacity of a buffer of some length and capacity when room for more bytes is asked for. -/
  reserve : Nat → Nat → Nat → Nat
  le_reserve : ∀ length capacity more, length + more ≤ reserve length capacity more

/-- Gives what is asked for, and at least twice what there was. -/
def Allocator.doubling : Allocator where
  create length := length
  reserve length capacity more := max (2 * capacity) (length + more)
  le_reserve _ _ _ := Nat.le_max_right _ _

/-- Bytes in memory that may hold more of them. -/
structure Buffer where
  bytes : List UInt8
  capacity : Nat
  fits : bytes.length ≤ capacity

namespace Buffer

def empty (capacity : Nat) : Buffer := ⟨[], capacity, Nat.zero_le capacity⟩

def room (buffer : Buffer) : Nat := buffer.capacity - buffer.bytes.length

def push (buffer : Buffer) (made : List UInt8) (h : made.length ≤ buffer.room) : Buffer where
  bytes := buffer.bytes ++ made
  capacity := buffer.capacity
  fits := by
    have hfits := buffer.fits
    rw [room] at h
    rw [List.length_append]
    omega

/-- The least room that a decompressor is offered. -/
def leastRoom : Nat := 8 * 1024

/-- Asks for 64 KiB when there is less than the least room. -/
def ensureRoom (allocator : Allocator) (buffer : Buffer) : Buffer :=
  if buffer.room < leastRoom then
    ⟨buffer.bytes, allocator.reserve buffer.bytes.length buffer.capacity (64 * 1024),
      Nat.le_of_add_right_le (allocator.le_reserve _ _ _)⟩
  else buffer

end Buffer

/-- A stream that is being read: how many of its bytes have been taken, and the buffer that its
contents go to. -/
structure Session (σ : Type) where
  state : σ
  taken : Nat
  buffer : Buffer

/-- What comes of a round. -/
inductive Turn (σ : Type) where
  | fails (error : Error)
  | ends (taken : Nat) (buffer : Buffer)
  | goesOn (session : Session σ)

/-- The result of a stream after its last round, and what the next round starts from otherwise. -/
def Turn.outcome {σ : Type} : Turn σ → Except Error (Nat × Buffer) ⊕ Session σ
  | fails error => .inl (.error error)
  | ends taken buffer => .inl (.ok (taken, buffer))
  | goesOn session => .inr session

section Loops

variable (inflater : Inflater) (allocator : Allocator)

/-- One round of reading a stream at the start of some bytes, into a buffer that has room.  Bytes
that end before their stream does are told by a round without progress. -/
def roundInto (buffer : Buffer) (input : List UInt8) (session : Session inflater.State) :
    Turn inflater.State :=
  match inflater.round? session.state (input.drop session.taken) buffer.room with
  | none => .fails (.stream .corrupt)
  | some round =>
    let taken := session.taken + round.taken
    let next := buffer.push round.made round.made_le
    match round.status with
    | .streamEnd => .ends taken next
    | .ok | .stuck =>
      let progressed := taken != session.taken || next.bytes.length != buffer.bytes.length
      if !progressed && next.bytes.length < next.capacity then .fails (.stream .truncated)
      else .goesOn ⟨round.state, taken, next⟩

def turn (input : List UInt8) (session : Session inflater.State) : Turn inflater.State :=
  roundInto inflater (session.buffer.ensureRoom allocator) input session

/-- Reads a stream at the start of some bytes to its end. -/
def readToEnd (input : List UInt8) : Session inflater.State →. Except Error (Nat × Buffer) :=
  PFun.fix fun session => Part.some (turn inflater allocator input session).outcome

/-- What comes of a stream that begins at some place, and where the next one may begin. -/
def afterStream (consumed : Nat) :
    Except Error (Nat × Buffer) → Except Error (Nat × Buffer) ⊕ Nat × Buffer
  | .error error => .inl (.error error)
  | .ok (taken, buffer) =>
    if taken == 0 then .inl (.ok (consumed, buffer)) else .inr (consumed + taken, buffer)

/-- Reads the stream that begins at some place, if one does. -/
def streamTurn (data : List UInt8) (consumed : Nat) (buffer : Buffer) :
    Part (Except Error (Nat × Buffer) ⊕ Nat × Buffer) :=
  if data[consumed]? == some marker then
    (readToEnd inflater allocator (data.drop consumed) ⟨inflater.start, 0, buffer⟩).map
      (afterStream consumed)
  else Part.some (.inl (.ok (consumed, buffer)))

/-- Reads streams, one behind the other, from some place on.  The result is the first place that
does not begin one. -/
def readStreams (data : List UInt8) : Nat × Buffer →. Except Error (Nat × Buffer) :=
  PFun.fix fun (consumed, buffer) => streamTurn inflater allocator data consumed buffer

/-- What has been read when no place begins a stream any more. -/
def contentsOf : Except Error (Nat × Buffer) → Except Error (List UInt8)
  | .error error => .error error
  | .ok (consumed, buffer) => if consumed == 0 then .error .noStream else .ok buffer.bytes

/-- The contents of one or more streams in a row, read in rounds. -/
def inflateInRounds (data : List UInt8) : Part (Except Error (List UInt8)) :=
  (readStreams inflater allocator data (0, .empty (allocator.create (4 * data.length)))).map
    contentsOf

end Loops

namespace Inflater

/-- What a decompressor that reads its whole stream at once still has to hand out. -/
inductive Pending where
  | unread
  | contents (left : List UInt8)

/-- Hands out contents as far as there is room. -/
def handOut (contents : List UInt8) (room : Nat) {input : List UInt8} {taken : Nat}
    (h : taken ≤ input.length) : Round Pending input room where
  state := .contents (contents.drop room)
  taken := taken
  made := contents.take room
  status := if contents.length ≤ room then .streamEnd else .ok
  taken_le := h
  made_le := by
    rw [List.length_take]
    exact Nat.min_le_left _ _

/-- The decompressor that reads its whole stream at once and hands out the contents bit by bit. -/
def ofReader (single : StreamReader) : Inflater where
  State := Pending
  start := .unread
  round? state input room := match state with
    | .contents left => some (handOut left room (Nat.zero_le _))
    | .unread =>
      match single input with
      | .error .corrupt => none
      | .error .truncated => some ⟨.unread, 0, [], .stuck, Nat.zero_le _, Nat.zero_le _⟩
      | .ok (contents, rest) =>
        some (handOut contents room (Nat.sub_le input.length rest.length))

end Inflater

end WeatherRadar.Zlib
