/-!
# Text from bytes

Bytes that should be UTF-8 are read without failing: each maximal run of bytes that begins a
character but does not complete one becomes a single replacement character.
-/

namespace WeatherRadar.Utf8

/-- The character that stands for bytes that spell none. -/
def replacement : Char := '\uFFFD'

/-- The number of continuation bytes after a leading byte, the range the first of them must lie
in, and the bits that the leading byte gives. -/
def lead? (b : UInt8) : Option (Nat × UInt8 × UInt8 × Nat) :=
  if 0xC2 ≤ b && b ≤ 0xDF then some (1, 0x80, 0xBF, b.toNat % 32)
  else if b == 0xE0 then some (2, 0xA0, 0xBF, 0)
  else if b == 0xED then some (2, 0x80, 0x9F, 13)
  else if 0xE1 ≤ b && b ≤ 0xEF then some (2, 0x80, 0xBF, b.toNat % 16)
  else if b == 0xF0 then some (3, 0x90, 0xBF, 0)
  else if 0xF1 ≤ b && b ≤ 0xF3 then some (3, 0x80, 0xBF, b.toNat % 8)
  else if b == 0xF4 then some (3, 0x80, 0x8F, 4)
  else none

/-- Takes up to `count` continuation bytes, the first of them within the given range.  The result
is the code point when all are there, and the bytes that remain. -/
def follow (low high : UInt8) : Nat → Nat → List UInt8 → Option Nat × List UInt8
  | 0, code, bytes => (some code, bytes)
  | _ + 1, _, [] => (none, [])
  | count + 1, code, b :: bytes =>
    if low ≤ b && b ≤ high then follow 0x80 0xBF count (code * 64 + b.toNat % 64) bytes
    else (none, b :: bytes)

theorem length_follow_le (low high : UInt8) (count code : Nat) (bytes : List UInt8) :
    (follow low high count code bytes).2.length ≤ bytes.length := by
  induction count generalizing low high code bytes with
  | zero => simp [follow]
  | succ count ih =>
    cases bytes with
    | nil => simp [follow]
    | cons b bytes =>
      simp only [follow]
      split
      · exact Nat.le_succ_of_le (ih ..)
      · simp

def chars : List UInt8 → List Char
  | [] => []
  | b :: bytes =>
    if b < 0x80 then Char.ofNat b.toNat :: chars bytes
    else match lead? b with
      | none => replacement :: chars bytes
      | some (count, low, high, bits) =>
        let step := follow low high count bits bytes
        (step.1.elim replacement Char.ofNat) :: chars step.2
termination_by bytes => bytes.length
decreasing_by
  · simp
  · simp
  · have := length_follow_le low high count bits bytes
    simp only [List.length_cons]
    omega

def decode (bytes : List UInt8) : String := String.ofList (chars bytes)

def encode (s : String) : List UInt8 := s.toList.flatMap String.utf8EncodeChar

end WeatherRadar.Utf8
