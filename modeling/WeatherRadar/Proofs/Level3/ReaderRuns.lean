import Mathlib.Data.List.Infix
import WeatherRadar.Proofs.Level3.Readers
import WeatherRadar.Proofs.Text.Trimming
/-!
# Readers stay within their bytes

What a call has to do is told by `Answers`: it gives what the bytes at the place spell and moves
past them, or it says how many bytes are missing and moves nothing.  Every call on a reader within
its bytes does so (`answers_call`), and the cursor there answers alike (`agrees_call`).  The reader
is then still within its bytes, and so is each reader that a call opens over some of them
(`Answers.keeps`), which carries over to any number of calls on any of the readers
(`readers_stay_within`).
-/

namespace WeatherRadar.Level3

/-! ## What a call has to do -/

/-- Some bytes are the text of a field: their characters without the zeros and blanks at the end. -/
def IsTextOf (read : List UInt8) (text : String) : Prop :=
  ∃ behind, Utf8.chars read = text.toList ++ behind ∧ (∀ c ∈ behind, c = '\x00' ∨ c = ' ') ∧
    ∀ c ∈ text.toList.getLast?, ¬(c = '\x00' ∨ c = ' ')

/-- What bytes spell for a call that reads them. -/
inductive Spells : ReaderCall → List UInt8 → ReaderReply → Prop where
  | number {call : ReaderCall} {read : List UInt8} {n : Int} (h : call.number? read = some n) :
      Spells call read (.number n)
  | bytes {n : Nat} {read : List UInt8} : Spells (.bytes n) read (.bytes read)
  | text {n : Nat} {read : List UInt8} {text : String} (h : IsTextOf read text) :
      Spells (.text n) read (.text text)
  | skip {n : Nat} {read : List UInt8} : Spells (.skip n) read .nothing
  | take {n : Nat} {read : List UInt8} : Spells (.take n) read (.inner (.ofBytes read))

/-- What a call on a reader has to give, and which reader it has to leave. -/
inductive Answers (r : Reader) (call : ReaderCall) : Except Stop ReaderReply × Reader → Prop where
  | whole {read after : List UInt8} {reply : ReaderReply} (hsize : call.size? = some read.length)
      (hread : r.data.drop r.position = read ++ after) (hspells : Spells call read reply) :
      Answers r call (.ok reply, ⟨r.data, r.position + read.length⟩)
  | short {n : Nat} (hsize : call.size? = some n) (hshort : r.data.length < r.position + n) :
      Answers r call
        (.error (.refused (.short ⟨r.position, n, r.data.length - r.position⟩)), r)
  | width {width : Nat} {order : ByteOrder} (hwidth : ¬IsWordWidth width)
      (hcall : call = .unsigned width order ∨ call = .signed width order) :
      Answers r call (.error (.refused (.width width)), r)
  | seek {offset : Nat} (hcall : call = .seek offset) (hoffset : offset ≤ r.data.length) :
      Answers r call (.ok .nothing, ⟨r.data, offset⟩)
  | beyond {offset : Nat} (hcall : call = .seek offset) (hoffset : r.data.length < offset) :
      Answers r call (.error
        (.refused (.short ⟨r.position, offset - r.position, r.data.length - r.position⟩)), r)
  | upTo {n : Nat} {read after : List UInt8} (hcall : call = .takeUpTo n)
      (hread : r.data.drop r.position = read ++ after)
      (hlength : read.length = min n (r.data.length - r.position)) :
      Answers r call (.ok (.inner (.ofBytes read)), ⟨r.data, r.position + read.length⟩)

/-- A reader does what the cursor at its place does.  It is left where the cursor behind the read
is, or where it was. -/
inductive Agrees (r : Reader) :
    Except ReadError (ReaderReply × Cursor) → Except Stop ReaderReply × Reader → Prop where
  | ok {reply : ReaderReply} {next : Reader} : Agrees r (.ok (reply, next.cursor)) (.ok reply, next)
  | error {e : ReadError} : Agrees r (.error e) (.error (.refused e), r)

variable {r : Reader} {call : ReaderCall} {n : Nat}

theorem isTextOf_dropTrailing (read : List UInt8) : IsTextOf read
    (.ofList (dropTrailing (fun c => c == '\x00' || c == ' ') (Utf8.chars read))) := by
  obtain ⟨behind, hsplit, hbehind, hlast⟩ :=
    exists_run_dropTrailing (p := fun c => c == '\x00' || c == ' ') (Utf8.chars read)
  refine ⟨behind, ?_, fun c hc => by simpa using hbehind c hc, fun c hc => ?_⟩
  · rw [String.toList_ofList]
    exact hsplit
  · rw [String.toList_ofList] at hc
    simpa using hlast c hc

theorem spells_reply (hsize : call.size? = some n) {read : List UInt8} (hread : read.length = n) :
    Spells call read (call.reply read) := by
  cases call with
  | seek offset => cases hsize
  | takeUpTo k => cases hsize
  | bytes k => exact .bytes
  | text k => exact .text (isTextOf_dropTrailing read)
  | skip k => exact .skip
  | take k => exact .take
  | _ =>
      rw [ReaderCall.reply_of_number? hsize hread rfl]
      exact .number rfl

theorem answers_of_size? (hsize : call.size? = some n) (h : r.IsPlaced) :
    Answers r call ((Moving.call call).on r) := by
  rw [ReaderCall.on_call hsize h]
  by_cases hroom : r.HasRoom n
  · have hlength := hroom.length_ahead
    have hwhole : Answers r call (.ok (call.reply (r.ahead n)), ⟨r.data, r.position + _⟩) :=
      .whole (hlength.symm ▸ hsize) (r.append_ahead n) (spells_reply hsize hlength)
    rw [hlength] at hwhole
    rw [Moving.on_reading call hroom]
    exact hwhole
  · rw [Moving.on_reading_short call h hroom]
    exact .short hsize (Nat.not_le.1 hroom)

theorem agrees_of_size? (hsize : call.size? = some n) (h : r.IsPlaced) :
    Agrees r (r.cursor.call call) ((Moving.call call).on r) := by
  rw [ReaderCall.on_call hsize h, ReaderCall.call_eq hsize]
  by_cases hroom : r.HasRoom n
  · rw [Moving.on_reading call hroom, Reader.readBytes_cursor hroom]
    exact .ok
  · rw [Moving.on_reading_short call h hroom, Reader.readBytes_cursor_short h hroom]
    exact .error

/-- The calls that do not read a fixed number of bytes. -/
theorem cases_of_size?_eq_none (hsize : call.size? = none) :
    (∃ width order, ¬IsWordWidth width ∧
      (call = .unsigned width order ∨ call = .signed width order)) ∨
    (∃ offset, call = .seek offset) ∨ ∃ n, call = .takeUpTo n := by
  cases call with
  | unsigned width order =>
      have hwidth := (ite_eq_right_iff.1 hsize).mt (by simp)
      exact .inl ⟨width, order, mt contains_width_iff.2 hwidth, .inl rfl⟩
  | signed width order =>
      have hwidth := (ite_eq_right_iff.1 hsize).mt (by simp)
      exact .inl ⟨width, order, mt contains_width_iff.2 hwidth, .inr rfl⟩
  | seek offset => exact .inr (.inl ⟨offset, rfl⟩)
  | takeUpTo k => exact .inr (.inr ⟨k, rfl⟩)
  | _ => cases hsize

section Unsupported

variable {width : Nat} {order : ByteOrder}

theorem on_call_unsupported (hwidth : ¬IsWordWidth width)
    (hcall : call = .unsigned width order ∨ call = .signed width order) (r : Reader) :
    (Moving.call call).on r = (.error (.refused (.width width)), r) := by
  have hword := Moving.on_word_unsupported (mt contains_width_iff.1 hwidth) order r
  obtain rfl | rfl := hcall
  · exact Moving.on_bind_error hword
  · exact Moving.on_bind_error (Moving.on_bind_error hword)

theorem call_unsupported (hwidth : ¬IsWordWidth width)
    (hcall : call = .unsigned width order ∨ call = .signed width order) (cursor : Cursor) :
    cursor.call call = .error (.width width) := by
  have hword : cursor.readWord width order = .error (.width width) := by
    rw [Cursor.readWord, if_neg (mt contains_width_iff.1 hwidth)]
  obtain rfl | rfl := hcall
  · rw [Cursor.call, Cursor.readUnsigned, hword]
    rfl
  · rw [Cursor.call, Cursor.readSigned, hword]
    rfl

end Unsupported

theorem answers_call (h : r.IsPlaced) (call : ReaderCall) :
    Answers r call ((Moving.call call).on r) := by
  cases hsize : call.size? with
  | some n => exact answers_of_size? hsize h
  | none =>
      obtain ⟨width, order, hwidth, hcall⟩ | ⟨offset, rfl⟩ | ⟨n, rfl⟩ :=
        cases_of_size?_eq_none hsize
      · rw [on_call_unsupported hwidth hcall]
        exact .width hwidth hcall
      · by_cases hoffset : offset ≤ r.data.length
        · rw [Moving.call, Moving.on_bind_ok (Moving.on_seek hoffset), Moving.on_pure]
          exact .seek rfl hoffset
        · have hbeyond := Nat.not_le.1 hoffset
          rw [Moving.call, Moving.on_bind_error (Moving.on_seek_beyond h hbeyond)]
          exact .beyond rfl hbeyond
      · have hlength := (h.hasRoom_min n).length_ahead
        have hupTo : Answers r (.takeUpTo n) (.ok (.inner (.ofBytes _)), ⟨r.data, _⟩) :=
          .upTo rfl (r.append_ahead (min n (r.data.length - r.position))) hlength
        rw [hlength] at hupTo
        rw [Moving.call, Moving.on_bind_ok (Moving.on_upTo h n), Moving.on_pure]
        exact hupTo

theorem agrees_call (h : r.IsPlaced) (call : ReaderCall) :
    Agrees r (r.cursor.call call) ((Moving.call call).on r) := by
  cases hsize : call.size? with
  | some n => exact agrees_of_size? hsize h
  | none =>
      obtain ⟨width, order, hwidth, hcall⟩ | ⟨offset, rfl⟩ | ⟨n, rfl⟩ :=
        cases_of_size?_eq_none hsize
      · rw [on_call_unsupported hwidth hcall, call_unsupported hwidth hcall]
        exact .error
      · rw [Cursor.call, Moving.call]
        by_cases hoffset : offset ≤ r.data.length
        · rw [Moving.on_bind_ok (Moving.on_seek hoffset), Reader.seek_cursor hoffset]
          exact .ok
        · have hbeyond := Nat.not_le.1 hoffset
          rw [Moving.on_bind_error (Moving.on_seek_beyond h hbeyond),
            Reader.seek_cursor_beyond hbeyond]
          exact .error
      · rw [Cursor.call, Moving.call, Moving.on_bind_ok (Moving.on_upTo h n),
          Reader.takeUpTo_cursor]
        exact .ok

/-! ## Runs -/

/-- The readers that a reply opens: a cursor over some bytes is a reader of its own. -/
def openedBy : Except Stop ReaderReply → List Reader
  | .ok (.inner cursor) => [⟨cursor.data, cursor.position⟩]
  | _ => []

/-- The readers after a call on one of them. -/
def Reader.step (readers : List Reader) (i : Nat) (call : ReaderCall) : List Reader :=
  match readers[i]? with
  | none => readers
  | some r =>
    let (reply, next) := (Moving.call call).on r
    readers.set i next ++ openedBy reply

/-- The readers after calls, each on the reader of a number, that begin with one over some bytes. -/
def readersAfter (data : List UInt8) (calls : List (Nat × ReaderCall)) : List Reader :=
  calls.foldl (fun readers (i, call) => Reader.step readers i call) [⟨data, 0⟩]

/-- A reader is within its bytes, which are a stretch of some others. -/
structure Reader.IsWithin (r : Reader) (data : List UInt8) : Prop where
  isPlaced : r.IsPlaced
  isInfix : r.data <:+: data

variable {data : List UInt8} {reply : Except Stop ReaderReply} {next : Reader}

theorem isWithin_inner {read after : List UInt8} (hread : r.data.drop r.position = read ++ after)
    (h : r.IsWithin data) : Reader.IsWithin ⟨read, 0⟩ data where
  isPlaced := Nat.zero_le _
  isInfix := by
    have hfront : read <+: r.data.drop r.position := ⟨after, hread.symm⟩
    exact (hfront.isInfix.trans (List.drop_suffix _ _).isInfix).trans h.isInfix

theorem isWithin_moved {read after : List UInt8} (hread : r.data.drop r.position = read ++ after)
    (h : r.IsWithin data) : Reader.IsWithin ⟨r.data, r.position + read.length⟩ data where
  isPlaced := by
    have hplaced := h.isPlaced
    have hlength := congrArg List.length hread
    rw [List.length_drop, List.length_append] at hlength
    rw [Reader.IsPlaced] at hplaced
    show r.position + read.length ≤ r.data.length
    omega
  isInfix := h.isInfix

/-- A call keeps a reader within its bytes, and opens readers within them. -/
theorem Answers.keeps (hanswers : Answers r call (reply, next)) (h : r.IsWithin data) :
    next.IsWithin data ∧ ∀ s ∈ openedBy reply, s.IsWithin data := by
  cases hanswers with
  | whole hsize hread hspells =>
      refine ⟨isWithin_moved hread h, fun s hs => ?_⟩
      cases hspells with
      | take =>
          obtain rfl := List.mem_singleton.1 hs
          exact isWithin_inner hread h
      | _ => cases hs
  | short hsize hshort => exact ⟨h, fun s hs => nomatch hs⟩
  | width hwidth hcall => exact ⟨h, fun s hs => nomatch hs⟩
  | seek hcall hoffset => exact ⟨⟨hoffset, h.isInfix⟩, fun s hs => nomatch hs⟩
  | beyond hcall hoffset => exact ⟨h, fun s hs => nomatch hs⟩
  | upTo hcall hread hlength =>
      refine ⟨isWithin_moved hread h, fun s hs => ?_⟩
      obtain rfl := List.mem_singleton.1 hs
      exact isWithin_inner hread h

theorem isWithin_step {readers : List Reader} (h : ∀ r ∈ readers, r.IsWithin data) (i : Nat)
    (call : ReaderCall) : ∀ r ∈ Reader.step readers i call, r.IsWithin data := by
  rw [Reader.step]
  cases hi : readers[i]? with
  | none => exact h
  | some r =>
      have hr := h r (List.mem_of_getElem? hi)
      obtain ⟨hnext, hopened⟩ := (answers_call hr.isPlaced call).keeps hr
      intro s hs
      obtain hset | hopen := List.mem_append.1 hs
      · obtain hold | rfl := List.mem_or_eq_of_mem_set hset
        · exact h s hold
        · exact hnext
      · exact hopened s hopen

theorem isWithin_readersAfter (data : List UInt8) (calls : List (Nat × ReaderCall)) :
    ∀ r ∈ readersAfter data calls, r.IsWithin data := by
  induction calls using List.reverseRecOn with
  | nil =>
      intro r hr
      obtain rfl := List.mem_singleton.1 hr
      exact ⟨Nat.zero_le _, List.infix_refl data⟩
  | append_singleton calls call ih =>
      rw [readersAfter, List.foldl_concat]
      exact isWithin_step ih call.1 call.2

/-! ## Numbers read back -/

theorem readWord_digits {width : Nat} (hwidth : IsWordWidth width) (order : ByteOrder) (n : Nat)
    (data : List UInt8) (position : Nat) (rest : List UInt8) :
    (⟨data, position, order.digits width n ++ rest⟩ : Cursor).readWord width order =
      .ok (order.word (order.digits width n), ⟨data, position + width, rest⟩) := by
  have hread := Reads.readBytes (order.digits width n) data position rest
  rw [order.length_digits] at hread
  rw [Cursor.readWord, if_pos (contains_width_iff.2 hwidth), hread]

theorem toNat_word_digits {width : Nat} (hwidth : IsWordWidth width) (order : ByteOrder) {n : Nat}
    (hn : n < 256 ^ width) : (order.word (order.digits width n)).toNat = n := by
  have hlength := order.length_digits width n
  rw [order.toNat_word (hlength.trans_le hwidth.le_eight), order.value_digits hn]

/-- Every number of some bytes is read back from them. -/
theorem readUnsigned_digits {width : Nat} (hwidth : IsWordWidth width) (order : ByteOrder) {n : Nat}
    (hn : n < 256 ^ width) (data : List UInt8) (position : Nat) (rest : List UInt8) :
    (⟨data, position, order.digits width n ++ rest⟩ : Cursor).readUnsigned width order =
      .ok (n, ⟨data, position + width, rest⟩) := by
  rw [Cursor.readUnsigned, readWord_digits hwidth]
  show Except.ok ((order.word (order.digits width n)).toNat, _) = _
  rw [toNat_word_digits hwidth order hn]

/-- Every number with a sign is read back from the bytes of its two's complement. -/
theorem readSigned_digits {width : Nat} (hwidth : IsWordWidth width) (order : ByteOrder) {n : Int}
    (hlow : -2 ^ (8 * width - 1) ≤ n) (hhigh : n < 2 ^ (8 * width - 1)) (data : List UInt8)
    (position : Nat) (rest : List UInt8) :
    (⟨data, position, order.digits width (n % 2 ^ (8 * width)).toNat ++ rest⟩ : Cursor).readSigned
      width order = .ok (n, ⟨data, position + width, rest⟩) := by
  have hbits : 0 < 8 * width := Nat.mul_pos (by decide) hwidth.pos
  have hlt : (n % 2 ^ (8 * width)).toNat < 256 ^ width := by
    have hbase : ((256 ^ width : Nat) : Int) = 2 ^ (8 * width) := by
      rw [Nat.cast_pow, Int.pow_mul]
      rfl
    have hmod := Int.emod_lt_of_pos n (show (0 : Int) < 2 ^ (8 * width) from by positivity)
    have hnonneg := Int.emod_nonneg n (show (2 : Int) ^ (8 * width) ≠ 0 from by positivity)
    omega
  generalize hbytes : order.digits width (n % 2 ^ (8 * width)).toNat = digits
  have hword : (order.word digits).toNat = (n % 2 ^ (8 * width)).toNat :=
    hbytes ▸ toNat_word_digits hwidth order hlt
  have hvalue : (signedWord width (order.word digits)).toInt = n := by
    rw [toInt_signedWord hwidth (hword.trans_lt hlt), hword, twosComplement_emod hbits hlow hhigh]
  rw [Cursor.readSigned, ← hbytes, readWord_digits hwidth, hbytes]
  show Except.ok ((signedWord width (order.word digits)).toInt, _) = _
  rw [hvalue]

theorem length_of_readBytes {cursor : Cursor} {found : List UInt8 × Cursor}
    (h : cursor.readBytes n = .ok found) : found.1.length = n := by
  obtain ⟨next, hskip, rfl⟩ := except_map_eq_ok.1 h
  rw [Cursor.skip] at hskip
  split at hskip
  · next hall => exact List.length_take_of_le ((hasAtLeast_iff _ _).1 hall)
  · cases hskip

/-- Calls that read equally many bytes and find the same number in them are the same. -/
theorem call_eq_of_number? {other : ReaderCall} (hcall : call.size? = some n)
    (hother : other.size? = some n)
    (hnumber : ∀ read, ∃ k, call.number? read = some k ∧ other.number? read = some k)
    (cursor : Cursor) : cursor.call call = cursor.call other := by
  rw [ReaderCall.call_eq hcall, ReaderCall.call_eq hother]
  cases hread : cursor.readBytes n with
  | error short => rfl
  | ok found =>
      have hlength := length_of_readBytes hread
      obtain ⟨k, hk, hk'⟩ := hnumber found.1
      have hreply : call.reply found.1 = other.reply found.1 := by
        rw [ReaderCall.reply_of_number? hcall hlength hk,
          ReaderCall.reply_of_number? hother hlength hk']
      exact congrArg (fun reply => Except.ok (reply, found.2)) hreply

/-- Reads of fixed width read big-endian numbers. -/
structure ReadsBigEndian (cursor : Cursor) : Prop where
  uint8 : cursor.call .uint8 = cursor.call (.unsigned 1 .big)
  uint16 : cursor.call .uint16 = cursor.call (.unsigned 2 .big)
  int16 : cursor.call .int16 = cursor.call (.signed 2 .big)
  uint32 : cursor.call .uint32 = cursor.call (.unsigned 4 .big)
  int32 : cursor.call .int32 = cursor.call (.signed 4 .big)

theorem readsBigEndian (cursor : Cursor) : ReadsBigEndian cursor where
  uint8 := call_eq_of_number? rfl rfl (fun _ => ⟨_, rfl, rfl⟩) cursor
  uint16 := call_eq_of_number? rfl rfl (fun _ => ⟨_, rfl, rfl⟩) cursor
  int16 := call_eq_of_number? rfl rfl (fun _ => ⟨_, rfl, rfl⟩) cursor
  uint32 := call_eq_of_number? rfl rfl (fun _ => ⟨_, rfl, rfl⟩) cursor
  int32 := call_eq_of_number? rfl rfl (fun _ => ⟨_, rfl, rfl⟩) cursor

/-- Readers stay within their bytes.  After any calls on a reader over some bytes and on the readers
that come from it, each of them is within its bytes, which are a stretch of the first ones, and does
with the next call what it has to, as the cursor at its place does.  Words of every width are read
back from their bytes in either order, and reads of fixed width are big-endian ones. -/
theorem readers_stay_within :
    (∀ data calls, ∀ r ∈ readersAfter data calls, r.IsWithin data ∧
      ∀ call, Answers r call ((Moving.call call).on r) ∧
        Agrees r (r.cursor.call call) ((Moving.call call).on r)) ∧
    (∀ width, IsWordWidth width → ∀ (order : ByteOrder) (data : List UInt8) (position : Nat)
        (rest : List UInt8),
      (∀ n : Nat, n < 256 ^ width →
        (⟨data, position, order.digits width n ++ rest⟩ : Cursor).readUnsigned width order =
          .ok (n, ⟨data, position + width, rest⟩)) ∧
      ∀ n : Int, -2 ^ (8 * width - 1) ≤ n → n < 2 ^ (8 * width - 1) →
        (⟨data, position, order.digits width (n % 2 ^ (8 * width)).toNat ++ rest⟩ :
          Cursor).readSigned width order = .ok (n, ⟨data, position + width, rest⟩)) ∧
    ∀ cursor, ReadsBigEndian cursor := by
  refine ⟨fun data calls r hr => ?runs, fun width hwidth order data position rest => ?numbers,
    readsBigEndian⟩
  case runs =>
    have hwithin := isWithin_readersAfter data calls r hr
    exact ⟨hwithin, fun call =>
      ⟨answers_call hwithin.isPlaced call, agrees_call hwithin.isPlaced call⟩⟩
  case numbers =>
    exact ⟨fun n hn => readUnsigned_digits hwidth order hn data position rest,
      fun n hlow hhigh => readSigned_digits hwidth order hlow hhigh data position rest⟩

/-- A reader that was opened over two bytes of four is within them after one of them is read, and
both are the number that they were written for. -/
theorem readers_stay_within_inner :
    (⟨[0xFF, 0x38], 1⟩ : Reader).IsWithin [0, 0xFF, 0x38, 7] ∧
      (⟨[], 5, [0xFF, 0x38] ++ [7]⟩ : Cursor).readSigned 2 .big = .ok (-200, ⟨[], 7, [7]⟩) := by
  obtain ⟨hruns, hnumbers, -⟩ := readers_stay_within
  have hmem : ⟨[0xFF, 0x38], 1⟩ ∈
      readersAfter [0, 0xFF, 0x38, 7] [(0, .skip 1), (0, .take 2), (1, .uint8)] :=
    List.mem_of_getElem? (i := 1) rfl
  have hnumber := (hnumbers 2 (.inr (.inl rfl)) .big [] 5 [7]).2 (-200) (by decide) (by decide)
  exact ⟨(hruns _ _ _ hmem).1, hnumber⟩

end WeatherRadar.Level3
