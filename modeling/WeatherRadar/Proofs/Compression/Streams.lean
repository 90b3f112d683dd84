import WeatherRadar.Compression.Streaming
import WeatherRadar.Proofs.Compression.Prefixes
/-!
# Streams in a row

Each round of a decompressor takes bytes, makes contents, ends its stream or fails (`turnOf_turn`),
and all bytes and all contents are finite, so streams are read to their ends (`readToEnd_spec`).
A stream that has been read is followed by fewer bytes, so there is a last one (`readStreams_spec`).
What is found is what a reader finds that is given all of the bytes at once
(`inflateInRounds_eq`).  One decompressor that is like that reads at once itself
(`Inflater.ofReader_reads`).
-/

namespace WeatherRadar.Zlib

open Deflate (Fault)

/-! ## What a decompressor does -/

/-- A decompressor that is offered all of some data, after some rounds: how many bytes it has taken
and what it has made of them. -/
inductive Inflater.Reaches (inflater : Inflater) (data : List UInt8) :
    inflater.State → Nat → List UInt8 → Prop
  | start : Reaches inflater data inflater.start 0 []
  | round {state : inflater.State} {taken room : Nat} {made : List UInt8}
      {round : Round inflater.State (data.drop taken) room}
      (hreached : Reaches inflater data state taken made)
      (hround : inflater.round? state (data.drop taken) room = some round)
      (hstatus : round.status ≠ .streamEnd) :
      Reaches inflater data round.state (taken + round.taken) (made ++ round.made)

/-- A decompressor works in rounds as a reader does at once. -/
structure Inflater.Reads (inflater : Inflater) (single : StreamReader) : Prop where
  /-- It rejects nothing but what no stream begins with. -/
  rejects : ∀ {data state taken made room}, inflater.Reaches data state taken made →
    inflater.round? state (data.drop taken) room = none → single data = .error .corrupt
  /-- At the end of a stream it has taken all of it and has made all of its contents. -/
  ends : ∀ {data state taken made room} {round : Round inflater.State (data.drop taken) room},
    inflater.Reaches data state taken made →
    inflater.round? state (data.drop taken) room = some round → round.status = .streamEnd →
    single data = .ok (made ++ round.made, data.drop (taken + round.taken))
  /-- With room, it only stops for want of bytes. -/
  stalls : ∀ {data state taken made room} {round : Round inflater.State (data.drop taken) room},
    inflater.Reaches data state taken made →
    inflater.round? state (data.drop taken) room = some round → round.status ≠ .streamEnd →
    round.taken = 0 → round.made = [] → 0 < room → single data = .error .truncated
  /-- The contents of finite data are finite. -/
  finite : ∀ data, ∃ most, ∀ {state taken made}, inflater.Reaches data state taken made →
    made.length ≤ most

/-! ## One round -/

@[simp] theorem Buffer.bytes_push (buffer : Buffer) (made : List UInt8)
    (h : made.length ≤ buffer.room) : (buffer.push made h).bytes = buffer.bytes ++ made := rfl

@[simp] theorem Buffer.bytes_ensureRoom (allocator : Allocator) (buffer : Buffer) :
    (buffer.ensureRoom allocator).bytes = buffer.bytes := by
  unfold ensureRoom
  split
  · rfl
  · rfl

theorem Buffer.room_ensureRoom (allocator : Allocator) (buffer : Buffer) :
    leastRoom ≤ (buffer.ensureRoom allocator).room := by
  unfold ensureRoom
  split
  · have hreserve := allocator.le_reserve buffer.bytes.length buffer.capacity (64 * 1024)
    show 8 * 1024 ≤ allocator.reserve buffer.bytes.length buffer.capacity (64 * 1024) -
      buffer.bytes.length
    omega
  · next henough => exact Nat.le_of_not_lt henough

/-- All that can come of a round into a buffer with room. -/
inductive TurnOf (inflater : Inflater) (input : List UInt8) (session : Session inflater.State)
    (buffer : Buffer) : Turn inflater.State → Prop
  | rejected
      (hround : inflater.round? session.state (input.drop session.taken) buffer.room = none) :
      TurnOf inflater input session buffer (.fails (.stream .corrupt))
  | ended {round : Round inflater.State (input.drop session.taken) buffer.room}
      (hround : inflater.round? session.state (input.drop session.taken) buffer.room = some round)
      (hstatus : round.status = .streamEnd) :
      TurnOf inflater input session buffer
        (.ends (session.taken + round.taken) (buffer.push round.made round.made_le))
  | stalled {round : Round inflater.State (input.drop session.taken) buffer.room}
      (hround : inflater.round? session.state (input.drop session.taken) buffer.room = some round)
      (hstatus : round.status ≠ .streamEnd) (htaken : round.taken = 0) (hmade : round.made = []) :
      TurnOf inflater input session buffer (.fails (.stream .truncated))
  | wentOn {round : Round inflater.State (input.drop session.taken) buffer.room}
      (hround : inflater.round? session.state (input.drop session.taken) buffer.room = some round)
      (hstatus : round.status ≠ .streamEnd)
      (hprogress : 0 < round.taken ∨ 0 < round.made.length) :
      TurnOf inflater input session buffer
        (.goesOn ⟨round.state, session.taken + round.taken, buffer.push round.made round.made_le⟩)

section Loops

variable {inflater : Inflater} (allocator : Allocator)

theorem turnOf_roundInto {buffer : Buffer} (hroom : 0 < buffer.room) (input : List UInt8)
    (session : Session inflater.State) :
    TurnOf inflater input session buffer (roundInto inflater buffer input session) := by
  have hnext : ∀ round : Round inflater.State (input.drop session.taken) buffer.room,
      inflater.round? session.state (input.drop session.taken) buffer.room = some round →
      round.status ≠ .streamEnd →
      TurnOf inflater input session buffer
        (let taken := session.taken + round.taken
        let next := buffer.push round.made round.made_le
        let progressed := taken != session.taken || next.bytes.length != buffer.bytes.length
        if !progressed && next.bytes.length < next.capacity then .fails (.stream .truncated)
        else .goesOn ⟨round.state, taken, next⟩) := by
    intro round hround hstatus
    have hbytes : (buffer.push round.made round.made_le).bytes.length =
        buffer.bytes.length + round.made.length := by
      rw [Buffer.bytes_push, List.length_append]
    have hcapacity : buffer.bytes.length < (buffer.push round.made round.made_le).capacity := by
      rw [Buffer.room] at hroom
      exact Nat.lt_of_sub_pos hroom
    dsimp only
    by_cases hprogress : 0 < round.taken ∨ 0 < round.made.length
    · rw [if_neg]
      · exact .wentOn hround hstatus hprogress
      · rw [hbytes]
        simp only [Bool.and_eq_true, Bool.not_eq_true', Bool.or_eq_false_iff, bne_eq_false_iff_eq]
        omega
    · have htaken : round.taken = 0 := by omega
      have hmade : round.made = [] := List.length_eq_zero_iff.1 (by omega)
      have hlength : (buffer.push round.made round.made_le).bytes.length =
          buffer.bytes.length := by omega
      rw [if_pos]
      · exact .stalled hround hstatus htaken hmade
      · rw [hlength, htaken, decide_eq_true hcapacity, Nat.add_zero, bne_self_eq_false,
          bne_self_eq_false]
        rfl
  unfold roundInto
  cases hround : inflater.round? session.state (input.drop session.taken) buffer.room with
  | none => exact .rejected hround
  | some round =>
      dsimp only
      cases hstatus : round.status with
      | streamEnd => exact .ended hround hstatus
      | ok => exact hnext round hround (by rw [hstatus]; decide)
      | stuck => exact hnext round hround (by rw [hstatus]; decide)

theorem turnOf_turn (input : List UInt8) (session : Session inflater.State) :
    TurnOf inflater input session (session.buffer.ensureRoom allocator)
      (turn inflater allocator input session) :=
  turnOf_roundInto (Nat.lt_of_lt_of_le (by decide) (session.buffer.room_ensureRoom allocator))
    input session

/-- A round after which a stream goes on has taken bytes or made some. -/
theorem turn_progress {allocator : Allocator} {input : List UInt8}
    {session next : Session inflater.State}
    (h : turn inflater allocator input session = .goesOn next) :
    session.taken < next.taken ∨ session.buffer.bytes.length < next.buffer.bytes.length := by
  have hturn := turnOf_turn allocator input session
  rw [h] at hturn
  cases hturn with
  | wentOn hround hstatus hprogress =>
      simp only [Buffer.bytes_push, Buffer.bytes_ensureRoom, List.length_append]
      omega

/-! ## One stream -/

/-- The result of reading a stream behind some contents. -/
def ReadsTo (single : StreamReader) (data before : List UInt8)
    (result : Except Error (Nat × Buffer)) : Prop :=
  match single data with
  | .error fault => result = .error (.stream fault)
  | .ok (contents, rest) => ∃ taken buffer, result = .ok (taken, buffer) ∧
    data.drop taken = rest ∧ buffer.bytes = before ++ contents

theorem mem_readToEnd {data : List UInt8} {session : Session inflater.State}
    {result : Except Error (Nat × Buffer)}
    (h : (turn inflater allocator data session).outcome = .inl result) :
    result ∈ readToEnd inflater allocator data session :=
  PFun.fix_stop (Part.mem_some_iff.2 h.symm)

theorem readToEnd_of_goesOn {data : List UInt8} {session next : Session inflater.State}
    (h : turn inflater allocator data session = .goesOn next) :
    readToEnd inflater allocator data session = readToEnd inflater allocator data next := by
  apply PFun.fix_fwd_eq
  rw [h]
  exact Part.mem_some _

theorem readToEnd_spec {single : StreamReader} (hreads : inflater.Reads single)
    {data before made : List UInt8} (session : Session inflater.State)
    (hreached : inflater.Reaches data session.state session.taken made)
    (hbytes : session.buffer.bytes = before ++ made) :
    ∃ result ∈ readToEnd inflater allocator data session, ReadsTo single data before result := by
  obtain ⟨most, hmost⟩ := hreads.finite data
  -- Each round leaves fewer bytes to take or to make.
  induction hleft : data.length - session.taken + (most - made.length) using
    Nat.strongRecOn generalizing session made with
  | ind left ih =>
      have hroom : 0 < (session.buffer.ensureRoom allocator).room :=
        Nat.lt_of_lt_of_le (by decide) (session.buffer.room_ensureRoom allocator)
      have hturn := turnOf_turn allocator data session
      generalize hnext : turn inflater allocator data session = next at hturn
      cases hturn with
      | rejected hround =>
          refine ⟨_, mem_readToEnd allocator (congrArg Turn.outcome hnext), ?_⟩
          rw [ReadsTo, hreads.rejects hreached hround]
      | ended hround hstatus =>
          refine ⟨_, mem_readToEnd allocator (congrArg Turn.outcome hnext), ?_⟩
          rw [ReadsTo, hreads.ends hreached hround hstatus]
          refine ⟨_, _, rfl, rfl, ?_⟩
          rw [Buffer.bytes_push, Buffer.bytes_ensureRoom, hbytes, List.append_assoc]
      | stalled hround hstatus htaken hmade =>
          refine ⟨_, mem_readToEnd allocator (congrArg Turn.outcome hnext), ?_⟩
          rw [ReadsTo, hreads.stalls hreached hround hstatus htaken hmade hroom]
      | @wentOn round hround hstatus hprogress =>
          have hnextReached := hreached.round hround hstatus
          have hmore := hmost hnextReached
          have htaken := round.taken_le
          rw [List.length_drop] at htaken
          rw [List.length_append] at hmore
          rw [readToEnd_of_goesOn allocator hnext]
          refine ih _ ?_ _ hnextReached ?_ rfl
          · rw [← hleft, List.length_append]
            dsimp only
            omega
          · rw [Buffer.bytes_push, Buffer.bytes_ensureRoom, hbytes, List.append_assoc]

/-! ## All streams -/

theorem contentsWith_of_error {single : StreamReader} {data : List UInt8} {fault : Fault}
    (hmarker : data.head? = some marker) (h : single data = .error fault) :
    contentsWith single data = .error (.stream fault) := by
  rw [contentsWith, hmarker, if_pos (beq_self_eq_true _), h]

theorem contentsWith_of_ok {single : StreamReader} (hsequential : single.IsSequential)
    {data contents rest : List UInt8} (hmarker : data.head? = some marker)
    (h : single data = .ok (contents, rest)) :
    contentsWith single data = (contentsWith single rest).map (contents ++ ·) := by
  obtain ⟨stream, hstream, hdata⟩ := hsequential.takes h
  have hshorter : rest.length < data.length := by
    have hpositive := List.length_pos_iff.2 hstream
    rw [hdata, List.length_append]
    omega
  rw [contentsWith, hmarker, if_pos (beq_self_eq_true _), h]
  dsimp only
  rw [if_pos hshorter]

theorem contentsWith_of_ne {single : StreamReader} {data : List UInt8}
    (hmarker : data.head? ≠ some marker) : contentsWith single data = .ok [] := by
  rw [contentsWith, if_neg (by rwa [beq_iff_eq])]

theorem mem_readStreams {data : List UInt8} {consumed : Nat} {buffer : Buffer}
    {result : Except Error (Nat × Buffer)}
    (h : .inl result ∈ streamTurn inflater allocator data consumed buffer) :
    result ∈ readStreams inflater allocator data (consumed, buffer) :=
  PFun.fix_stop h

theorem readStreams_of_inr {data : List UInt8} {consumed more : Nat} {buffer next : Buffer}
    (h : .inr (more, next) ∈ streamTurn inflater allocator data consumed buffer) :
    readStreams inflater allocator data (consumed, buffer) =
      readStreams inflater allocator data (more, next) :=
  PFun.fix_fwd_eq h

theorem streamTurn_of_ne {data : List UInt8} {consumed : Nat} (h : data[consumed]? ≠ some marker)
    (buffer : Buffer) : streamTurn inflater allocator data consumed buffer =
      Part.some (.inl (.ok (consumed, buffer))) := by
  rw [streamTurn, if_neg (by rwa [beq_iff_eq])]

theorem mem_streamTurn {data : List UInt8} {consumed : Nat} {buffer : Buffer}
    {result : Except Error (Nat × Buffer)} (h : data[consumed]? = some marker)
    (hresult : result ∈
      readToEnd inflater allocator (data.drop consumed) ⟨inflater.start, 0, buffer⟩) :
    afterStream consumed result ∈ streamTurn inflater allocator data consumed buffer := by
  rw [streamTurn, if_pos (beq_iff_eq.2 h)]
  exact Part.mem_map _ hresult

/-- What reading the stream at some place comes to, behind some contents. -/
def TurnsTo (single : StreamReader) (data : List UInt8) (consumed : Nat) (before : List UInt8)
    (turn : Part (Except Error (Nat × Buffer) ⊕ Nat × Buffer)) : Prop :=
  match single (data.drop consumed) with
  | .error fault => .inl (.error (.stream fault)) ∈ turn
  | .ok (contents, rest) => ∃ next buffer, .inr (next, buffer) ∈ turn ∧ consumed < next ∧
    data.drop next = rest ∧ buffer.bytes = before ++ contents

theorem streamTurn_spec {single : StreamReader} (hreads : inflater.Reads single)
    (hsequential : single.IsSequential) {data : List UInt8} {consumed : Nat}
    (hmarker : data[consumed]? = some marker) (buffer : Buffer) :
    TurnsTo single data consumed buffer.bytes
      (streamTurn inflater allocator data consumed buffer) := by
  have hstart : inflater.Reaches (data.drop consumed) inflater.start 0 [] := .start
  obtain ⟨result, hresult, hreadsTo⟩ := readToEnd_spec allocator hreads
    ⟨inflater.start, 0, buffer⟩ hstart (List.append_nil _).symm
  have hturn := mem_streamTurn allocator hmarker hresult
  unfold ReadsTo at hreadsTo
  unfold TurnsTo
  cases hsingle : single (data.drop consumed) with
  | error fault =>
      rw [hsingle] at hreadsTo
      rwa [hreadsTo] at hturn
  | ok found =>
      obtain ⟨contents, rest⟩ := found
      rw [hsingle] at hreadsTo
      obtain ⟨taken, next, rfl, hrest, hbytes⟩ := hreadsTo
      obtain ⟨stream, hstream, hdata⟩ := hsequential.takes hsingle
      have htaken : taken ≠ 0 := by
        rintro rfl
        rw [List.drop_zero, hdata] at hrest
        exact hstream (List.append_left_eq_self.1 hrest)
      rw [afterStream, if_neg (by rwa [beq_iff_eq])] at hturn
      rw [List.drop_drop] at hrest
      exact ⟨consumed + taken, next, hturn, by omega, hrest, hbytes⟩

/-- The result of reading streams from some place on, behind some contents. -/
def StreamsTo (single : StreamReader) (data : List UInt8) (consumed : Nat) (before : List UInt8)
    (result : Except Error (Nat × Buffer)) : Prop :=
  match contentsWith single (data.drop consumed) with
  | .error error => result = .error error
  | .ok contents => ∃ finish buffer, result = .ok (finish, buffer) ∧
    buffer.bytes = before ++ contents ∧ consumed ≤ finish ∧
    (consumed < finish ↔ data[consumed]? = some marker)

theorem readStreams_spec {single : StreamReader} (hreads : inflater.Reads single)
    (hsequential : single.IsSequential) (data : List UInt8) (consumed : Nat) (buffer : Buffer) :
    ∃ result ∈ readStreams inflater allocator data (consumed, buffer),
      StreamsTo single data consumed buffer.bytes result := by
  induction hleft : data.length - consumed using Nat.strongRecOn generalizing consumed buffer with
  | ind left ih =>
      have hhead : (data.drop consumed).head? = data[consumed]? := List.head?_drop
      by_cases hmarker : data[consumed]? = some marker
      · rw [hmarker] at hhead
        have hturn := streamTurn_spec allocator hreads hsequential hmarker buffer
        unfold TurnsTo at hturn
        cases hsingle : single (data.drop consumed) with
        | error fault =>
            rw [hsingle] at hturn
            refine ⟨_, mem_readStreams allocator hturn, ?_⟩
            rw [StreamsTo, contentsWith_of_error hhead hsingle]
        | ok found =>
            obtain ⟨contents, rest⟩ := found
            rw [hsingle] at hturn
            obtain ⟨next, filled, hmem, hlt, hrest, hfilled⟩ := hturn
            have hinside : consumed < data.length := (List.getElem?_eq_some_iff.1 hmarker).1
            obtain ⟨result, hresult, hfound⟩ :=
              ih (data.length - next) (by omega) next filled rfl
            refine ⟨result, by rwa [readStreams_of_inr allocator hmem], ?_⟩
            rw [StreamsTo, hrest] at hfound
            rw [StreamsTo, contentsWith_of_ok hsequential hhead hsingle]
            cases hcontents : contentsWith single rest with
            | error error =>
                rw [hcontents] at hfound
                exact hfound
            | ok more =>
                rw [hcontents] at hfound
                obtain ⟨finish, last, hlast, hbytes, hle, -⟩ := hfound
                refine ⟨finish, last, hlast, ?_, by omega, iff_of_true (by omega) hmarker⟩
                rw [hbytes, hfilled, List.append_assoc]
      · have hturn : .inl (.ok (consumed, buffer)) ∈
            streamTurn inflater allocator data consumed buffer := by
          rw [streamTurn_of_ne allocator hmarker]
          exact Part.mem_some _
        refine ⟨_, mem_readStreams allocator hturn, ?_⟩
        rw [StreamsTo, contentsWith_of_ne (by rwa [hhead])]
        exact ⟨consumed, buffer, rfl, (List.append_nil _).symm, Nat.le_refl _,
          iff_of_false (Nat.lt_irrefl _) hmarker⟩

/-- Reading in rounds comes to an end, and to what reading at once finds. -/
theorem inflateInRounds_eq {single : StreamReader} (hreads : inflater.Reads single)
    (hsequential : single.IsSequential) (data : List UInt8) :
    inflateInRounds inflater allocator data = Part.some (inflateWith single data) := by
  obtain ⟨result, hresult, hfound⟩ := readStreams_spec allocator hreads hsequential
    data 0 (.empty (allocator.create (4 * data.length)))
  rw [StreamsTo, List.drop_zero, ← List.head?_eq_getElem?] at hfound
  have hcontents : contentsOf result = inflateWith single data := by
    rw [inflateWith]
    by_cases hmarker : data.head? = some marker
    · rw [hmarker, if_pos (beq_self_eq_true _)]
      cases hcontents : contentsWith single data with
      | error error =>
          rw [hcontents] at hfound
          rw [hfound]
          rfl
      | ok contents =>
          rw [hcontents] at hfound
          obtain ⟨finish, buffer, rfl, hbytes, -, hfinish⟩ := hfound
          have hpositive := hfinish.2 hmarker
          rw [contentsOf, if_neg (by rw [beq_iff_eq]; omega), hbytes]
          rfl
    · rw [contentsWith_of_ne hmarker] at hfound
      obtain ⟨finish, buffer, rfl, -, -, hfinish⟩ := hfound
      have hzero : finish = 0 := by
        have hnot := mt hfinish.1 hmarker
        omega
      rw [if_neg (by rwa [beq_iff_eq]), hzero]
      rfl
  rw [← hcontents, Part.eq_some_iff]
  exact Part.mem_map _ hresult

end Loops

/-! ## A decompressor that reads at once -/

namespace Inflater

variable {single : StreamReader}

/-- What a decompressor that reads at once still has to hand out. -/
def Holds (single : StreamReader) (data : List UInt8) (state : Pending) (taken : Nat)
    (made : List UInt8) : Prop :=
  match state with
  | .unread => taken = 0 ∧ made = []
  | .contents left => left ≠ [] ∧ single data = .ok (made ++ left, data.drop taken)

theorem drop_length_sub {data rest : List UInt8}
    (h : ∃ stream, stream ≠ [] ∧ data = stream ++ rest) :
    0 < data.length - rest.length ∧ data.drop (data.length - rest.length) = rest := by
  obtain ⟨stream, hstream, rfl⟩ := h
  have hpositive := List.length_pos_iff.2 hstream
  rw [List.length_append, Nat.add_sub_cancel, List.drop_left]
  exact ⟨hpositive, rfl⟩

/-- Handing out contents in one round leaves the others to be handed out. -/
theorem holds_handOut {data made contents : List UInt8} {taken more room : Nat}
    {input : List UInt8} (h : more ≤ input.length)
    (hsingle : single data = .ok (made ++ contents, data.drop (taken + more)))
    (hstatus : (handOut contents room h).status ≠ .streamEnd) :
    Holds single data (handOut contents room h).state (taken + more)
      (made ++ (handOut contents room h).made) := by
  have hroom : room < contents.length := Nat.lt_of_not_le fun hle => hstatus (if_pos hle)
  constructor
  · rw [← List.length_pos_iff, List.length_drop]
    omega
  · rw [hsingle, handOut, List.append_assoc, List.take_append_drop]

theorem made_handOut_of_streamEnd {contents input : List UInt8} {more room : Nat}
    (h : more ≤ input.length) (hstatus : (handOut contents room h).status = .streamEnd) :
    (handOut contents room h).made = contents := by
  have hroom : contents.length ≤ room := by
    by_cases hle : contents.length ≤ room
    · exact hle
    · cases hstatus.symm.trans (if_neg hle)
  exact List.take_of_length_le hroom

/-- All that can come of a round of reading at once. -/
inductive RoundOf (single : StreamReader) (data : List UInt8) (taken : Nat) (made : List UInt8)
    (room : Nat) : Option (Round Pending (data.drop taken) room) → Prop
  | rejected (hsingle : single data = .error .corrupt) : RoundOf single data taken made room none
  | stalled (hsingle : single data = .error .truncated) (htaken : taken = 0) (hmade : made = []) :
      RoundOf single data taken made room
        (some ⟨.unread, 0, [], .stuck, Nat.zero_le _, Nat.zero_le _⟩)
  | handed {contents : List UInt8} {more : Nat} (h : more ≤ (data.drop taken).length)
      (hsingle : single data = .ok (made ++ contents, data.drop (taken + more)))
      (hsome : 0 < more ∨ contents ≠ []) :
      RoundOf single data taken made room (some (handOut contents room h))

theorem roundOf_round? (hsequential : single.IsSequential) {data made : List UInt8}
    {state : (ofReader single).State} {taken : Nat} (hholds : Holds single data state taken made)
    (room : Nat) :
    RoundOf single data taken made room
      ((ofReader single).round? state (data.drop taken) room) := by
  cases state with
  | contents left =>
      obtain ⟨hleft, hsingle⟩ := hholds
      exact .handed (Nat.zero_le _) hsingle (.inr hleft)
  | unread =>
      obtain ⟨rfl, rfl⟩ := hholds
      unfold ofReader
      dsimp only
      cases hsingle : single (data.drop 0) with
      | error fault =>
          cases fault with
          | corrupt => exact .rejected hsingle
          | truncated => exact .stalled hsingle rfl rfl
      | ok found =>
          obtain ⟨contents, rest⟩ := found
          obtain ⟨hmore, hrest⟩ := drop_length_sub (hsequential.takes hsingle)
          refine .handed (Nat.sub_le _ rest.length) ?_ (.inl hmore)
          rw [List.drop_zero] at hsingle hrest
          rw [hsingle, Nat.zero_add, List.nil_append, List.drop_zero, hrest]

theorem holds_of_reaches (hsequential : single.IsSequential) {data made : List UInt8}
    {state : (ofReader single).State} {taken : Nat}
    (h : (ofReader single).Reaches data state taken made) :
    Holds single data state taken made := by
  induction h with
  | start => exact ⟨rfl, rfl⟩
  | @round state taken room made round hreached hround hstatus ih =>
      have hof := roundOf_round? hsequential ih room
      rw [hround] at hof
      cases hof with
      | stalled hsingle htaken hmade =>
          rw [htaken, hmade]
          exact ⟨rfl, rfl⟩
      | handed h hsingle hsome => exact holds_handOut h hsingle hstatus

theorem ofReader_reads (hsequential : single.IsSequential) : (ofReader single).Reads single where
  rejects := by
    intro data state taken made room hreached hround
    have hof := roundOf_round? hsequential (holds_of_reaches hsequential hreached) room
    rw [hround] at hof
    cases hof with
    | rejected hsingle => exact hsingle
  ends := by
    intro data state taken made room round hreached hround hstatus
    have hof := roundOf_round? hsequential (holds_of_reaches hsequential hreached) room
    rw [hround] at hof
    cases hof with
    | stalled hsingle htaken hmade => cases hstatus
    | @handed contents more h hsingle hsome =>
        rw [hsingle, made_handOut_of_streamEnd h hstatus]
        rfl
  stalls := by
    intro data state taken made room round hreached hround hstatus htaken hmade hroom
    have hof := roundOf_round? hsequential (holds_of_reaches hsequential hreached) room
    rw [hround] at hof
    cases hof with
    | stalled hsingle => exact hsingle
    | @handed contents more h hsingle hsome =>
        have hmore : ¬0 < more := Nat.not_lt.2 (Nat.le_of_eq htaken)
        have hlength : (contents.take room).length = 0 := congrArg List.length hmade
        rw [List.length_take] at hlength
        have hpositive := List.length_pos_iff.2 (hsome.resolve_left hmore)
        omega
  finite := by
    intro data
    refine ⟨match single data with | .error _ => 0 | .ok (contents, _) => contents.length, ?_⟩
    intro state taken made hreached
    have hholds := holds_of_reaches hsequential hreached
    cases state with
    | unread =>
        rw [hholds.2]
        exact Nat.zero_le _
    | contents left =>
        rw [hholds.2]
        dsimp only
        rw [List.length_append]
        omega

end Inflater

end WeatherRadar.Zlib
