import WeatherRadar.Proofs.Level3.HeadingWords
import WeatherRadar.Proofs.Level3.Reads
import WeatherRadar.Proofs.Text.Trimming
/-!
# The grammar of headings

A heading is well formed when its parts are words of the sizes and classes that the grammar has,
and it may be spelled with any ends of lines.  What is read at the start of some bytes is a heading
exactly when a spelling of it stands there (`read_eq_ok_iff`), so that no byte behind a heading is
ever taken for a part of it.
-/

namespace WeatherRadar.Level3.Heading

variable {isByte : UInt8 → Bool} {isChar : Char → Bool} {least most : Nat} {s : String}

/-! ## Pieces -/

section Pieces

variable {α : Type} {bytes rest word : List UInt8}

theorem optional_of_ok {p : Piece α} {a : α} (h : p bytes = .ok (a, rest)) :
    optional p bytes = .ok (some a, rest) := by
  simp only [optional, h]

theorem optional_of_error {p : Piece α} {fault : Expected × List UInt8}
    (h : p bytes = .error fault) : optional p bytes = .ok (none, bytes) := by
  simp only [optional, h]

/-- Bytes of a class are read up to the greatest number, or up to a byte that is of another
class. -/
theorem counted_append (hleast : least ≤ word.length) (hmost : word.length ≤ most)
    (hword : ∀ b ∈ word, isByte b = true)
    (hend : word.length = most ∨ ∀ b ∈ rest.head?, isByte b = false) :
    counted least most isByte (word ++ rest) = .ok (word, rest) := by
  have htaken : ((word ++ rest).take most).takeWhile isByte = word := by
    rcases hend with rfl | hrest
    · rw [List.take_left]
      simpa using takeWhile_run hword (show ∀ b ∈ ([] : List UInt8).head?, _ by simp)
    · rw [List.take_append, List.take_of_length_le hmost]
      apply takeWhile_run hword
      intro b hb
      cases rest with
      | nil => simp at hb
      | cons c rest =>
          cases hmore : most - word.length with
          | zero => simp [hmore] at hb
          | succ more =>
              rw [hmore] at hb
              exact hrest b hb
  simp only [counted, htaken]
  rw [if_neg (Nat.not_lt.2 hleast), List.drop_left]

theorem oneOrMore_append (hne : word ≠ []) (hword : ∀ b ∈ word, isByte b = true)
    (hrest : ∀ b ∈ rest.head?, isByte b = false) :
    oneOrMore isByte (word ++ rest) = .ok (word, rest) := by
  simp only [oneOrMore, takeWhile_run hword hrest, dropWhile_run hword hrest]
  rw [if_neg (by simpa using hne)]

theorem byte_cons (b : UInt8) : byte b (b :: rest) = .ok ((), rest) := by
  simp [byte]

theorem takeWhile_all : ∀ b ∈ bytes.takeWhile isByte, isByte b = true :=
  List.all_eq_true.1 List.all_takeWhile

/-- What is read as a number of bytes of a class. -/
theorem of_counted_eq_ok (h : counted least most isByte bytes = .ok (word, rest)) :
    bytes = word ++ rest ∧ least ≤ word.length ∧ word.length ≤ most ∧
      ∀ b ∈ word, isByte b = true := by
  simp only [counted] at h
  split at h
  · cases h
  · rename_i hleast
    obtain ⟨rfl, rfl⟩ := Prod.mk.inj (Except.ok.inj h)
    have hfront := List.takeWhile_prefix isByte (l := bytes.take most)
    refine ⟨?_, Nat.not_lt.1 hleast, ?_, takeWhile_all⟩
    · exact (List.prefix_iff_eq_append.1 (hfront.trans (List.take_prefix most bytes))).symm
    · exact Nat.le_trans hfront.length_le (List.length_take_le most bytes)

/-- What is read as one or more bytes of a class. -/
theorem of_oneOrMore_eq_ok (h : oneOrMore isByte bytes = .ok (word, rest)) :
    bytes = word ++ rest ∧ 1 ≤ word.length ∧ ∀ b ∈ word, isByte b = true := by
  simp only [oneOrMore] at h
  split at h
  · cases h
  · rename_i hne
    obtain ⟨rfl, rfl⟩ := Prod.mk.inj (Except.ok.inj h)
    refine ⟨List.takeWhile_append_dropWhile.symm, List.length_pos_iff.2 ?_, takeWhile_all⟩
    simpa using hne

theorem of_byte_eq_ok {b : UInt8} {found : Unit} (h : byte b bytes = .ok (found, rest)) :
    bytes = b :: rest := by
  cases bytes with
  | nil => cases h
  | cons c bytes =>
      simp only [byte] at h
      split at h
      · rename_i hsame
        obtain ⟨-, rfl⟩ := Prod.mk.inj (Except.ok.inj h)
        rw [beq_iff_eq.1 hsame]
      · cases h

/-- What is read as a piece that may be missing. -/
theorem of_optional_eq_ok {p : Piece α} {found : Option α}
    (h : optional p bytes = .ok (found, rest)) :
    (∃ a, found = some a ∧ p bytes = .ok (a, rest)) ∨ (found = none ∧ bytes = rest) := by
  cases hp : p bytes with
  | error fault =>
      rw [optional_of_error hp] at h
      obtain ⟨rfl, rfl⟩ := Prod.mk.inj (Except.ok.inj h)
      exact Or.inr ⟨rfl, rfl⟩
  | ok step =>
      rw [optional_of_ok (show p bytes = .ok (step.1, step.2) from hp)] at h
      obtain ⟨rfl, rfl⟩ := Prod.mk.inj (Except.ok.inj h)
      exact Or.inl ⟨step.1, rfl, rfl⟩

end Pieces

/-! ## Ends of lines -/

/-- An end of a line: blanks, a carriage return, more of them, and a line feed. -/
structure LineEnd where
  blankCount : Nat
  moreReturns : Nat

namespace LineEnd

variable {rest : List UInt8}

def bytes (e : LineEnd) : List UInt8 :=
  List.replicate e.blankCount 0x20 ++ 0x0D :: (List.replicate e.moreReturns 0x0D ++ [0x0A])

theorem bytes_append (e : LineEnd) : e.bytes ++ rest =
    List.replicate e.blankCount 0x20 ++
      ((0x0D :: List.replicate e.moreReturns 0x0D) ++ 0x0A :: rest) := by
  simp [bytes]

theorem read (e : LineEnd) : lineEnd (e.bytes ++ rest) = .ok ((), rest) := by
  have hblanks : ∀ b ∈ List.replicate e.blankCount (0x20 : UInt8), (b == 0x20) = true := by
    intro b hb
    rw [List.eq_of_mem_replicate hb]
    rfl
  have hreturns : ∀ b ∈ 0x0D :: List.replicate e.moreReturns (0x0D : UInt8),
      (b == 0x0D) = true := by
    intro b hb
    rcases List.mem_cons.1 hb with rfl | hmore
    · rfl
    · rw [List.eq_of_mem_replicate hmore]
      rfl
  have hblank : blanks (e.bytes ++ rest) =
      .ok ((), (0x0D :: List.replicate e.moreReturns 0x0D) ++ 0x0A :: rest) := by
    rw [bytes_append, blanks, List.cons_append, dropWhile_run hblanks (head?_cons rfl)]
  rw [lineEnd, bind_of_ok hblank,
    bind_of_ok (oneOrMore_append (by simp) hreturns (head?_cons rfl)), byte_cons]

/-- Whatever is read as an end of a line is one. -/
theorem of_read {input : List UInt8} {found : Unit} (h : lineEnd input = .ok (found, rest)) :
    ∃ e : LineEnd, input = e.bytes ++ rest := by
  rw [lineEnd] at h
  obtain ⟨_, rest1, hblanks, h⟩ := bind_eq_ok.1 h
  obtain ⟨returns, rest2, hreturns, hfeed⟩ := bind_eq_ok.1 h
  obtain ⟨-, rfl⟩ := Prod.mk.inj (Except.ok.inj hblanks)
  obtain ⟨hsplit, hsome, hall⟩ := of_oneOrMore_eq_ok hreturns
  have hblank : input.takeWhile (· == 0x20) =
      List.replicate (input.takeWhile (· == 0x20)).length 0x20 := by
    rw [List.eq_replicate_iff]
    exact ⟨rfl, fun b hb => beq_iff_eq.1 (takeWhile_all b hb)⟩
  have hreturn : returns = 0x0D :: List.replicate (returns.length - 1) 0x0D := by
    rw [← List.replicate_succ, Nat.sub_add_cancel hsome, List.eq_replicate_iff]
    exact ⟨rfl, fun b hb => beq_iff_eq.1 (hall b hb)⟩
  refine ⟨⟨(input.takeWhile (· == 0x20)).length, returns.length - 1⟩, ?_⟩
  calc input
      = input.takeWhile (· == 0x20) ++ input.dropWhile (· == 0x20) :=
        List.takeWhile_append_dropWhile.symm
    _ = input.takeWhile (· == 0x20) ++ (returns ++ 0x0A :: rest) := by
        rw [hsplit, of_byte_eq_ok hfeed]
    _ = bytes ⟨(input.takeWhile (· == 0x20)).length, returns.length - 1⟩ ++ rest := by
        rw [bytes_append, ← hblank, ← hreturn]

/-- An end of a line begins with a blank or a carriage return. -/
theorem bytes_eq_cons (e : LineEnd) : ∃ b tail, e.bytes = b :: tail ∧ (b = 0x20 ∨ b = 0x0D) := by
  rw [bytes]
  cases e.blankCount with
  | zero => exact ⟨_, _, rfl, Or.inr rfl⟩
  | succ more => exact ⟨_, _, rfl, Or.inl rfl⟩

/-- A word ends where a line does. -/
theorem head?_bytes (e : LineEnd) (hblank : isByte 0x20 = false) (hreturn : isByte 0x0D = false) :
    ∀ b ∈ (e.bytes ++ rest).head?, isByte b = false := by
  obtain ⟨b, tail, hbytes, hb⟩ := e.bytes_eq_cons
  rw [hbytes, List.cons_append]
  rcases hb with rfl | rfl
  · exact head?_cons hblank
  · exact head?_cons hreturn

theorem bytes_lt (e : LineEnd) : ∀ b ∈ e.bytes, b.toNat < 128 := by
  intro b hb
  simp only [bytes, List.mem_append, List.mem_cons, List.mem_replicate, List.not_mem_nil,
    or_false] at hb
  rcases hb with ⟨-, rfl⟩ | rfl | ⟨-, rfl⟩ | rfl
  · decide
  · decide
  · decide
  · decide

end LineEnd

/-- How the lines of a heading end; the first two ends only stand where there is a transmission
number. -/
structure LineEnds where
  afterMark : LineEnd
  afterNumber : LineEnd
  afterTime : LineEnd
  afterDesignator : LineEnd

def LineEnds.written : LineEnds := ⟨⟨0, 1⟩, ⟨1, 1⟩, ⟨0, 1⟩, ⟨0, 1⟩⟩

/-! ## Whole headings -/

/-- A heading whose parts are words of the sizes and classes that the grammar has. -/
structure WellFormed (h : Heading) : Prop where
  sequenceNumber : ∀ number ∈ h.sequenceNumber, IsWord Char.isDigit 1 number.length number
  dataType : IsWord Char.isAlphanum 6 6 h.dataType
  office : IsWord Char.isAlphanum 4 4 h.office
  dateTime : IsWord Char.isDigit 6 6 h.dateTime
  amendment : ∀ mark ∈ h.amendment, IsWord Char.isAlphanum 3 3 mark
  category : IsWord Char.isAlphanum 3 3 h.category
  designator : IsWord Char.isAlphanum 1 3 h.designator

def sequencePart (ends : LineEnds) : Option String → List UInt8
  | some number => 0x01 :: (ends.afterMark.bytes ++ (Utf8.encode number ++ ends.afterNumber.bytes))
  | none => []

def amendmentPart : Option String → List UInt8
  | some mark => 0x20 :: Utf8.encode mark
  | none => []

/-- A heading with certain ends of lines. -/
def spelled (ends : LineEnds) (h : Heading) : List UInt8 :=
  sequencePart ends h.sequenceNumber ++
    (Utf8.encode h.dataType ++ 0x20 :: (Utf8.encode h.office ++ 0x20 :: (Utf8.encode h.dateTime ++
      (amendmentPart h.amendment ++ (ends.afterTime.bytes ++ (Utf8.encode h.category ++
        (Utf8.encode h.designator ++ ends.afterDesignator.bytes)))))))

/-- A heading is well formed, and some bytes spell it. -/
def IsSpelled (h : Heading) (bytes : List UInt8) : Prop :=
  h.WellFormed ∧ ∃ ends, bytes = h.spelled ends

theorem isSpelled_toBytes {h : Heading} (hwell : h.WellFormed) : h.IsSpelled h.toBytes := by
  refine ⟨hwell, .written, ?_⟩
  obtain ⟨sequenceNumber, _, _, _, amendment, _, _⟩ := h
  cases sequenceNumber with
  | none => cases amendment <;> simp [toBytes, spelled, sequencePart, amendmentPart,
      LineEnds.written, LineEnd.bytes, writtenLineEnd]
  | some number => cases amendment <;> simp [toBytes, spelled, sequencePart, amendmentPart,
      LineEnds.written, LineEnd.bytes, writtenLineEnd]

/-! ## Spellings are read -/

section Complete

variable {rest : List UInt8}

/-- A word of a fixed size is read whatever follows. -/
theorem counted_word {size : Nat} (hclass : SameClass isByte isChar)
    (hs : IsWord isChar size size s) :
    counted size size isByte (Utf8.encode s ++ rest) = .ok (Utf8.encode s, rest) := by
  have hlength : (Utf8.encode s).length = size := by
    rw [hs.length_encode hclass]
    exact Nat.le_antisymm hs.2.1 hs.1
  exact counted_append (Nat.le_of_eq hlength.symm) (Nat.le_of_eq hlength) (hs.all_encode hclass)
    (Or.inl hlength)

theorem optional_sequenceLine {h : Heading} (hwell : h.WellFormed) (ends : LineEnds) :
    optional sequenceLine (sequencePart ends h.sequenceNumber ++ (Utf8.encode h.dataType ++ rest)) =
      .ok (h.sequenceNumber, Utf8.encode h.dataType ++ rest) := by
  cases hsequence : h.sequenceNumber with
  | none =>
      obtain ⟨first, tail, hdata, hfirst⟩ :=
        hwell.dataType.encode_eq_cons sameClass_alphanumeric (by decide)
      have hne : (first == 0x01) = false := by
        rw [beq_eq_false_iff_ne]
        rintro rfl
        cases hfirst
      apply optional_of_error
      rw [hdata]
      simp only [sequencePart, List.nil_append, List.cons_append, sequenceLine, byte, bind,
        StateT.bind, hne, Except.bind]
      rfl
  | some number =>
      have hnumber := hwell.sequenceNumber number hsequence
      have hne : Utf8.encode number ≠ [] := by
        apply List.ne_nil_of_length_pos
        rw [hnumber.length_encode sameClass_digit]
        exact hnumber.1
      apply optional_of_ok
      rw [sequencePart, List.cons_append, List.append_assoc, List.append_assoc, sequenceLine,
        bind_of_ok (byte_cons 0x01), bind_of_ok ends.afterMark.read,
        bind_of_ok (oneOrMore_append hne (hnumber.all_encode sameClass_digit)
          (ends.afterNumber.head?_bytes rfl rfl)),
        bind_of_ok ends.afterNumber.read, asciiText_encode (hnumber.lt sameClass_digit)]
      rfl

/-- The mark of a heading, or none: the end of the line is not taken for a mark. -/
theorem optional_amendmentMark {h : Heading} (hwell : h.WellFormed) (e : LineEnd) :
    optional amendmentMark (amendmentPart h.amendment ++ (e.bytes ++ rest)) =
      .ok (h.amendment, e.bytes ++ rest) := by
  cases hamendment : h.amendment with
  | none =>
      rw [amendmentPart, List.nil_append]
      obtain ⟨blankCount, moreReturns⟩ := e
      cases blankCount with
      | zero => rfl
      | succ more =>
          -- A blank begins a mark, but the byte behind it does not belong to one.
          obtain ⟨b, tail, hbytes, hb⟩ := LineEnd.bytes_eq_cons ⟨more, moreReturns⟩
          have hblank : LineEnd.bytes ⟨more + 1, moreReturns⟩ = 0x20 :: b :: tail := by
            rw [← hbytes]
            rfl
          rw [hblank]
          rcases hb with rfl | rfl
          · rfl
          · rfl
  | some mark =>
      have hmark := hwell.amendment mark hamendment
      apply optional_of_ok
      rw [amendmentPart, List.cons_append, amendmentMark, bind_of_ok (byte_cons 0x20),
        bind_of_ok (counted_word sameClass_alphanumeric hmark),
        asciiText_encode (hmark.lt sameClass_alphanumeric)]
      rfl

/-- A spelling of a heading is read whatever follows. -/
theorem piece_spelled {h : Heading} (hwell : h.WellFormed) (ends : LineEnds) :
    piece (h.spelled ends ++ rest) = .ok (h, rest) := by
  have hdesignator : counted 1 3 isAlphanumeric (Utf8.encode h.designator ++
      (ends.afterDesignator.bytes ++ rest)) =
        .ok (Utf8.encode h.designator, ends.afterDesignator.bytes ++ rest) := by
    have hlength := hwell.designator.length_encode sameClass_alphanumeric
    apply counted_append (hlength ▸ hwell.designator.1) (hlength ▸ hwell.designator.2.1)
      (hwell.designator.all_encode sameClass_alphanumeric)
    exact Or.inr (ends.afterDesignator.head?_bytes rfl rfl)
  simp only [spelled, List.append_assoc, List.cons_append]
  rw [piece, bind_of_ok (optional_sequenceLine hwell ends),
    bind_of_ok (counted_word sameClass_alphanumeric hwell.dataType), bind_of_ok (byte_cons 0x20),
    bind_of_ok (counted_word sameClass_alphanumeric hwell.office), bind_of_ok (byte_cons 0x20),
    bind_of_ok (counted_word sameClass_digit hwell.dateTime),
    bind_of_ok (optional_amendmentMark hwell ends.afterTime), bind_of_ok ends.afterTime.read,
    bind_of_ok (counted_word sameClass_alphanumeric hwell.category), bind_of_ok hdesignator,
    bind_of_ok ends.afterDesignator.read,
    asciiText_encode (hwell.dataType.lt sameClass_alphanumeric),
    asciiText_encode (hwell.office.lt sameClass_alphanumeric),
    asciiText_encode (hwell.dateTime.lt sameClass_digit),
    asciiText_encode (hwell.category.lt sameClass_alphanumeric),
    asciiText_encode (hwell.designator.lt sameClass_alphanumeric)]
  rfl

theorem read_spelled {head : List UInt8} {h : Heading} (hhead : h.IsSpelled head)
    (rest : List UInt8) : read (head ++ rest) = .ok (h, rest) := by
  obtain ⟨hwell, ends, rfl⟩ := hhead
  simp only [read, piece_spelled hwell]

end Complete

/-! ## What is read is a spelling -/

section Sound

variable {bytes rest : List UInt8}

theorem encode_asciiText_of_class (hclass : SameClass isByte isChar) {word : List UInt8}
    (hword : ∀ b ∈ word, isByte b = true) : Utf8.encode (asciiText word) = word :=
  encode_asciiText fun b hb => (hclass.char b (hword b hb)).1

/-- Bytes of a class that are read spell a word. -/
theorem word_of_counted (hclass : SameClass isByte isChar) {word : List UInt8}
    (h : counted least most isByte bytes = .ok (word, rest)) :
    bytes = Utf8.encode (asciiText word) ++ rest ∧ IsWord isChar least most (asciiText word) := by
  obtain ⟨hsplit, hleast, hmost, hall⟩ := of_counted_eq_ok h
  rw [encode_asciiText_of_class hclass hall]
  exact ⟨hsplit, isWord_asciiText hclass hleast hmost hall⟩

theorem of_sequenceLine_eq_ok {number : String} (h : sequenceLine bytes = .ok (number, rest)) :
    IsWord Char.isDigit 1 number.length number ∧ ∃ afterMark afterNumber : LineEnd,
      bytes = 0x01 :: (afterMark.bytes ++ (Utf8.encode number ++ afterNumber.bytes)) ++ rest := by
  rw [sequenceLine] at h
  obtain ⟨_, rest1, hmark, h⟩ := bind_eq_ok.1 h
  obtain ⟨_, rest2, hfirst, h⟩ := bind_eq_ok.1 h
  obtain ⟨digits, rest3, hdigits, h⟩ := bind_eq_ok.1 h
  obtain ⟨_, rest4, hsecond, h⟩ := bind_eq_ok.1 h
  obtain ⟨rfl, rfl⟩ := Prod.mk.inj (Except.ok.inj h)
  obtain ⟨afterMark, hfirst⟩ := LineEnd.of_read hfirst
  obtain ⟨afterNumber, hsecond⟩ := LineEnd.of_read hsecond
  obtain ⟨hsplit, hsome, hall⟩ := of_oneOrMore_eq_ok hdigits
  refine ⟨isWord_asciiText sameClass_digit hsome (by simp [asciiText]) hall, afterMark,
    afterNumber, ?_⟩
  rw [of_byte_eq_ok hmark, hfirst, hsplit, hsecond, encode_asciiText_of_class sameClass_digit hall]
  simp

theorem of_amendmentMark_eq_ok {mark : String} (h : amendmentMark bytes = .ok (mark, rest)) :
    IsWord Char.isAlphanum 3 3 mark ∧ bytes = 0x20 :: (Utf8.encode mark ++ rest) := by
  rw [amendmentMark] at h
  obtain ⟨_, rest1, hblank, h⟩ := bind_eq_ok.1 h
  obtain ⟨letters, rest2, hletters, h⟩ := bind_eq_ok.1 h
  obtain ⟨rfl, rfl⟩ := Prod.mk.inj (Except.ok.inj h)
  obtain ⟨hsplit, hword⟩ := word_of_counted sameClass_alphanumeric hletters
  refine ⟨hword, ?_⟩
  rw [of_byte_eq_ok hblank, ← hsplit]

theorem of_optional_sequenceLine {sequenceNumber : Option String}
    (h : optional sequenceLine bytes = .ok (sequenceNumber, rest)) :
    (∀ number ∈ sequenceNumber, IsWord Char.isDigit 1 number.length number) ∧
      ∃ afterMark afterNumber, ∀ afterTime afterDesignator,
        bytes = sequencePart ⟨afterMark, afterNumber, afterTime, afterDesignator⟩ sequenceNumber ++
          rest := by
  rcases of_optional_eq_ok h with ⟨number, rfl, hline⟩ | ⟨rfl, rfl⟩
  · obtain ⟨hword, afterMark, afterNumber, hsplit⟩ := of_sequenceLine_eq_ok hline
    refine ⟨?_, afterMark, afterNumber, fun _ _ => hsplit⟩
    rintro _ ⟨⟩
    exact hword
  · refine ⟨?_, ⟨0, 0⟩, ⟨0, 0⟩, fun _ _ => rfl⟩
    rintro _ ⟨⟩

theorem of_optional_amendmentMark {amendment : Option String}
    (h : optional amendmentMark bytes = .ok (amendment, rest)) :
    (∀ mark ∈ amendment, IsWord Char.isAlphanum 3 3 mark) ∧
      bytes = amendmentPart amendment ++ rest := by
  rcases of_optional_eq_ok h with ⟨mark, rfl, hmark⟩ | ⟨rfl, rfl⟩
  · obtain ⟨hword, hsplit⟩ := of_amendmentMark_eq_ok hmark
    refine ⟨?_, hsplit⟩
    rintro _ ⟨⟩
    exact hword
  · refine ⟨?_, rfl⟩
    rintro _ ⟨⟩

theorem isSpelled_of_piece {h : Heading} (hpiece : piece bytes = .ok (h, rest)) :
    ∃ head, h.IsSpelled head ∧ bytes = head ++ rest := by
  rw [piece] at hpiece
  obtain ⟨sequenceNumber, rest1, hsequence, hpiece⟩ := bind_eq_ok.1 hpiece
  obtain ⟨dataType, rest2, hdataType, hpiece⟩ := bind_eq_ok.1 hpiece
  obtain ⟨_, rest3, hblank, hpiece⟩ := bind_eq_ok.1 hpiece
  obtain ⟨office, rest4, hoffice, hpiece⟩ := bind_eq_ok.1 hpiece
  obtain ⟨_, rest5, hblank', hpiece⟩ := bind_eq_ok.1 hpiece
  obtain ⟨dateTime, rest6, hdateTime, hpiece⟩ := bind_eq_ok.1 hpiece
  obtain ⟨amendment, rest7, hamendment, hpiece⟩ := bind_eq_ok.1 hpiece
  obtain ⟨_, rest8, hend, hpiece⟩ := bind_eq_ok.1 hpiece
  obtain ⟨category, rest9, hcategory, hpiece⟩ := bind_eq_ok.1 hpiece
  obtain ⟨designator, rest10, hdesignator, hpiece⟩ := bind_eq_ok.1 hpiece
  obtain ⟨_, rest11, hend', hpiece⟩ := bind_eq_ok.1 hpiece
  obtain ⟨rfl, rfl⟩ := Prod.mk.inj (Except.ok.inj hpiece)
  obtain ⟨hnumber, afterMark, afterNumber, hsequence⟩ := of_optional_sequenceLine hsequence
  obtain ⟨hdataType, hdataWord⟩ := word_of_counted sameClass_alphanumeric hdataType
  obtain ⟨hoffice, hofficeWord⟩ := word_of_counted sameClass_alphanumeric hoffice
  obtain ⟨hdateTime, htimeWord⟩ := word_of_counted sameClass_digit hdateTime
  obtain ⟨hmark, hamendment⟩ := of_optional_amendmentMark hamendment
  obtain ⟨afterTime, hend⟩ := LineEnd.of_read hend
  obtain ⟨hcategory, hcategoryWord⟩ := word_of_counted sameClass_alphanumeric hcategory
  obtain ⟨hdesignator, hdesignatorWord⟩ := word_of_counted sameClass_alphanumeric hdesignator
  obtain ⟨afterDesignator, hend'⟩ := LineEnd.of_read hend'
  refine ⟨_, ⟨⟨hnumber, hdataWord, hofficeWord, htimeWord, hmark, hcategoryWord, hdesignatorWord⟩,
    ⟨afterMark, afterNumber, afterTime, afterDesignator⟩, rfl⟩, ?_⟩
  rw [hsequence afterTime afterDesignator, hdataType, of_byte_eq_ok hblank, hoffice,
    of_byte_eq_ok hblank', hdateTime, hamendment, hend, hcategory, hdesignator, hend']
  simp only [spelled, List.append_assoc, List.cons_append]

end Sound

/-- A heading is read exactly where a spelling of it stands. -/
theorem read_eq_ok_iff {h : Heading} {bytes rest : List UInt8} :
    read bytes = .ok (h, rest) ↔ ∃ head, h.IsSpelled head ∧ bytes = head ++ rest := by
  constructor
  · intro hread
    apply isSpelled_of_piece
    simp only [read] at hread
    cases hpiece : piece bytes with
    | ok found => simpa [hpiece] using hread
    | error fault => simp [hpiece] at hread
  · rintro ⟨head, hhead, rfl⟩
    exact read_spelled hhead rest

/-! ## Telling headings apart -/

/-- All bytes of a heading are below 128. -/
theorem IsSpelled.lt {head : List UInt8} {h : Heading} (hhead : h.IsSpelled head) :
    ∀ b ∈ head, b.toNat < 128 := by
  obtain ⟨hwell, ends, rfl⟩ := hhead
  have hsequence : ∀ b ∈ sequencePart ends h.sequenceNumber, b.toNat < 128 := by
    cases hnumber : h.sequenceNumber with
    | none => simp [sequencePart]
    | some number =>
        have hdigits := (hwell.sequenceNumber number hnumber).encode_lt sameClass_digit
        simp only [sequencePart, List.mem_cons, List.mem_append]
        rintro b (rfl | hb | hb | hb)
        · decide
        · exact ends.afterMark.bytes_lt b hb
        · exact hdigits b hb
        · exact ends.afterNumber.bytes_lt b hb
  have hmark : ∀ b ∈ amendmentPart h.amendment, b.toNat < 128 := by
    cases hamendment : h.amendment with
    | none => simp [amendmentPart]
    | some mark =>
        have hletters := (hwell.amendment mark hamendment).encode_lt sameClass_alphanumeric
        simp only [amendmentPart, List.mem_cons]
        rintro b (rfl | hb)
        · decide
        · exact hletters b hb
  have hdataType := hwell.dataType.encode_lt sameClass_alphanumeric
  have hoffice := hwell.office.encode_lt sameClass_alphanumeric
  have hdateTime := hwell.dateTime.encode_lt sameClass_digit
  have hcategory := hwell.category.encode_lt sameClass_alphanumeric
  have hdesignator := hwell.designator.encode_lt sameClass_alphanumeric
  intro b hb
  simp only [spelled, List.mem_append, List.mem_cons] at hb
  rcases hb with hb | hb | rfl | hb | rfl | hb | hb | hb | hb | hb | hb
  · exact hsequence b hb
  · exact hdataType b hb
  · decide
  · exact hoffice b hb
  · decide
  · exact hdateTime b hb
  · exact hmark b hb
  · exact ends.afterTime.bytes_lt b hb
  · exact hcategory b hb
  · exact hdesignator b hb
  · exact ends.afterDesignator.bytes_lt b hb

/-- A heading reaches into the place where a message has its divider. -/
theorem IsSpelled.length_ge {head : List UInt8} {h : Heading} (hhead : h.IsSpelled head) :
    22 ≤ head.length := by
  obtain ⟨hwell, ends, rfl⟩ := hhead
  have hdataType := hwell.dataType.length_encode sameClass_alphanumeric
  have hoffice := hwell.office.length_encode sameClass_alphanumeric
  have hdateTime := hwell.dateTime.length_encode sameClass_digit
  have hcategory := hwell.category.length_encode sameClass_alphanumeric
  have hdesignator := hwell.designator.length_encode sameClass_alphanumeric
  have hsizes : 6 ≤ h.dataType.length ∧ 4 ≤ h.office.length ∧ 6 ≤ h.dateTime.length ∧
      3 ≤ h.category.length ∧ 1 ≤ h.designator.length :=
    ⟨hwell.dataType.1, hwell.office.1, hwell.dateTime.1, hwell.category.1, hwell.designator.1⟩
  simp only [spelled, List.length_append, List.length_cons]
  omega

/-- A heading whose first byte tells it from a compressed product: it begins with a transmission
number or with another letter than `x`. -/
def IsTellable (h : Heading) : Prop :=
  h.sequenceNumber.isSome = true ∨ h.dataType.toList.head? ≠ some 'x'

instance (h : Heading) : Decidable h.IsTellable :=
  inferInstanceAs (Decidable (_ ∨ _))

theorem IsSpelled.head?_ne {head : List UInt8} {h : Heading} (hhead : h.IsSpelled head)
    (htell : h.IsTellable) (rest : List UInt8) : (head ++ rest).head? ≠ some 0x78 := by
  obtain ⟨hwell, ends, rfl⟩ := hhead
  rw [spelled]
  cases hnumber : h.sequenceNumber with
  | some number => simp [sequencePart]
  | none =>
      have hfirst : h.dataType.toList.head? ≠ some 'x' := by
        simpa [IsTellable, hnumber] using htell
      have hlt := hwell.dataType.lt sameClass_alphanumeric
      have hsize : 6 ≤ h.dataType.toList.length := by
        rw [String.length_toList]
        exact hwell.dataType.1
      rw [sequencePart, List.nil_append, encode_eq_map hlt]
      cases hchars : h.dataType.toList with
      | nil => simp [hchars] at hsize
      | cons c cs =>
          intro hx
          have hc : c.toNat < 128 := hlt c (by simp [hchars])
          have hbyte : UInt8.ofNat c.toNat = 0x78 := by simpa using hx
          have hcode : c.toNat = 'x'.toNat := by
            have hnat := congrArg UInt8.toNat hbyte
            rw [UInt8.toNat_ofNat', Nat.mod_eq_of_lt (by omega)] at hnat
            exact hnat
          have hchar : c = 'x' := by
            rw [← Char.ofNat_toNat c, hcode]
            rfl
          exact hfirst (by rw [hchars, hchar]; rfl)

end WeatherRadar.Level3.Heading
