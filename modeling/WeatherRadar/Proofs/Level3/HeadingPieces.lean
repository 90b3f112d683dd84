import WeatherRadar.Proofs.Level3.HeadingGrammar
/-!
# The pieces of headings

The grammar of headings is a sequence of pieces, two of which may be missing: bytes of a class, the
blanks between them and the ends of lines.  A heading is read exactly where its pieces stand, and
bytes can be taken apart into pieces in one way only (`reads_exactly_pieces`), although blanks may
belong to a mark or to the end of a line and the last word has no fixed length.
-/

namespace WeatherRadar.Level3.Heading

/-! ## Pieces -/

/-- The pieces of a heading, in order. -/
structure Pieces where
  /-- The end of the line of the mark, the transmission number, and the end of its line. -/
  transmission : Option (LineEnd × List UInt8 × LineEnd)
  dataType : List UInt8
  office : List UInt8
  dateTime : List UInt8
  amendment : Option (List UInt8)
  afterTime : LineEnd
  category : List UInt8
  designator : List UInt8
  afterDesignator : LineEnd

namespace Pieces

def transmissionBytes : Option (LineEnd × List UInt8 × LineEnd) → List UInt8
  | some (afterMark, number, afterNumber) =>
    0x01 :: (afterMark.bytes ++ (number ++ afterNumber.bytes))
  | none => []

def amendmentBytes : Option (List UInt8) → List UInt8
  | some mark => 0x20 :: mark
  | none => []

def bytes (p : Pieces) : List UInt8 :=
  transmissionBytes p.transmission ++
    (p.dataType ++ 0x20 :: (p.office ++ 0x20 :: (p.dateTime ++
      (amendmentBytes p.amendment ++ (p.afterTime.bytes ++
        (p.category ++ (p.designator ++ p.afterDesignator.bytes)))))))

def number? (p : Pieces) : Option (List UInt8) := p.transmission.map (·.2.1)

/-- The heading that the pieces make up. -/
def heading (p : Pieces) : Heading where
  sequenceNumber := p.number?.map asciiText
  dataType := asciiText p.dataType
  office := asciiText p.office
  dateTime := asciiText p.dateTime
  amendment := p.amendment.map asciiText
  category := asciiText p.category
  designator := asciiText p.designator

/-- The ends of lines; those around a transmission number do not matter without one. -/
def ends (p : Pieces) : LineEnds where
  afterMark := (p.transmission.map (·.1)).getD ⟨0, 0⟩
  afterNumber := (p.transmission.map (·.2.2)).getD ⟨0, 0⟩
  afterTime := p.afterTime
  afterDesignator := p.afterDesignator

end Pieces

/-- A number of bytes of a class, at least `least` and at most `most`. -/
structure IsRun (isByte : UInt8 → Bool) (least most : Nat) (word : List UInt8) : Prop where
  least : least ≤ word.length
  most : word.length ≤ most
  all : ∀ b ∈ word, isByte b = true

/-- Pieces of the sizes and classes that the grammar has. -/
structure Pieces.Grammatical (p : Pieces) : Prop where
  number : ∀ number ∈ p.number?, IsRun isDigit 1 number.length number
  dataType : IsRun isAlphanumeric 6 6 p.dataType
  office : IsRun isAlphanumeric 4 4 p.office
  dateTime : IsRun isDigit 6 6 p.dateTime
  amendment : ∀ mark ∈ p.amendment, IsRun isAlphanumeric 3 3 mark
  category : IsRun isAlphanumeric 3 3 p.category
  designator : IsRun isAlphanumeric 1 3 p.designator

section Words

variable {isByte : UInt8 → Bool} {isChar : Char → Bool} {least most : Nat} {word : List UInt8}

theorem IsRun.isWord (h : IsRun isByte least most word) (hclass : SameClass isByte isChar) :
    IsWord isChar least most (asciiText word) :=
  isWord_asciiText hclass h.least h.most h.all

theorem IsRun.encode (h : IsRun isByte least most word) (hclass : SameClass isByte isChar) :
    Utf8.encode (asciiText word) = word := encode_asciiText_of_class hclass h.all

theorem IsWord.isRun {s : String} (h : IsWord isChar least most s)
    (hclass : SameClass isByte isChar) : IsRun isByte least most (Utf8.encode s) where
  least := h.length_encode hclass ▸ h.1
  most := h.length_encode hclass ▸ h.2.1
  all := h.all_encode hclass

/-- Bytes of a class are told by their text. -/
theorem IsRun.eq_of_asciiText {word' : List UInt8} {least' most' : Nat}
    (h : IsRun isByte least most word) (h' : IsRun isByte least' most' word')
    (hclass : SameClass isByte isChar) (htext : asciiText word = asciiText word') :
    word = word' := by
  rw [← h.encode hclass, ← h'.encode hclass, htext]

theorem eq_of_map_asciiText {found found' : Option (List UInt8)}
    (h : ∀ word ∈ found, ∃ least most, IsRun isByte least most word)
    (h' : ∀ word ∈ found', ∃ least most, IsRun isByte least most word)
    (hclass : SameClass isByte isChar) (htext : found.map asciiText = found'.map asciiText) :
    found = found' := by
  cases found with
  | none =>
      cases found' with
      | none => rfl
      | some word' => cases htext
  | some word =>
      cases found' with
      | none => cases htext
      | some word' =>
          obtain ⟨_, _, hword⟩ := h word rfl
          obtain ⟨_, _, hword'⟩ := h' word' rfl
          rw [hword.eq_of_asciiText hword' hclass (Option.some.inj htext)]

end Words

/-! ## Pieces and spellings -/

namespace Pieces

variable {p : Pieces}

theorem Grammatical.wellFormed (h : p.Grammatical) : p.heading.WellFormed where
  sequenceNumber := by
    intro text htext
    obtain ⟨number, hnumber, rfl⟩ := Option.map_eq_some_iff.1 htext
    have hword := (h.number number hnumber).isWord sameClass_digit
    exact ⟨hword.1, Nat.le_refl _, hword.2.2⟩
  dataType := h.dataType.isWord sameClass_alphanumeric
  office := h.office.isWord sameClass_alphanumeric
  dateTime := h.dateTime.isWord sameClass_digit
  amendment := by
    intro mark hmark
    obtain ⟨word, hword, rfl⟩ := Option.map_eq_some_iff.1 hmark
    exact (h.amendment word hword).isWord sameClass_alphanumeric
  category := h.category.isWord sameClass_alphanumeric
  designator := h.designator.isWord sameClass_alphanumeric

theorem Grammatical.bytes_eq (h : p.Grammatical) : p.bytes = p.heading.spelled p.ends := by
  have htransmission : sequencePart p.ends p.heading.sequenceNumber =
      transmissionBytes p.transmission := by
    simp only [heading, ends, number?]
    cases hline : p.transmission with
    | none => rfl
    | some line =>
        have hnumber := h.number line.2.1 (by rw [number?, hline]; rfl)
        simp only [Option.map_some, sequencePart, hnumber.encode sameClass_digit]
        rfl
  have hamendment : amendmentPart p.heading.amendment = amendmentBytes p.amendment := by
    simp only [heading]
    cases hmark : p.amendment with
    | none => rfl
    | some mark =>
        simp only [Option.map_some, amendmentPart,
          (h.amendment mark hmark).encode sameClass_alphanumeric]
        rfl
  rw [spelled, htransmission, hamendment]
  simp only [heading, h.dataType.encode sameClass_alphanumeric,
    h.office.encode sameClass_alphanumeric, h.dateTime.encode sameClass_digit,
    h.category.encode sameClass_alphanumeric, h.designator.encode sameClass_alphanumeric]
  rfl

theorem Grammatical.isSpelled (h : p.Grammatical) : p.heading.IsSpelled p.bytes :=
  ⟨h.wellFormed, p.ends, h.bytes_eq⟩

/-- The pieces of a heading with certain ends of lines. -/
def ofHeading (h : Heading) (ends : LineEnds) : Pieces where
  transmission := h.sequenceNumber.map fun number =>
    (ends.afterMark, Utf8.encode number, ends.afterNumber)
  dataType := Utf8.encode h.dataType
  office := Utf8.encode h.office
  dateTime := Utf8.encode h.dateTime
  amendment := h.amendment.map Utf8.encode
  afterTime := ends.afterTime
  category := Utf8.encode h.category
  designator := Utf8.encode h.designator
  afterDesignator := ends.afterDesignator

theorem bytes_ofHeading (h : Heading) (ends : LineEnds) :
    (ofHeading h ends).bytes = h.spelled ends := by
  obtain ⟨sequenceNumber, _, _, _, amendment, _, _⟩ := h
  cases sequenceNumber <;> cases amendment <;> rfl

theorem grammatical_ofHeading {h : Heading} (hwell : h.WellFormed) (ends : LineEnds) :
    (ofHeading h ends).Grammatical where
  number := by
    intro word hword
    obtain ⟨line, hline, rfl⟩ := Option.map_eq_some_iff.1 hword
    obtain ⟨number, hnumber, rfl⟩ := Option.map_eq_some_iff.1 hline
    have hrun := (hwell.sequenceNumber number hnumber).isRun sameClass_digit
    exact ⟨hrun.least, Nat.le_refl _, hrun.all⟩
  dataType := hwell.dataType.isRun sameClass_alphanumeric
  office := hwell.office.isRun sameClass_alphanumeric
  dateTime := hwell.dateTime.isRun sameClass_digit
  amendment := by
    intro mark hmark
    obtain ⟨word, hword, rfl⟩ := Option.map_eq_some_iff.1 hmark
    exact (hwell.amendment word hword).isRun sameClass_alphanumeric
  category := hwell.category.isRun sameClass_alphanumeric
  designator := hwell.designator.isRun sameClass_alphanumeric

/-- What is spelled is read, so the pieces of a heading make it up again. -/
theorem heading_ofHeading {h : Heading} (hwell : h.WellFormed) (ends : LineEnds) :
    (ofHeading h ends).heading = h := by
  have hread := read_spelled (grammatical_ofHeading hwell ends).isSpelled []
  rw [bytes_ofHeading, read_spelled ⟨hwell, ends, rfl⟩ []] at hread
  exact (Prod.mk.inj (Except.ok.inj hread)).1.symm

end Pieces

/-! ## One way to take bytes apart -/

theorem LineEnd.bytes_append_inj {e e' : LineEnd} {rest rest' : List UInt8}
    (h : e.bytes ++ rest = e'.bytes ++ rest') : e = e' ∧ rest = rest' := by
  have hread : lineEnd (e.bytes ++ rest) = .ok ((), rest) := e.read
  rw [h, e'.read] at hread
  obtain rfl : rest' = rest := (Prod.mk.inj (Except.ok.inj hread)).2
  have hbytes : e.bytes = e'.bytes := List.append_cancel_right h
  have hblanks : ∀ e : LineEnd,
      (e.bytes.takeWhile (· == 0x20)).length = e.blankCount := by
    intro e
    rw [LineEnd.bytes, takeWhile_run (fun b hb => ?_) (head?_cons rfl), List.length_replicate]
    rw [List.eq_of_mem_replicate hb]
    rfl
  have hcount : e.blankCount = e'.blankCount := by rw [← hblanks e, hbytes, hblanks e']
  have hlength : e.bytes.length = e'.bytes.length := by rw [hbytes]
  simp only [LineEnd.bytes, List.length_append, List.length_cons, List.length_replicate,
    List.length_nil] at hlength
  obtain ⟨blankCount, moreReturns⟩ := e
  obtain ⟨blankCount', moreReturns'⟩ := e'
  obtain rfl : blankCount = blankCount' := hcount
  obtain rfl : moreReturns = moreReturns' := by
    dsimp only at hlength
    omega
  exact ⟨rfl, rfl⟩

namespace Pieces

variable {p p' : Pieces}

theorem transmissionBytes_append_inj {line line' : Option (LineEnd × List UInt8 × LineEnd)}
    {rest rest' : List UInt8}
    (hnumber : line.map (·.2.1) = line'.map (·.2.1))
    (h : transmissionBytes line ++ rest = transmissionBytes line' ++ rest') :
    line = line' ∧ rest = rest' := by
  cases line with
  | none =>
      cases line' with
      | none => exact ⟨rfl, h⟩
      | some line' => cases hnumber
  | some line =>
      cases line' with
      | none => cases hnumber
      | some line' =>
          obtain ⟨afterMark, number, afterNumber⟩ := line
          obtain ⟨afterMark', number', afterNumber'⟩ := line'
          obtain rfl : number = number' := Option.some.inj hnumber
          simp only [transmissionBytes, List.cons_append, List.append_assoc,
            List.cons.injEq, true_and] at h
          obtain ⟨rfl, hrest⟩ := LineEnd.bytes_append_inj h
          obtain ⟨rfl, rfl⟩ := LineEnd.bytes_append_inj (List.append_cancel_left hrest)
          exact ⟨rfl, rfl⟩

/-- Bytes can be taken apart into grammatical pieces and a rest in one way only. -/
theorem Grammatical.unique (h : p.Grammatical) (h' : p'.Grammatical) {rest rest' : List UInt8}
    (hbytes : p.bytes ++ rest = p'.bytes ++ rest') : p = p' ∧ rest = rest' := by
  have hread := read_spelled h.isSpelled rest
  rw [hbytes, read_spelled h'.isSpelled rest'] at hread
  obtain ⟨hheading, rfl⟩ := Prod.mk.inj (Except.ok.inj hread)
  have hnumber : p'.number? = p.number? :=
    eq_of_map_asciiText (fun word hword => ⟨_, _, h'.number word hword⟩)
      (fun word hword => ⟨_, _, h.number word hword⟩) sameClass_digit
      (congrArg sequenceNumber hheading)
  have hdataType := h'.dataType.eq_of_asciiText h.dataType sameClass_alphanumeric
    (congrArg Heading.dataType hheading)
  have hoffice := h'.office.eq_of_asciiText h.office sameClass_alphanumeric
    (congrArg Heading.office hheading)
  have hdateTime := h'.dateTime.eq_of_asciiText h.dateTime sameClass_digit
    (congrArg Heading.dateTime hheading)
  have hamendment : p'.amendment = p.amendment :=
    eq_of_map_asciiText (fun word hword => ⟨_, _, h'.amendment word hword⟩)
      (fun word hword => ⟨_, _, h.amendment word hword⟩) sameClass_alphanumeric
      (congrArg Heading.amendment hheading)
  have hcategory := h'.category.eq_of_asciiText h.category sameClass_alphanumeric
    (congrArg Heading.category hheading)
  have hdesignator := h'.designator.eq_of_asciiText h.designator sameClass_alphanumeric
    (congrArg Heading.designator hheading)
  have hpieces := List.append_cancel_right hbytes
  obtain ⟨line, dataType, office, dateTime, mark, afterTime, category, designator, last⟩ := p
  obtain ⟨line', dataType', office', dateTime', mark', afterTime', category', designator',
    last'⟩ := p'
  dsimp only at hnumber hdataType hoffice hdateTime hamendment hcategory hdesignator
  subst hdataType hoffice hdateTime hamendment hcategory hdesignator
  -- The words agree, so the ends of lines are what is left to compare, from the front.
  obtain ⟨rfl, hbody⟩ := transmissionBytes_append_inj hnumber.symm hpieces
  rw [List.append_cancel_left_eq, List.cons.injEq] at hbody
  obtain ⟨-, hbody⟩ := hbody
  rw [List.append_cancel_left_eq, List.cons.injEq] at hbody
  obtain ⟨-, hbody⟩ := hbody
  rw [List.append_cancel_left_eq, List.append_cancel_left_eq] at hbody
  obtain ⟨rfl, hbody⟩ := LineEnd.bytes_append_inj hbody
  rw [List.append_cancel_left_eq, List.append_cancel_left_eq] at hbody
  obtain ⟨rfl, -⟩ := LineEnd.bytes_append_inj (congrArg (· ++ ([] : List UInt8)) hbody)
  exact ⟨rfl, rfl⟩

end Pieces

/-- A heading is read exactly where pieces of the grammar stand that make it up.  There is only one
way to find them, and what is read is read again when it is written. -/
theorem reads_exactly_pieces (bytes rest : List UInt8) (h : Heading) :
    (read bytes = .ok (h, rest) ↔
      ∃ p : Pieces, p.Grammatical ∧ bytes = p.bytes ++ rest ∧ h = p.heading) ∧
    (∀ (p p' : Pieces) (rest' : List UInt8), p.Grammatical → p'.Grammatical →
      p.bytes ++ rest = p'.bytes ++ rest' → p = p' ∧ rest = rest') ∧
    (∀ p : Pieces, p.Grammatical → h = p.heading → read (h.toBytes ++ rest) = .ok (h, rest)) ∧
    (read bytes = .ok (h, rest) → read (h.toBytes ++ rest) = .ok (h, rest)) := by
  refine ⟨⟨?_, ?_⟩, ?_, ?_, ?_⟩
  · intro hread
    obtain ⟨head, ⟨hwell, ends, rfl⟩, hbytes⟩ := read_eq_ok_iff.1 hread
    exact ⟨.ofHeading h ends, Pieces.grammatical_ofHeading hwell ends,
      by rw [Pieces.bytes_ofHeading, hbytes], (Pieces.heading_ofHeading hwell ends).symm⟩
  · rintro ⟨p, hp, rfl, rfl⟩
    exact read_spelled hp.isSpelled rest
  · intro p p' rest' hp hp' hbytes
    exact hp.unique hp' hbytes
  · rintro p hp rfl
    exact read_spelled (isSpelled_toBytes hp.wellFormed) rest
  · intro hread
    obtain ⟨head, ⟨hwell, -⟩, -⟩ := read_eq_ok_iff.1 hread
    exact read_spelled (isSpelled_toBytes hwell) rest

end WeatherRadar.Level3.Heading
