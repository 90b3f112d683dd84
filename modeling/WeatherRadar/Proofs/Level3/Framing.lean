import WeatherRadar.Level3.Reading
import WeatherRadar.Proofs.Level3.HeadingGrammar
/-!
# Packagings of a message

A message may stand alone, behind a heading, in zlib streams behind a heading, or in zlib streams
alone.  None of the three tests that tell these apart takes one for another, so that all four are
read as the same message (`decode_packaged`).  The heading that applies only tells where the
product comes from (`decodeMessage_heading`).
-/

namespace WeatherRadar.Level3

/-! ## Telling packagings apart -/

/-- Bytes below 128 where a message has its divider. -/
theorem looksLikeMessage_eq_false {bytes : List UInt8} {b : UInt8}
    (hb : bytes[MessageHeader.size]? = some b) (hlt : b.toNat < 128) :
    looksLikeMessage bytes = false := by
  have hfirst : (bytes.drop MessageHeader.size).getD 0 0 = b := by
    rw [List.getD_eq_getElem?_getD, List.getElem?_drop, Nat.add_zero, hb]
    rfl
  have hdivider : int16At (bytes.drop MessageHeader.size) 0 ≠ blockDivider := by
    rw [int16At, hfirst]
    generalize (bytes.drop MessageHeader.size).getD (0 + 1) 0 = next
    intro heq
    have hvalue := congrArg Int16.toInt heq
    have hnext := next.toNat_lt
    have hspelled : bigEndian [b, next] = b.toNat * 256 + next.toNat := by
      simp [bigEndian]
    rw [hspelled, Int16.toInt_ofNat_of_lt (by omega)] at hvalue
    have hminus : Int16.toInt blockDivider = -1 := by decide
    omega
  rw [looksLikeMessage, beq_eq_false_iff_ne.2 hdivider, Bool.and_false]

/-- A message that can be told from a heading and from a compressed product. -/
structure IsBareMessage (bytes : List UInt8) : Prop where
  size : 120 ≤ bytes.length
  divider : bytes[18]? = some 0xFF ∧ bytes[19]? = some 0xFF
  first : bytes.head? ≠ some 0x78

theorem IsBareMessage.looksLikeMessage {bytes : List UInt8} (h : IsBareMessage bytes) :
    looksLikeMessage bytes = true := by
  have hsize : Cursor.hasAtLeast Description.bodyOffset bytes = true :=
    (hasAtLeast_iff _ bytes).2 h.size
  have hdivider : int16At (bytes.drop MessageHeader.size) 0 = blockDivider := by
    have hfirst : (bytes.drop MessageHeader.size).getD 0 0 = 0xFF := by
      rw [List.getD_eq_getElem?_getD, List.getElem?_drop]
      exact congrArg (Option.getD · 0) h.divider.1
    have hsecond : (bytes.drop MessageHeader.size).getD (0 + 1) 0 = 0xFF := by
      rw [List.getD_eq_getElem?_getD, List.getElem?_drop]
      exact congrArg (Option.getD · 0) h.divider.2
    rw [int16At, hfirst, hsecond]
    decide
  rw [Level3.looksLikeMessage, hsize, hdivider]
  rfl

theorem IsBareMessage.isStream {bytes : List UInt8} (h : IsBareMessage bytes) :
    isStream bytes = false := by
  rw [Level3.isStream, beq_eq_false_iff_ne]
  exact h.first

theorem splitHeading_of_message {bytes : List UInt8} (h : IsBareMessage bytes) :
    splitHeading bytes = .ok (none, bytes) := by
  rw [splitHeading, h.looksLikeMessage, Bool.or_true, if_pos rfl]

theorem splitHeading_of_stream {bytes : List UInt8} (h : isStream bytes = true) :
    splitHeading bytes = .ok (none, bytes) := by
  rw [splitHeading, h, Bool.true_or, if_pos rfl]

/-- A heading is not taken for a message or a stream. -/
theorem splitHeading_of_heading {head : List UInt8} {h : Heading} (hhead : h.IsSpelled head)
    (htell : h.IsTellable) (body : List UInt8) :
    splitHeading (head ++ body) = .ok (some h, body) := by
  have hstream : isStream (head ++ body) = false := by
    rw [isStream, beq_eq_false_iff_ne]
    exact hhead.head?_ne htell body
  have hplace : MessageHeader.size < head.length := by
    have hlength := hhead.length_ge
    rw [MessageHeader.size]
    omega
  have hmessage : looksLikeMessage (head ++ body) = false := by
    have hbyte : (head ++ body)[MessageHeader.size]? = some head[MessageHeader.size] := by
      rw [List.getElem?_append_left hplace, List.getElem?_eq_getElem hplace]
    exact looksLikeMessage_eq_false hbyte (hhead.lt _ (List.getElem_mem hplace))
  rw [splitHeading, hstream, hmessage]
  simp only [Bool.or_self, Bool.false_eq_true, if_false, Heading.read_spelled hhead]

/-! ## Compressed products -/

/-- A control block: its first two bytes hold its length in units of two bytes, and two flags. -/
structure IsControlBlock (block : List UInt8) : Prop where
  size : 2 ≤ block.length
  length : block.length =
    bigEndian [block.getD 0 0, block.getD 1 0] % 0x4000 * 2

theorem skipControlBlock_append {block : List UInt8} (h : IsControlBlock block)
    (rest : List UInt8) : skipControlBlock (block ++ rest) = .ok rest := by
  obtain ⟨hsize, hlength⟩ := h
  cases block with
  | nil => simp at hsize
  | cons high block =>
      cases block with
      | nil => simp at hsize
      | cons low tail =>
          simp only [List.getD_cons_zero, List.getD_cons_succ, List.length_cons] at hlength
          have hword : (UInt16.ofNat (bigEndian [high, low])).toNat = bigEndian [high, low] := by
            have hhigh := high.toNat_lt
            have hlow := low.toNat_lt
            rw [UInt16.toNat_ofNat', Nat.mod_eq_of_lt]
            simp only [bigEndian, List.foldl_cons, List.foldl_nil]
            omega
          have hread : (Cursor.ofBytes (high :: low :: tail ++ rest)).readUInt16 =
              .ok (UInt16.ofNat (bigEndian [high, low]),
                ⟨high :: low :: tail ++ rest, 2, tail ++ rest⟩) := rfl
          have hskip : ∀ data : List UInt8, (⟨data, 2, tail ++ rest⟩ : Cursor).skip
              (bigEndian [high, low] % 0x4000 * 2 - 2) =
                .ok ⟨data, 2 + tail.length, rest⟩ := by
            intro data
            have htail : bigEndian [high, low] % 0x4000 * 2 - 2 = tail.length := by omega
            have hall : Cursor.hasAtLeast tail.length (tail ++ rest) = true := by
              rw [hasAtLeast_iff, List.length_append]
              omega
            rw [Cursor.skip, htail, if_pos hall, Cursor.advance, List.drop_left]
          have hlarge : ¬ bigEndian [high, low] % 0x4000 * 2 < 2 := by omega
          simp only [skipControlBlock, hread, mapError_ok, bind, Except.bind, hword, hlarge,
            if_false, pure, Except.pure, hskip]

/-- A zlib stream that a codec expands to some contents, whatever follows it. -/
structure IsStreamOf (codec : Codec) (stream contents : List UInt8) : Prop where
  first : stream.head? = some Zlib.marker
  inflates : ∀ rest, codec.inflateStream (stream ++ rest) = .ok (contents, rest)

/-- Streams in a row are expanded to their contents in a row, and what follows them on its own. -/
theorem contentsWith_streams {codec : Codec} {streams : List (List UInt8 × List UInt8)}
    (h : ∀ stream ∈ streams, IsStreamOf codec stream.1 stream.2) (rest : List UInt8) :
    Zlib.contentsWith codec.inflateStream (streams.flatMap (·.1) ++ rest) =
      (Zlib.contentsWith codec.inflateStream rest).map (streams.flatMap (·.2) ++ ·) := by
  induction streams with
  | nil =>
      rw [List.flatMap_nil, List.flatMap_nil, List.nil_append]
      cases Zlib.contentsWith codec.inflateStream rest <;> rfl
  | cons stream streams ih =>
      have hstream := h stream (by simp)
      have hmarker : ((stream.1 ++ (streams.flatMap (·.1) ++ rest)).head? == some Zlib.marker) =
          true := by
        rw [List.head?_append, hstream.first]
        rfl
      have hshorter : (streams.flatMap (·.1) ++ rest).length <
          (stream.1 ++ (streams.flatMap (·.1) ++ rest)).length := by
        have hne : 0 < stream.1.length := by
          rw [List.length_pos_iff]
          intro hnil
          have hfirst := hstream.first
          rw [hnil] at hfirst
          cases hfirst
        simp only [List.length_append]
        omega
      rw [List.flatMap_cons, List.flatMap_cons, List.append_assoc, Zlib.contentsWith,
        if_pos hmarker, hstream.inflates]
      simp only [if_pos hshorter]
      rw [ih fun other hother => h other (by simp [hother])]
      cases Zlib.contentsWith codec.inflateStream rest with
      | error error => rfl
      | ok contents => exact congrArg Except.ok (List.append_assoc _ _ _).symm

theorem isStream_streams {codec : Codec} {streams : List (List UInt8 × List UInt8)}
    (hne : streams ≠ []) (h : ∀ stream ∈ streams, IsStreamOf codec stream.1 stream.2) :
    isStream (streams.flatMap (·.1)) = true := by
  cases streams with
  | nil => exact absurd rfl hne
  | cons stream streams =>
      rw [isStream, List.flatMap_cons, List.head?_append, (h stream (by simp)).first]
      rfl

theorem inflateAll_streams {codec : Codec} {streams : List (List UInt8 × List UInt8)}
    (hne : streams ≠ []) (h : ∀ stream ∈ streams, IsStreamOf codec stream.1 stream.2) :
    isStream (streams.flatMap (·.1)) = true ∧
      inflateAll codec (streams.flatMap (·.1)) = .ok (streams.flatMap (·.2)) := by
  have hmarker := isStream_streams hne h
  refine ⟨hmarker, ?_⟩
  have hnil : Zlib.contentsWith codec.inflateStream [] = .ok [] := by
    rw [Zlib.contentsWith]
    rfl
  have hcontents := contentsWith_streams h []
  rw [List.append_nil, hnil] at hcontents
  rw [isStream] at hmarker
  rw [inflateAll, Zlib.inflateWith, if_pos hmarker, hcontents]
  exact congrArg Except.ok (List.append_nil _)

/-! ## The heading that applies -/

variable {α : Type} [Scalar α]

def siteIdOf : Option Heading → String
  | some h => upperCase (trimBlanks h.designator)
  | none => ""

def Product.withHeading (heading : Option Heading) (product : Product α) : Product α :=
  { product with
    heading := heading
    header := { product.header with siteId := siteIdOf heading } }

theorem ofSections_heading (message : MessageHeader) (description : Description)
    (heading : Option Heading) :
    (ProductHeader.ofSections message description heading : ProductHeader α) =
      { (ProductHeader.ofSections message description none : ProductHeader α) with
        siteId := siteIdOf heading } := by
  cases heading <;> rfl

theorem ofSymbology_heading (message : MessageHeader) (description : Description)
    (heading : Option Heading) (blocks : BlockLayout) (symbology : Symbology α) :
    Product.ofSymbology (.ofSections message description heading) heading blocks symbology =
      (Product.ofSymbology (.ofSections message description none) none blocks
        symbology).withHeading heading := by
  rw [ofSections_heading]
  cases symbology <;> rfl

/-- The heading decides nothing but the heading of the product and the id of its radar. -/
theorem decodeMessage_heading (codec : Codec) (bytes : List UInt8) (heading : Option Heading) :
    (decodeMessage codec bytes heading : Except Error (Product α)) =
      (decodeMessage codec bytes none).map (Product.withHeading heading) := by
  simp only [decodeMessage, bind, Except.bind]
  cases MessageHeader.read (Cursor.ofBytes bytes) with
  | error fault => rfl
  | ok read =>
      obtain ⟨message, cursor⟩ := read
      dsimp only
      cases Description.read cursor with
      | error fault => rfl
      | ok read =>
          obtain ⟨description, cursor⟩ := read
          dsimp only
          have hkind : (ProductHeader.ofSections message description heading :
              ProductHeader α).kind? = (ProductHeader.ofSections message description none :
              ProductHeader α).kind? := rfl
          rw [hkind]
          by_cases hunknown : (ProductHeader.ofSections message description none :
              ProductHeader α).kind?.isNone = true
          · rw [if_pos hunknown, if_pos hunknown, ofSections_heading]
            rfl
          · rw [if_neg hunknown, if_neg hunknown]
            simp only [pure, Except.pure]
            cases (BlockLayout.ofDescription description).symbology with
            | none => exact congrArg Except.ok (ofSymbology_heading message description heading _ _)
            | some offset =>
                dsimp only
                cases bodyCursor codec bytes message description cursor with
                | error fault => rfl
                | ok cursor =>
                    dsimp only
                    cases (cursor.seek offset).mapError (Error.truncated .symbology) with
                    | error fault => rfl
                    | ok cursor =>
                        dsimp only
                        cases (Symbology.read cursor : Except Error (Symbology α × Cursor)) with
                        | error fault => rfl
                        | ok read =>
                            exact congrArg Except.ok
                              (ofSymbology_heading message description heading _ read.1)

/-! ## Four packagings -/

theorem decodeWith_bare {codec : Codec} {message : List UInt8} (hmessage : IsBareMessage message) :
    (decodeWith codec message : Except Error (Product α)) = decodeMessage codec message none := by
  rw [decodeWith, splitHeading_of_message hmessage]
  simp only [bind, Except.bind, hmessage.isStream, Bool.false_eq_true, if_false]

theorem decodeWith_headed {codec : Codec} {head message : List UInt8} {h : Heading}
    (hhead : h.IsSpelled head) (htell : h.IsTellable) (hmessage : IsBareMessage message) :
    (decodeWith codec (head ++ message) : Except Error (Product α)) =
      decodeMessage codec message (some h) := by
  rw [decodeWith, splitHeading_of_heading hhead htell]
  simp only [bind, Except.bind, hmessage.isStream, Bool.false_eq_true, if_false]

/-- A message in streams, behind a control block and a heading, whatever stands before them. -/
theorem decodeWith_compressed {codec : Codec} {bytes body block head message : List UInt8}
    {outer heading : Option Heading} {inner : Heading}
    (hsplit : splitHeading bytes = .ok (outer, body)) (hstream : isStream body = true)
    (hinflated : inflateAll codec body = .ok (block ++ (head ++ message)))
    (hblock : IsControlBlock block) (hhead : inner.IsSpelled head)
    (hheading : (outer <|> some inner) = heading) :
    (decodeWith codec bytes : Except Error (Product α)) = decodeMessage codec message heading := by
  rw [decodeWith, hsplit, ← hheading]
  simp only [bind, Except.bind, hstream, if_true, hinflated, skipControlBlock_append hblock,
    Heading.read_spelled hhead]

/-- A message is read alike in four packagings: alone, behind the spelling of a heading, compressed
behind it, and compressed, with another heading inside. -/
structure ReadAlike (α : Type) [Scalar α] (codec : Codec) (message head compressed : List UInt8)
    (outer inner : Heading) : Prop where
  bare : (decodeWith codec message : Except Error (Product α)) = decodeMessage codec message none
  headed : (decodeWith codec (head ++ message) : Except Error (Product α)) =
    decodeMessage codec message (some outer)
  headedCompressed : (decodeWith codec (head ++ compressed) : Except Error (Product α)) =
    decodeMessage codec message (some outer)
  compressed : (decodeWith codec compressed : Except Error (Product α)) =
    decodeMessage codec message (some inner)
  /-- All of them fail with the same error, or give products that differ only in the heading and
  in the radar that it names. -/
  sameButHeading : ∀ heading, (decodeMessage codec message heading : Except Error (Product α)) =
    (decodeMessage codec message none).map (Product.withHeading heading)

/-- No packaging is taken for another, whatever the headings, the control block and the streams. -/
theorem decode_packaged (codec : Codec) {message block head innerHead : List UInt8}
    {outer inner : Heading} {streams : List (List UInt8 × List UInt8)}
    (hmessage : IsBareMessage message) (houter : outer.IsSpelled head) (htell : outer.IsTellable)
    (hinner : inner.IsSpelled innerHead) (hblock : IsControlBlock block) (hne : streams ≠ [])
    (hstreams : ∀ stream ∈ streams, IsStreamOf codec stream.1 stream.2)
    (hcontents : streams.flatMap (·.2) = block ++ innerHead ++ message) :
    ReadAlike α codec message head (streams.flatMap (·.1)) outer inner := by
  obtain ⟨hstream, hinflated⟩ := inflateAll_streams hne hstreams
  rw [hcontents, List.append_assoc] at hinflated
  constructor
  · exact decodeWith_bare hmessage
  · exact decodeWith_headed houter htell hmessage
  · exact decodeWith_compressed (splitHeading_of_heading houter htell _) hstream hinflated hblock
      hinner rfl
  · exact decodeWith_compressed (splitHeading_of_stream hstream) hstream hinflated hblock hinner rfl
  · exact decodeMessage_heading codec message

/-- A zlib stream that holds some bytes as they are. -/
def storedStream (contents : List UInt8) : List UInt8 :=
  let low := UInt8.ofNat contents.length
  let high := UInt8.ofNat (contents.length / 256)
  Zlib.marker :: 0x01 :: 0x01 :: low :: high :: ~~~low :: ~~~high :: contents ++
    uint32Bytes (Checksum.adler32 ⟨contents.toArray⟩)

def readStored : Zlib.StreamReader
  | _ :: _ :: _ :: low :: high :: _ :: _ :: bytes =>
    let size := high.toNat * 256 + low.toNat
    .ok (bytes.take size, bytes.drop (size + 4))
  | _ => .error .truncated

theorem isStreamOf_stored {codec : Codec} (hcodec : codec.inflateStream = readStored)
    {contents : List UInt8} (hsize : contents.length < 65536) :
    IsStreamOf codec (storedStream contents) contents where
  first := rfl
  inflates rest := by
    have hspelled : (UInt8.ofNat (contents.length / 256)).toNat * 256 +
        (UInt8.ofNat contents.length).toNat = contents.length := by
      rw [UInt8.toNat_ofNat', UInt8.toNat_ofNat']
      omega
    rw [hcodec, storedStream]
    generalize hsum : uint32Bytes (Checksum.adler32 ⟨contents.toArray⟩) = sum
    have hlength : (contents ++ sum).length = contents.length + 4 := by
      rw [← hsum, List.length_append]
      rfl
    simp only [List.cons_append, readStored, hspelled]
    rw [← hlength, List.drop_left, List.append_assoc, List.take_left]

/-- A message behind a heading with short ends of lines, and in two streams with another heading. -/
theorem decode_packaged_two_streams :
    let codec : Codec := { Codec.standard with inflateStream := readStored }
    let outer : Heading := ⟨none, "SDUS54", "KOUN", "150000", none, "N0Q", "TLX"⟩
    let head := outer.spelled ⟨⟨0, 0⟩, ⟨0, 0⟩, ⟨2, 0⟩, ⟨0, 0⟩⟩
    let inner : Heading := ⟨some "123", "xDUS54", "KFWD", "150001", some "CCA", "N0Q", "FW"⟩
    let message : List UInt8 := List.replicate 18 0 ++ [0xFF, 0xFF] ++ List.replicate 100 0
    let block : List UInt8 := [0x40, 0x02, 0, 7]
    let streams := [(storedStream block, block),
      (storedStream (inner.toBytes ++ message), inner.toBytes ++ message)]
    IsBareMessage message ∧ outer.IsSpelled head ∧ outer.IsTellable ∧
      inner.IsSpelled inner.toBytes ∧ IsControlBlock block ∧
      (∀ stream ∈ streams, IsStreamOf codec stream.1 stream.2) ∧
      ReadAlike Rat codec message head (streams.flatMap (·.1)) outer inner := by
  intro codec outer head inner message block streams
  have hmessage : IsBareMessage message :=
    ⟨by simp [message], by simp [message], by simp [message, List.replicate]⟩
  have houter : outer.IsSpelled head := ⟨⟨by decide, by decide, by decide, by decide, by decide,
    by decide, by decide⟩, _, rfl⟩
  have htell : outer.IsTellable := by decide
  have hinner : inner.IsSpelled inner.toBytes := Heading.isSpelled_toBytes ⟨by decide, by decide,
    by decide, by decide, by decide, by decide, by decide⟩
  have hblock : IsControlBlock block := ⟨by decide, by decide⟩
  have hsize : (inner.toBytes ++ message).length < 65536 := by
    have hinnerSize : inner.toBytes.length < 100 := by decide
    have hmessageSize : message.length = 120 := by simp [message]
    rw [List.length_append]
    omega
  have hstreams : ∀ stream ∈ streams, IsStreamOf codec stream.1 stream.2 := by
    intro stream hstream
    simp only [streams, List.mem_cons, List.not_mem_nil, or_false] at hstream
    rcases hstream with rfl | rfl
    · exact isStreamOf_stored rfl (by decide)
    · exact isStreamOf_stored rfl hsize
  refine ⟨hmessage, houter, htell, hinner, hblock, hstreams, ?_⟩
  exact decode_packaged codec hmessage houter htell hinner hblock (by simp [streams]) hstreams
    (by simp [streams])

end WeatherRadar.Level3
