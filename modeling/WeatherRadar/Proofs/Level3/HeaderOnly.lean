import WeatherRadar.Proofs.Level3.Framing
import WeatherRadar.Proofs.Level3.Sections
/-!
# Products that end at their header

A product of an unknown kind, and one that announces no symbology block, is read as far as its
header.  It is the same product whatever stands behind the first 120 bytes, and whatever these say
about compression, lengths and other blocks (`decode_header_only`).
-/

namespace WeatherRadar.Level3

/-- Why a message with some first bytes is read no further than its header. -/
inductive EndsAtHeader (front : List UInt8) : UnparsedReason → Prop where
  | unknown (hcode : ProductKind.ofCode? (int16At front 0) = none) :
      EndsAtHeader front .unknownProduct
  /-- The block would begin before the 60th pair of bytes, within the header. -/
  | noBlock (hcode : (ProductKind.ofCode? (int16At front 0)).isSome = true)
      (hoffset : (uint32At front 108).toNat < 60) : EndsAtHeader front .noSymbology

/-- The product that some sections spell when nothing behind them is read. -/
def Product.ofSections {α : Type} [Scalar α] (message : MessageHeader) (description : Description)
    (reason : UnparsedReason) (heading : Option Heading) : Product α where
  header := .ofSections message description heading
  radials := []
  droppedRadials := []
  moment := .unparsed reason
  heading := heading
  blocks := .ofDescription description

/-! ## Sections at the front of a message -/

theorem blockOffset?_eq_none_iff {halfwords : UInt32} :
    Description.blockOffset? halfwords = none ↔ halfwords.toNat < 60 := by
  unfold Description.blockOffset? Description.bodyOffset MessageHeader.size Description.size
  dsimp only
  split
  · simp only [reduceCtorEq, false_iff]
    omega
  · simp only [true_iff]
    omega

theorem getD_take {bytes : List UInt8} {n offset : Nat} (h : offset < n) :
    (bytes.take n).getD offset 0 = bytes.getD offset 0 := by
  rw [List.getD_eq_getElem?_getD, List.getD_eq_getElem?_getD, List.getElem?_take_of_lt h]

theorem int16At_take {bytes : List UInt8} {n offset : Nat} (h : offset + 2 ≤ n) :
    int16At (bytes.take n) offset = int16At bytes offset := by
  unfold int16At
  rw [getD_take (by omega), getD_take (by omega)]

theorem uint32At_take {bytes : List UInt8} {n offset : Nat} (h : offset + 4 ≤ n) :
    uint32At (bytes.take n) offset = uint32At bytes offset := by
  unfold uint32At
  rw [getD_take (by omega), getD_take (by omega), getD_take (by omega), getD_take (by omega)]

theorem EndsAtHeader.take {bytes : List UInt8} {reason : UnparsedReason}
    (h : EndsAtHeader bytes reason) : EndsAtHeader (bytes.take 120) reason := by
  cases h with
  | unknown hcode =>
      apply EndsAtHeader.unknown
      rwa [int16At_take (by omega)]
  | noBlock hcode hoffset =>
      apply EndsAtHeader.noBlock
      · rwa [int16At_take (by omega)]
      · rwa [uint32At_take (by omega)]

theorem IsBareMessage.append_of_take {bytes : List UInt8} (h : IsBareMessage bytes)
    (rest : List UInt8) : IsBareMessage (bytes.take 120 ++ rest) := by
  have hsize := h.size
  have hplace : ∀ i < 120, (bytes.take 120 ++ rest)[i]? = bytes[i]? := by
    intro i hi
    rw [List.getElem?_append_left (by rw [List.length_take]; omega), List.getElem?_take_of_lt hi]
  constructor
  · rw [List.length_append, List.length_take]
    omega
  · rw [hplace 18 (by omega), hplace 19 (by omega)]
    exact h.divider
  · rw [List.head?_eq_getElem?, hplace 0 (by omega), ← List.head?_eq_getElem?]
    exact h.first

theorem uint32At_drop (bytes : List UInt8) (n offset : Nat) :
    uint32At (bytes.drop n) offset = uint32At bytes (n + offset) := by
  unfold uint32At
  simp only [List.getD_eq_getElem?_getD, List.getElem?_drop, Nat.add_assoc]

/-- The first 120 bytes of a message are its header and its description, and where they end the
message these tell so. -/
theorem exists_sections {front : List UInt8} {reason : UnparsedReason}
    (hsize : front.length = 120) (hdivider : front[18]? = some 0xFF ∧ front[19]? = some 0xFF)
    (hends : EndsAtHeader front reason) :
    ∃ (message : MessageHeader) (description : Description),
      message.toBytes ++ description.toBytes = front ∧
      ∀ {α : Type} [Scalar α] (codec : Codec) (bytes : List UInt8) (heading : Option Heading),
        (decodeSections codec bytes message description heading : Except Error (Product α)) =
          .ok (.ofSections message description reason heading) := by
  have hfront : (front.take MessageHeader.size).length = MessageHeader.size := by
    rw [List.length_take, hsize]
    rfl
  have hback : (front.drop MessageHeader.size).length = Description.size := by
    rw [List.length_drop, hsize]
    rfl
  have hall : (front.drop MessageHeader.size).take Description.size =
      front.drop MessageHeader.size := List.take_of_length_le hback.le
  have hspelled : int16At (front.drop MessageHeader.size) 0 = blockDivider := by
    rw [← hall, divider_iff (by omega)]
    exact hdivider
  refine ⟨.ofBytes (front.take MessageHeader.size), .fieldsOf (front.drop MessageHeader.size),
    ?_, ?_⟩
  · rw [MessageHeader.toBytes_ofBytes hfront, Description.toBytes_fieldsOf hback hspelled,
      List.take_append_drop]
  · intro α _ codec bytes heading
    have hcode : (MessageHeader.ofBytes (front.take MessageHeader.size)).code = int16At front 0 :=
      int16At_take (by decide)
    have hoffset : (Description.fieldsOf (front.drop MessageHeader.size)).symbologyOffset =
        uint32At front 108 := uint32At_drop front MessageHeader.size 90
    cases hends with
    | unknown hunknown =>
        rw [decodeSections, hcode, hunknown]
        rfl
    | noBlock hknown hbefore =>
        have hnone : (BlockLayout.ofDescription
            (.fieldsOf (front.drop MessageHeader.size))).symbology = none := by
          rw [BlockLayout.ofDescription, hoffset, blockOffset?_eq_none_iff]
          exact hbefore
        obtain ⟨kind, hkind⟩ := Option.isSome_iff_exists.1 hknown
        rw [decodeSections, hcode, hkind, hnone]
        rfl

/-! ## The whole file -/

/-- A message of an unknown kind or without a symbology block is read as its header and description
say, which are its first 120 bytes.  What stands behind them is never looked at, nor is a codec. -/
theorem decode_header_only {α : Type} [Scalar α] {bytes : List UInt8} {reason : UnparsedReason}
    (hmessage : IsBareMessage bytes) (hends : EndsAtHeader bytes reason) :
    ∃ (message : MessageHeader) (description : Description),
      message.toBytes ++ description.toBytes = bytes.take 120 ∧
      ∀ (codec : Codec) (rest : List UInt8),
        (decodeWith codec (bytes.take 120 ++ rest) : Except Error (Product α)) =
          .ok (.ofSections message description reason none) := by
  have hsize : (bytes.take 120).length = 120 := List.length_take_of_le hmessage.size
  have hdivider : (bytes.take 120)[18]? = some 0xFF ∧ (bytes.take 120)[19]? = some 0xFF := by
    rw [List.getElem?_take_of_lt (by omega), List.getElem?_take_of_lt (by omega)]
    exact hmessage.divider
  obtain ⟨message, description, hbytes, hsections⟩ := exists_sections hsize hdivider hends.take
  refine ⟨message, description, hbytes, ?_⟩
  intro codec rest
  rw [decodeWith_bare (hmessage.append_of_take rest), ← hbytes, decodeMessage_sections]
  exact hsections codec _ none

/-- Two messages without radials whose descriptions ask for what cannot be done: the blocks of the
first one, which is of no known kind, are compressed in an unknown way, and the second one has its
other blocks far behind its end. -/
theorem decode_header_only_unusable :
    let message : ProductCode → UInt32 → List UInt8 := fun code offset =>
      (⟨code, 19000, 72000, 5, 67, 0, 9⟩ : MessageHeader).toBytes ++
        (⟨35333, -97278, 1213, 94, 2, 212, 1, 42, 19849, 79260, 19849, 79290, 1,
          #v[0, 0, 5, 0, 0, 0, 0, 7, -1, -1], .replicate 16 0xFEC0, 0, 0, offset, 0xFFFFFFFF,
          0x7FFFFFFF⟩ : Description).toBytes
    (IsBareMessage (message 1000 60) ∧ EndsAtHeader (message 1000 60) .unknownProduct ∧
      ∃ (header : MessageHeader) (description : Description),
        header.toBytes ++ description.toBytes = (message 1000 60).take 120 ∧
        ∀ (codec : Codec) (rest : List UInt8),
          (decodeWith codec ((message 1000 60).take 120 ++ rest) : Except Error (Product Rat)) =
            .ok (.ofSections header description .unknownProduct none)) ∧
    (IsBareMessage (message 94 59) ∧ EndsAtHeader (message 94 59) .noSymbology ∧
      ∃ (header : MessageHeader) (description : Description),
        header.toBytes ++ description.toBytes = (message 94 59).take 120 ∧
        ∀ (codec : Codec) (rest : List UInt8),
          (decodeWith codec ((message 94 59).take 120 ++ rest) : Except Error (Product Rat)) =
            .ok (.ofSections header description .noSymbology none)) := by
  intro message
  have hunknown : IsBareMessage (message 1000 60) := ⟨by decide, by decide, by decide⟩
  have hunknownEnds : EndsAtHeader (message 1000 60) .unknownProduct := .unknown (by decide)
  have hknown : IsBareMessage (message 94 59) := ⟨by decide, by decide, by decide⟩
  have hknownEnds : EndsAtHeader (message 94 59) .noSymbology :=
    .noBlock (by decide) (by decide)
  exact ⟨⟨hunknown, hunknownEnds, decode_header_only hunknown hunknownEnds⟩,
    ⟨hknown, hknownEnds, decode_header_only hknown hknownEnds⟩⟩

end WeatherRadar.Level3
