import Mathlib.Data.List.SplitLengths
import WeatherRadar.Proofs.Level3.Decoded
import WeatherRadar.Proofs.Level3.Words
/-!
# Header and description are their bytes

Bytes of any values spell a number that is written as these bytes (`bigEndianBytes_bigEndian`).  So
the fields of a header and of a description are all the bytes that they were read from
(`MessageHeader.fields_ofBytes`, `Description.fields_fieldsOf`), and sections are read from the
bytes that they are written as, and written as the bytes that they are read from
(`sections_are_bytes`).
-/

namespace WeatherRadar

/-! ## Numbers -/

/-- More than the bytes can hold does not show in them. -/
theorem bigEndianBytes_add_mul (width value more : Nat) :
    bigEndianBytes width (value + more * 256 ^ width) = bigEndianBytes width value := by
  induction width generalizing more with
  | zero => rfl
  | succ width ih =>
      have hsplit : more * 256 ^ (width + 1) = more * 256 * 256 ^ width := by
        rw [Nat.pow_succ, Nat.mul_comm (256 ^ width), Nat.mul_assoc]
      rw [bigEndianBytes, bigEndianBytes, hsplit, ih]
      congr 1
      have hpos : 0 < 256 ^ width := Nat.pow_pos (by decide)
      have hquotient : (value + more * 256 * 256 ^ width) / Nat.pow 256 width =
          value / Nat.pow 256 width + more * 256 := Nat.add_mul_div_right _ _ hpos
      apply UInt8.toNat_inj.1
      rw [hquotient, UInt8.toNat_ofNat', UInt8.toNat_ofNat', Nat.add_mul_mod_self_right]

theorem bigEndianBytes_bigEndian (bytes : List UInt8) :
    bigEndianBytes bytes.length (bigEndian bytes) = bytes := by
  induction bytes with
  | nil => rfl
  | cons byte bytes ih =>
      have hpos : 0 < 256 ^ bytes.length := Nat.pow_pos (by decide)
      have hquotient : (bigEndian bytes + byte.toNat * 256 ^ bytes.length) /
          Nat.pow 256 bytes.length = byte.toNat := by
        have hdivided := Nat.add_mul_div_right (bigEndian bytes) byte.toNat hpos
        rwa [Nat.div_eq_of_lt (bigEndian_lt bytes), Nat.zero_add] at hdivided
      rw [bigEndian_cons, Nat.add_comm, List.length_cons, bigEndianBytes, hquotient,
        UInt8.ofNat_toNat, bigEndianBytes_add_mul, ih]

theorem bigEndianBytes_of_length {bytes : List UInt8} {width : Nat} (h : bytes.length = width) :
    bigEndianBytes width (bigEndian bytes % 256 ^ width) = bytes := by
  subst h
  rw [Nat.mod_eq_of_lt (bigEndian_lt bytes), bigEndianBytes_bigEndian]

theorem uint16Bytes_spelled {bytes : List UInt8} (h : bytes.length = 2) :
    uint16Bytes (UInt16.ofNat (bigEndian bytes)) = bytes :=
  bigEndianBytes_of_length h

theorem int16Bytes_spelled {bytes : List UInt8} (h : bytes.length = 2) :
    int16Bytes (Int16.ofNat (bigEndian bytes)) = bytes :=
  bigEndianBytes_of_length h

theorem uint32Bytes_spelled {bytes : List UInt8} (h : bytes.length = 4) :
    uint32Bytes (UInt32.ofNat (bigEndian bytes)) = bytes :=
  bigEndianBytes_of_length h

theorem int32Bytes_spelled {bytes : List UInt8} (h : bytes.length = 4) :
    int32Bytes (Int32.ofNat (bigEndian bytes)) = bytes :=
  bigEndianBytes_of_length h

namespace Level3

/-! ## Fields in their places -/

/-- The bytes of a field of some size at an offset. -/
def fieldAt (bytes : List UInt8) (offset size : Nat) : List UInt8 := (bytes.drop offset).take size

section Fields

variable {bytes : List UInt8} {offset size : Nat}

theorem length_fieldAt (h : offset + size ≤ bytes.length) :
    (fieldAt bytes offset size).length = size := by
  rw [fieldAt, List.length_take, List.length_drop]
  omega

theorem standsAt_fieldAt (h : offset + size ≤ bytes.length) :
    StandsAt bytes offset (fieldAt bytes offset size) := by
  refine ⟨bytes.take offset, (bytes.drop offset).drop size, ?_, ?_⟩
  · rw [fieldAt, List.take_append_drop, List.take_append_drop]
  · rw [List.length_take]
    omega

/-- What is read from a field is written as its bytes, if it is the number that they spell. -/
theorem spelled_fieldAt {ν : Type} {spell : ν → List UInt8} {n read : ν}
    (h : offset + size ≤ bytes.length) (hspelled : spell n = fieldAt bytes offset size)
    (hread : StandsAt bytes offset (spell n) → read = n) :
    spell read = fieldAt bytes offset size := by
  have hplace := standsAt_fieldAt h
  rw [← hspelled] at hplace
  rw [hread hplace, hspelled]

theorem uint16Bytes_uint16At (h : offset + 2 ≤ bytes.length) :
    uint16Bytes (uint16At bytes offset) = fieldAt bytes offset 2 :=
  spelled_fieldAt h (uint16Bytes_spelled (length_fieldAt h)) StandsAt.uint16At

theorem int16Bytes_int16At (h : offset + 2 ≤ bytes.length) :
    int16Bytes (int16At bytes offset) = fieldAt bytes offset 2 :=
  spelled_fieldAt h (int16Bytes_spelled (length_fieldAt h)) StandsAt.int16At

theorem uint32Bytes_uint32At (h : offset + 4 ≤ bytes.length) :
    uint32Bytes (uint32At bytes offset) = fieldAt bytes offset 4 :=
  spelled_fieldAt h (uint32Bytes_spelled (length_fieldAt h)) StandsAt.uint32At

theorem int32Bytes_int32At (h : offset + 4 ≤ bytes.length) :
    int32Bytes (int32At bytes offset) = fieldAt bytes offset 4 :=
  spelled_fieldAt h (int32Bytes_spelled (length_fieldAt h)) StandsAt.int32At

theorem singleton_getD (h : offset + 1 ≤ bytes.length) :
    [bytes.getD offset 0] = fieldAt bytes offset 1 := by
  obtain ⟨byte, hbyte⟩ := List.length_eq_one_iff.1 (length_fieldAt h)
  have hplace := standsAt_fieldAt h
  rw [hbyte] at hplace
  rw [hplace.byteAt, hbyte]

theorem fieldAt_add (bytes : List UInt8) (offset size more : Nat) :
    fieldAt bytes offset (size + more) =
      fieldAt bytes offset size ++ fieldAt bytes (offset + size) more := by
  rw [fieldAt, List.take_add, List.drop_drop, fieldAt, fieldAt]

/-- Numbers in a row are all the bytes that they are read from. -/
theorem flatMap_uint16At {count : Nat} (h : offset + 2 * count ≤ bytes.length) :
    (List.ofFn fun i : Fin count => uint16At bytes (offset + 2 * i.val)).flatMap uint16Bytes =
      fieldAt bytes offset (2 * count) := by
  induction count with
  | zero => simp [fieldAt]
  | succ count ih =>
      rw [List.ofFn_succ_last, List.flatMap_append, List.flatMap_singleton, Nat.mul_succ,
        fieldAt_add]
      congr 1
      · exact ih (by omega)
      · exact uint16Bytes_uint16At (by rw [Fin.val_last]; omega)

end Fields

/-! ## Sections -/

namespace MessageHeader

theorem fields_ofBytes {bytes : List UInt8} (h : bytes.length = size) :
    (ofBytes bytes).fields = fieldSizes.splitLengths bytes := by
  have hsize : bytes.length = 18 := h
  simp only [fieldSizes, List.splitLengths_cons, List.splitLengths_nil, List.drop_drop,
    Nat.reduceAdd]
  simp (disch := omega) only [fields, ofBytes, uint16Bytes_uint16At, int16Bytes_int16At,
    uint32Bytes_uint32At]
  rfl

/-- A message header is written as the bytes that it was read from. -/
theorem toBytes_ofBytes {bytes : List UInt8} (h : bytes.length = size) :
    (ofBytes bytes).toBytes = bytes := by
  rw [toBytes_eq, fields_ofBytes h]
  exact List.flatten_splitLengths _ _ (Nat.le_of_eq h)

end MessageHeader

namespace Description

theorem parameterOffsets_add_le : ∀ i : Fin 10, parameterOffsets[i] + 2 ≤ size := by decide

theorem parameterBytes_fieldsOf {bytes : List UInt8} (h : bytes.length = size) {i : Nat}
    (hi : i < 10) :
    (fieldsOf bytes).parameterBytes i = fieldAt bytes parameterOffsets[i] 2 := by
  have hparameter : (fieldsOf bytes).parameters[i] = int16At bytes parameterOffsets[i] :=
    Vector.getElem_map _ hi
  rw [parameterBytes_eq _ hi, hparameter]
  exact int16Bytes_int16At (h ▸ parameterOffsets_add_le ⟨i, hi⟩)

theorem fields_fieldsOf {bytes : List UInt8} (h : bytes.length = size)
    (hdivider : int16At bytes 0 = blockDivider) :
    (fieldsOf bytes).fields = fieldSizes.splitLengths bytes := by
  have hsize : bytes.length = 102 := h
  have hbefore : int16Bytes blockDivider = fieldAt bytes 0 2 := by
    rw [← hdivider, int16Bytes_int16At (by omega)]
  have hthresholds : (fieldsOf bytes).thresholds.toList.flatMap uint16Bytes =
      fieldAt bytes thresholdOffset 32 := by
    rw [fieldsOf, Vector.toList_ofFn]
    have hwithin : thresholdOffset + 2 * 16 ≤ bytes.length := by
      rw [hsize]
      decide
    exact flatMap_uint16At hwithin
  simp only [fieldSizes, List.splitLengths_cons, List.splitLengths_nil, List.drop_drop,
    Nat.reduceAdd]
  simp (disch := omega) only [fields, hbefore, hthresholds, parameterBytes_fieldsOf h]
  simp (disch := omega) only [fieldsOf, uint16Bytes_uint16At, int16Bytes_int16At,
    uint32Bytes_uint32At, int32Bytes_int32At, singleton_getD]
  rfl

/-- A description is written as the bytes that it was read from. -/
theorem toBytes_fieldsOf {bytes : List UInt8} (h : bytes.length = size)
    (hdivider : int16At bytes 0 = blockDivider) : (fieldsOf bytes).toBytes = bytes := by
  rw [toBytes_eq, fields_fieldsOf h hdivider]
  exact List.flatten_splitLengths _ _ (Nat.le_of_eq h)

theorem ofBytes_eq_ok_iff {bytes : List UInt8} {d : Description} :
    ofBytes bytes = .ok d ↔ int16At bytes 0 = blockDivider ∧ fieldsOf bytes = d := by
  simp only [ofBytes, beq_iff_eq]
  by_cases hdivider : int16At bytes 0 = blockDivider
  · simp [hdivider]
  · simp [hdivider]

theorem ofBytes_eq_error_iff {bytes : List UInt8} :
    (∃ fault, ofBytes bytes = .error fault) ↔ int16At bytes 0 ≠ blockDivider := by
  simp only [ofBytes, beq_iff_eq]
  by_cases hdivider : int16At bytes 0 = blockDivider
  · simp [hdivider]
  · simp [hdivider]

end Description

theorem fieldAt_two {bytes : List UInt8} {offset : Nat} (h : offset + 2 ≤ bytes.length) :
    fieldAt bytes offset 2 = [bytes[offset], bytes[offset + 1]] := by
  rw [fieldAt, List.drop_eq_getElem_cons (by omega), List.take_succ_cons,
    List.drop_eq_getElem_cons (by omega), List.take_succ_cons, List.take_zero]

theorem int16At_eq_iff {bytes : List UInt8} {offset : Nat} (h : offset + 2 ≤ bytes.length)
    (n : Int16) : int16At bytes offset = n ↔ fieldAt bytes offset 2 = int16Bytes n := by
  rw [← int16Bytes_int16At h]
  constructor
  · rintro rfl
    rfl
  · intro hbytes
    rw [← int16_spelled n, ← hbytes, int16_spelled]

theorem divider_iff {bytes : List UInt8} (h : 120 ≤ bytes.length) :
    int16At ((bytes.drop MessageHeader.size).take Description.size) 0 = blockDivider ↔
      bytes[18]? = some 0xFF ∧ bytes[19]? = some 0xFF := by
  have hsize := length_takeDescription h
  have hplace : fieldAt ((bytes.drop MessageHeader.size).take Description.size) 0 2 =
      fieldAt bytes 18 2 := by
    rw [fieldAt, List.drop_zero, List.take_take]
    rfl
  have hdivider : int16Bytes blockDivider = [0xFF, 0xFF] := by decide
  rw [int16At_eq_iff (by rw [hsize]; decide), hplace, hdivider, fieldAt_two (by omega),
    List.getElem?_eq_getElem (by omega), List.getElem?_eq_getElem (by omega)]
  simp

/-- Header and description are read back from the 120 bytes that they are written as.  From other
bytes, as many or more, the header is read as well, and the description unless the divider lacks;
what is read is written as the bytes that it was read from. -/
theorem sections_are_bytes :
    (∀ (message : MessageHeader) (description : Description) (rest : List UInt8),
      let written := message.toBytes ++ description.toBytes
      written.length = 120 ∧ ∃ next,
        MessageHeader.read (.ofBytes (written ++ rest)) = .ok (message, next) ∧
        Description.read next = .ok (description, ⟨written ++ rest, 120, rest⟩)) ∧
    ∀ bytes : List UInt8, 120 ≤ bytes.length → ∃ message next,
      MessageHeader.read (.ofBytes bytes) = .ok (message, next) ∧
      (∀ description last, Description.read next = .ok (description, last) →
        message.toBytes ++ description.toBytes = bytes.take 120) ∧
      ((∃ fault, Description.read next = .error fault) ↔
        ¬ (bytes[18]? = some 0xFF ∧ bytes[19]? = some 0xFF)) := by
  constructor
  · intro message description rest written
    have hmessage := message.reads (written ++ rest) 0 (description.toBytes ++ rest)
    have hdescription := description.reads (written ++ rest) (0 + message.toBytes.length) rest
    rw [message.length_toBytes, description.length_toBytes] at hdescription
    refine ⟨?_, _, ?_, hdescription⟩
    · rw [List.length_append, message.length_toBytes, description.length_toBytes]
      rfl
    · rw [message.length_toBytes, ← List.append_assoc] at hmessage
      exact hmessage
  · intro bytes hsize
    have hfront : (bytes.take MessageHeader.size).length = MessageHeader.size :=
      List.length_take_of_le (Nat.le_trans (by decide) hsize)
    refine ⟨_, _, readMessageHeader_eq (Nat.le_trans (by decide) hsize), ?_, ?_⟩
    · intro description last hread
      rw [readDescription_eq hsize] at hread
      obtain ⟨found, hfound, hsame⟩ := except_map_eq_ok.1 hread
      obtain ⟨hdivider, rfl⟩ := Description.ofBytes_eq_ok_iff.1 hfound
      obtain ⟨rfl, -⟩ := Prod.mk.inj hsame
      calc (MessageHeader.ofBytes (bytes.take MessageHeader.size)).toBytes ++ _
          = bytes.take MessageHeader.size ++
              (bytes.drop MessageHeader.size).take Description.size := by
            rw [MessageHeader.toBytes_ofBytes hfront,
              Description.toBytes_fieldsOf (length_takeDescription hsize) hdivider]
        _ = bytes.take 120 := List.take_add.symm
    · simp only [readDescription_eq hsize, except_map_eq_error]
      rw [Description.ofBytes_eq_error_iff, ← divider_iff hsize]

/-- Bytes of many values, of which only the divider is given. -/
theorem sections_are_bytes_counting :
    let bytes : List UInt8 := (List.range 125).map fun i =>
      if i / 2 = 9 then 0xFF else UInt8.ofNat (37 * i + 129)
    120 ≤ bytes.length ∧ bytes[18]? = some 0xFF ∧ bytes[19]? = some 0xFF ∧
      ∃ message next description last,
        MessageHeader.read (.ofBytes bytes) = .ok (message, next) ∧
        Description.read next = .ok (description, last) ∧
        message.toBytes ++ description.toBytes = bytes.take 120 := by
  intro bytes
  have hsize : 120 ≤ bytes.length := by simp [bytes]
  have hdivider : bytes[18]? = some 0xFF ∧ bytes[19]? = some 0xFF := by decide
  refine ⟨hsize, hdivider.1, hdivider.2, ?_⟩
  obtain ⟨message, next, hmessage, hwritten, hfails⟩ := sections_are_bytes.2 bytes hsize
  cases hdescription : Description.read next with
  | error fault => exact absurd hdivider (hfails.1 ⟨fault, hdescription⟩)
  | ok found =>
      exact ⟨message, next, found.1, found.2, hmessage, hdescription, hwritten _ _ hdescription⟩

end Level3

end WeatherRadar
