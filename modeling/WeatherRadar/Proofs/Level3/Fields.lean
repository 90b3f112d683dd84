import WeatherRadar.Level3.Header
/-!
# Fields of header and description

Numbers are read back from their bytes, and so are message headers (`MessageHeader.ofBytes_toBytes`)
and descriptions (`Description.ofBytes_toBytes`).  A cursor over bytes that begin with a field reads
the field and stands behind it.
-/

namespace WeatherRadar

/-! ## Numbers -/

theorem foldl_bigEndianBytes (width value start : Nat) :
    (bigEndianBytes width value).foldl (fun value b => value * 256 + b.toNat) start =
      start * Nat.pow 256 width + value % Nat.pow 256 width := by
  induction width generalizing start with
  | zero =>
      have hone : Nat.pow 256 0 = 1 := rfl
      rw [hone, Nat.mul_one, Nat.mod_one]
      rfl
  | succ width ih =>
      have hnext : Nat.pow 256 (width + 1) = Nat.pow 256 width * 256 := rfl
      rw [bigEndianBytes, List.foldl_cons, ih, UInt8.toNat_ofNat', hnext]
      generalize Nat.pow 256 width = unit
      calc (start * 256 + value / unit % 256) * unit + value % unit
          = start * (unit * 256) + (value % unit + unit * (value / unit % 256)) := by
            rw [Nat.add_mul, Nat.mul_assoc, Nat.add_assoc, Nat.mul_comm 256 unit,
              Nat.mul_comm (_ % _) unit, Nat.add_comm (unit * _)]
        _ = start * (unit * 256) + value % (unit * 256) := by
            rw [← Nat.mod_mul]

theorem bigEndian_bigEndianBytes {width value : Nat} (h : value < Nat.pow 256 width) :
    bigEndian (bigEndianBytes width value) = value := by
  rw [bigEndian, foldl_bigEndianBytes, Nat.zero_mul, Nat.zero_add, Nat.mod_eq_of_lt h]

theorem length_bigEndianBytes (width n : Nat) : (bigEndianBytes width n).length = width := by
  induction width with
  | zero => rfl
  | succ width ih => rw [bigEndianBytes, List.length_cons, ih]

theorem uint16_spelled (n : UInt16) : UInt16.ofNat (bigEndian (uint16Bytes n)) = n := by
  rw [uint16Bytes, bigEndian_bigEndianBytes n.toNat_lt, UInt16.ofNat_toNat]

theorem uint32_spelled (n : UInt32) : UInt32.ofNat (bigEndian (uint32Bytes n)) = n := by
  rw [uint32Bytes, bigEndian_bigEndianBytes n.toNat_lt, UInt32.ofNat_toNat]

theorem int16_spelled (n : Int16) : Int16.ofNat (bigEndian (int16Bytes n)) = n := by
  rw [int16Bytes, bigEndian_bigEndianBytes n.toUInt16.toNat_lt]
  have hofNat : Int16.ofNat n.toUInt16.toNat = (UInt16.ofNat n.toUInt16.toNat).toInt16 := rfl
  rw [hofNat, UInt16.ofNat_toNat, Int16.toInt16_toUInt16]

theorem int32_spelled (n : Int32) : Int32.ofNat (bigEndian (int32Bytes n)) = n := by
  rw [int32Bytes, bigEndian_bigEndianBytes n.toUInt32.toNat_lt]
  have hofNat : Int32.ofNat n.toUInt32.toNat = (UInt32.ofNat n.toUInt32.toNat).toInt32 := rfl
  rw [hofNat, UInt32.ofNat_toNat, Int32.toInt32_toUInt32]

@[simp] theorem length_uint16Bytes (n : UInt16) : (uint16Bytes n).length = 2 := rfl

@[simp] theorem length_int16Bytes (n : Int16) : (int16Bytes n).length = 2 := rfl

@[simp] theorem length_uint32Bytes (n : UInt32) : (uint32Bytes n).length = 4 := rfl

@[simp] theorem length_int32Bytes (n : Int32) : (int32Bytes n).length = 4 := rfl

namespace Level3

/-! ## Fields in their places -/

/-- A field stands at an offset of some bytes. -/
def StandsAt (bytes : List UInt8) (offset : Nat) (field : List UInt8) : Prop :=
  ∃ before after, bytes = before ++ (field ++ after) ∧ before.length = offset

/-- Where a field begins that follows fields of some sizes. -/
def placeAfter (sizes : List Nat) : Nat := sizes.foldr (· + ·) 0

/-- Fields in a row stand where the sizes of those before them say. -/
theorem standsAt_flatten {fields : List (List UInt8)} {sizes : List Nat}
    (hsizes : fields.map List.length = sizes) {i : Nat} (hi : i < fields.length) :
    StandsAt fields.flatten (placeAfter (sizes.take i)) fields[i] := by
  refine ⟨(fields.take i).flatten, (fields.drop (i + 1)).flatten, ?_, ?_⟩
  · rw [← List.flatten_cons, List.getElem_cons_drop, ← List.flatten_append,
      List.take_append_drop]
  · rw [List.length_flatten, ← hsizes, List.map_take]
    rfl

namespace StandsAt

variable {bytes field : List UInt8} {offset : Nat}

theorem getD (h : StandsAt bytes offset field) {k : Nat} (hk : k < field.length) :
    bytes.getD (offset + k) 0 = field.getD k 0 := by
  obtain ⟨before, after, rfl, rfl⟩ := h
  rw [List.getD_eq_getElem?_getD, List.getD_eq_getElem?_getD,
    List.getElem?_append_right (Nat.le_add_right _ _), Nat.add_sub_cancel_left,
    List.getElem?_append_left hk]

theorem uint16At {n : UInt16} (h : StandsAt bytes offset (uint16Bytes n)) :
    uint16At bytes offset = n := by
  rw [Level3.uint16At, h.getD (k := 1) (by simp), ← Nat.add_zero offset, h.getD (by simp)]
  exact uint16_spelled n

theorem int16At {n : Int16} (h : StandsAt bytes offset (int16Bytes n)) :
    int16At bytes offset = n := by
  rw [Level3.int16At, h.getD (k := 1) (by simp), ← Nat.add_zero offset, h.getD (by simp)]
  exact int16_spelled n

theorem uint32At {n : UInt32} (h : StandsAt bytes offset (uint32Bytes n)) :
    uint32At bytes offset = n := by
  rw [Level3.uint32At, h.getD (k := 1) (by simp), h.getD (k := 2) (by simp),
    h.getD (k := 3) (by simp), ← Nat.add_zero offset, h.getD (by simp)]
  exact uint32_spelled n

theorem int32At {n : Int32} (h : StandsAt bytes offset (int32Bytes n)) :
    int32At bytes offset = n := by
  rw [Level3.int32At, h.getD (k := 1) (by simp), h.getD (k := 2) (by simp),
    h.getD (k := 3) (by simp), ← Nat.add_zero offset, h.getD (by simp)]
  exact int32_spelled n

theorem byteAt {b : UInt8} (h : StandsAt bytes offset [b]) : bytes.getD offset 0 = b := by
  rw [← Nat.add_zero offset, h.getD (by simp)]
  rfl

theorem part {part : List UInt8} {k : Nat} (h : StandsAt bytes offset field)
    (hpart : StandsAt field k part) : StandsAt bytes (offset + k) part := by
  obtain ⟨before, after, rfl, rfl⟩ := h
  obtain ⟨before', after', rfl, rfl⟩ := hpart
  exact ⟨before ++ before', after' ++ after, by simp, by simp⟩

end StandsAt

/-! ## Message headers -/

namespace MessageHeader

variable (h : MessageHeader)

/-- The fields of a message header as they are written. -/
def fields : List (List UInt8) :=
  [int16Bytes h.code, uint16Bytes h.date, uint32Bytes h.time, uint32Bytes h.length,
    int16Bytes h.source, int16Bytes h.destination, uint16Bytes h.blockCount]

def fieldSizes : List Nat := [2, 2, 4, 4, 2, 2, 2]

theorem toBytes_eq : h.toBytes = h.fields.flatten := by
  simp [toBytes, fields]

theorem map_length_fields : h.fields.map List.length = fieldSizes := by
  simp [fields, fieldSizes]

theorem length_toBytes : h.toBytes.length = size := by
  rw [toBytes_eq, List.length_flatten, map_length_fields]
  rfl

theorem standsAt (i : Fin 7) :
    StandsAt h.toBytes (placeAfter (fieldSizes.take i.val)) (h.fields.get i) := by
  rw [toBytes_eq]
  exact standsAt_flatten h.map_length_fields i.isLt

/-- A message header is read back from its bytes. -/
theorem ofBytes_toBytes : ofBytes h.toBytes = h := by
  have hcode : int16At h.toBytes 0 = h.code := (h.standsAt 0).int16At
  have hdate : uint16At h.toBytes 2 = h.date := (h.standsAt 1).uint16At
  have htime : uint32At h.toBytes 4 = h.time := (h.standsAt 2).uint32At
  have hlength : uint32At h.toBytes 8 = h.length := (h.standsAt 3).uint32At
  have hsource : int16At h.toBytes 12 = h.source := (h.standsAt 4).int16At
  have hdestination : int16At h.toBytes 14 = h.destination := (h.standsAt 5).int16At
  have hblocks : uint16At h.toBytes 16 = h.blockCount := (h.standsAt 6).uint16At
  rw [ofBytes, hcode, hdate, htime, hlength, hsource, hdestination, hblocks]

end MessageHeader

/-! ## Descriptions -/

namespace Description

variable (d : Description)

/-- The fields of a description as they are written, with the divider before them. -/
def fields : List (List UInt8) :=
  [int16Bytes blockDivider, int32Bytes d.latitude, int32Bytes d.longitude, int16Bytes d.height,
    int16Bytes d.code, uint16Bytes d.operationalMode, uint16Bytes d.coveragePattern,
    int16Bytes d.sequenceNumber, uint16Bytes d.volumeScanNumber, uint16Bytes d.volumeDate,
    uint32Bytes d.volumeTime, uint16Bytes d.generationDate, uint32Bytes d.generationTime,
    d.parameterBytes 0, d.parameterBytes 1, uint16Bytes d.elevationNumber, d.parameterBytes 2,
    d.thresholds.toList.flatMap uint16Bytes, d.parameterBytes 3, d.parameterBytes 4,
    d.parameterBytes 5, d.parameterBytes 6, d.parameterBytes 7, d.parameterBytes 8,
    d.parameterBytes 9, [d.version], [d.spotBlank], uint32Bytes d.symbologyOffset,
    uint32Bytes d.graphicOffset, uint32Bytes d.tabularOffset]

def fieldSizes : List Nat :=
  [2, 4, 4, 2, 2, 2, 2, 2, 2, 2, 4, 2, 4, 2, 2, 2, 2, 32, 2, 2, 2, 2, 2, 2, 2, 1, 1, 4, 4, 4]

theorem toBytes_eq : d.toBytes = d.fields.flatten := by
  unfold toBytes fields
  simp only [List.flatten_cons, List.flatten_nil, List.flatMap_cons, List.flatMap_nil,
    List.append_assoc, List.append_nil, List.cons_append, List.nil_append]

theorem length_flatMap_uint16Bytes (words : List UInt16) :
    (words.flatMap uint16Bytes).length = 2 * words.length := by
  induction words with
  | nil => rfl
  | cons word words ih =>
      rw [List.flatMap_cons, List.length_append, ih, List.length_cons, length_uint16Bytes]
      omega

theorem map_length_fields : d.fields.map List.length = fieldSizes := by
  have hthresholds : (d.thresholds.toList.flatMap uint16Bytes).length = 32 := by
    rw [length_flatMap_uint16Bytes, Vector.length_toList]
  simp only [fields, fieldSizes, parameterBytes, List.map_cons, List.map_nil, hthresholds,
    length_int16Bytes, length_uint16Bytes, length_int32Bytes, length_uint32Bytes,
    List.length_singleton]

theorem length_toBytes : d.toBytes.length = size := by
  rw [toBytes_eq, List.length_flatten, map_length_fields]
  rfl

theorem standsAt (i : Fin 30) :
    StandsAt d.toBytes (placeAfter (fieldSizes.take i.val)) (d.fields.get i) := by
  rw [toBytes_eq]
  exact standsAt_flatten d.map_length_fields i.isLt

theorem standsAt_words (words : List UInt16) {i : Nat} (hi : i < words.length) :
    StandsAt (words.flatMap uint16Bytes) (2 * i) (uint16Bytes words[i]) := by
  refine ⟨(words.take i).flatMap uint16Bytes, (words.drop (i + 1)).flatMap uint16Bytes, ?_, ?_⟩
  · rw [← List.flatMap_cons, List.getElem_cons_drop, ← List.flatMap_append,
      List.take_append_drop]
  · rw [length_flatMap_uint16Bytes, List.length_take, Nat.min_eq_left (Nat.le_of_lt hi)]

theorem parameterBytes_eq {i : Nat} (hi : i < 10) :
    d.parameterBytes i = int16Bytes d.parameters[i] := by
  rw [parameterBytes, Vector.getD, Array.getD, dif_pos (by simpa using hi)]
  rfl

theorem int16At_parameter {i : Nat} (hi : i < 10) :
    int16At d.toBytes parameterOffsets[i] = d.parameters[i] := by
  have hplace : StandsAt d.toBytes parameterOffsets[i] (d.parameterBytes i) := by
    match i, hi with
    | 0, _ => exact d.standsAt 13
    | 1, _ => exact d.standsAt 14
    | 2, _ => exact d.standsAt 16
    | 3, _ => exact d.standsAt 18
    | 4, _ => exact d.standsAt 19
    | 5, _ => exact d.standsAt 20
    | 6, _ => exact d.standsAt 21
    | 7, _ => exact d.standsAt 22
    | 8, _ => exact d.standsAt 23
    | 9, _ => exact d.standsAt 24
  rw [d.parameterBytes_eq hi] at hplace
  exact hplace.int16At

theorem uint16At_threshold (i : Fin 16) :
    uint16At d.toBytes (thresholdOffset + 2 * i.val) = d.thresholds[i] :=
  ((d.standsAt 17).part (standsAt_words d.thresholds.toList (by simp))).uint16At

/-- A description is read back from its bytes. -/
theorem fieldsOf_toBytes : fieldsOf d.toBytes = d := by
  have hlatitude : int32At d.toBytes 2 = d.latitude := (d.standsAt 1).int32At
  have hlongitude : int32At d.toBytes 6 = d.longitude := (d.standsAt 2).int32At
  have hheight : int16At d.toBytes 10 = d.height := (d.standsAt 3).int16At
  have hcode : int16At d.toBytes 12 = d.code := (d.standsAt 4).int16At
  have hmode : uint16At d.toBytes 14 = d.operationalMode := (d.standsAt 5).uint16At
  have hpattern : uint16At d.toBytes 16 = d.coveragePattern := (d.standsAt 6).uint16At
  have hsequence : int16At d.toBytes 18 = d.sequenceNumber := (d.standsAt 7).int16At
  have hscan : uint16At d.toBytes 20 = d.volumeScanNumber := (d.standsAt 8).uint16At
  have hvolumeDate : uint16At d.toBytes 22 = d.volumeDate := (d.standsAt 9).uint16At
  have hvolumeTime : uint32At d.toBytes 24 = d.volumeTime := (d.standsAt 10).uint32At
  have hgenerationDate : uint16At d.toBytes 28 = d.generationDate := (d.standsAt 11).uint16At
  have hgenerationTime : uint32At d.toBytes 30 = d.generationTime := (d.standsAt 12).uint32At
  have helevation : uint16At d.toBytes 38 = d.elevationNumber := (d.standsAt 15).uint16At
  have hversion : d.toBytes.getD 88 0 = d.version := (d.standsAt 25).byteAt
  have hspotBlank : d.toBytes.getD 89 0 = d.spotBlank := (d.standsAt 26).byteAt
  have hsymbology : uint32At d.toBytes 90 = d.symbologyOffset := (d.standsAt 27).uint32At
  have hgraphic : uint32At d.toBytes 94 = d.graphicOffset := (d.standsAt 28).uint32At
  have htabular : uint32At d.toBytes 98 = d.tabularOffset := (d.standsAt 29).uint32At
  have hparameters : parameterOffsets.map (int16At d.toBytes) = d.parameters := by
    apply Vector.ext
    intro i hi
    rw [Vector.getElem_map, d.int16At_parameter hi]
  have hthresholds : (Vector.ofFn fun i : Fin 16 =>
      uint16At d.toBytes (thresholdOffset + 2 * i.val)) = d.thresholds := by
    apply Vector.ext
    intro i hi
    rw [Vector.getElem_ofFn]
    exact d.uint16At_threshold ⟨i, hi⟩
  rw [fieldsOf, hlatitude, hlongitude, hheight, hcode, hmode, hpattern, hsequence, hscan,
    hvolumeDate, hvolumeTime, hgenerationDate, hgenerationTime, helevation, hparameters,
    hthresholds, hversion, hspotBlank, hsymbology, hgraphic, htabular]

theorem ofBytes_toBytes : ofBytes d.toBytes = .ok d := by
  have hdivider : int16At d.toBytes 0 = blockDivider := (d.standsAt 0).int16At
  rw [ofBytes, hdivider, fieldsOf_toBytes]
  rfl

end Description

end Level3

end WeatherRadar
