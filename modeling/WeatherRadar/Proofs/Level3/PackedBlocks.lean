import WeatherRadar.Proofs.Level3.RoundTrip
/-!
# Packed blocks

A message whose blocks are packed is read like the message with the blocks as they are
(`decodeMessage_packed`): the expanded blocks take the place of the packed ones, so that the block
offsets find the same bytes, and nothing that is read there depends on the header.
-/

namespace WeatherRadar.Level3

/-! ## Fields that are overwritten -/

/-- Bytes with a field written over those at an offset. -/
def overwrite (bytes : List UInt8) (offset : Nat) (field : List UInt8) : List UInt8 :=
  bytes.take offset ++ (field ++ bytes.drop (offset + field.length))

section Overwrite

variable {bytes field : List UInt8} {offset : Nat}

theorem length_overwrite (h : offset + field.length ≤ bytes.length) :
    (overwrite bytes offset field).length = bytes.length := by
  unfold overwrite
  simp only [List.length_append, List.length_take, List.length_drop]
  omega

theorem standsAt_overwrite (h : offset ≤ bytes.length) :
    StandsAt (overwrite bytes offset field) offset field :=
  ⟨_, _, rfl, List.length_take_of_le h⟩

theorem getD_overwrite (h : offset + field.length ≤ bytes.length) {i : Nat}
    (hi : i < offset ∨ offset + field.length ≤ i) :
    (overwrite bytes offset field).getD i 0 = bytes.getD i 0 := by
  have hfront : (bytes.take offset).length = offset := List.length_take_of_le (by omega)
  unfold overwrite
  rw [List.getD_eq_getElem?_getD, List.getD_eq_getElem?_getD]
  congr 1
  rcases hi with hi | hi
  · rw [List.getElem?_append_left (by omega), List.getElem?_take_of_lt hi]
  · rw [List.getElem?_append_right (by omega), List.getElem?_append_right (by omega), hfront,
      List.getElem?_drop]
    congr 1
    omega

end Overwrite

/-- The parameters of a product whose blocks are packed, with a hint of their size. -/
def packedParameters (p9 p10 : Int16) (parameters : Vector Int16 10) : Vector Int16 10 :=
  ((parameters.set 7 Description.compressedMethod).set 8 p9).set 9 p10

def Description.withPacking (p9 p10 : Int16) (d : Description) : Description :=
  { d with parameters := packedParameters p9 p10 d.parameters }

def packingFields (p9 p10 : Int16) : List UInt8 :=
  int16Bytes Description.compressedMethod ++ (int16Bytes p9 ++ int16Bytes p10)

theorem length_packingFields (p9 p10 : Int16) : (packingFields p9 p10).length = 6 := rfl

theorem MessageHeader.ofBytes_overwrite {bytes : List UInt8} (hsize : bytes.length = size)
    (length : UInt32) : ofBytes (overwrite bytes 8 (uint32Bytes length)) =
      { ofBytes bytes with length := length } := by
  have hfits : 8 + (uint32Bytes length).length ≤ bytes.length := by
    rw [hsize, length_uint32Bytes]
    decide
  have hlength : uint32At (overwrite bytes 8 (uint32Bytes length)) 8 = length :=
    (standsAt_overwrite (by omega)).uint32At
  have hsame : ∀ i, i < 8 ∨ 12 ≤ i →
      (overwrite bytes 8 (uint32Bytes length)).getD i 0 = bytes.getD i 0 :=
    fun i hi => getD_overwrite hfits hi
  unfold ofBytes
  rw [hlength]
  simp (disch := omega) only [int16At, uint16At, uint32At, hsame]

theorem getElem_packedParameters (p9 p10 : Int16) (parameters : Vector Int16 10) {i : Nat}
    (hi : i < 10) : (packedParameters p9 p10 parameters)[i] =
      if i = 7 then Description.compressedMethod else if i = 8 then p9 else if i = 9 then p10
        else parameters[i] := by
  unfold packedParameters
  grind

theorem getD_parameters (parameters : Vector Int16 10) {i : Nat} (hi : i < 10) :
    parameters.getD i 0 = parameters[i] := by
  rw [Vector.getD, Array.getD, dif_pos (by simpa using hi)]
  rfl

theorem Description.parameterOffsets_le : ∀ i : Fin 7, parameterOffsets[i.val] + 2 ≤ 82 := by
  decide

theorem Description.fieldsOf_overwrite {bytes : List UInt8} (hsize : bytes.length = size)
    (p9 p10 : Int16) :
    fieldsOf (overwrite bytes 82 (packingFields p9 p10)) = (fieldsOf bytes).withPacking p9 p10 := by
  have hfits : 82 + (packingFields p9 p10).length ≤ bytes.length := by
    rw [hsize, length_packingFields]
    decide
  have hstands : StandsAt (overwrite bytes 82 (packingFields p9 p10)) 82 (packingFields p9 p10) :=
    standsAt_overwrite (by omega)
  have h8 : int16At (overwrite bytes 82 (packingFields p9 p10)) 82 = compressedMethod :=
    (hstands.part ⟨[], int16Bytes p9 ++ int16Bytes p10, rfl, rfl⟩).int16At
  have h9 : int16At (overwrite bytes 82 (packingFields p9 p10)) 84 = p9 :=
    (hstands.part ⟨int16Bytes compressedMethod, int16Bytes p10, rfl, rfl⟩).int16At
  have h10 : int16At (overwrite bytes 82 (packingFields p9 p10)) 86 = p10 :=
    (hstands.part ⟨int16Bytes compressedMethod ++ int16Bytes p9, [], by simp [packingFields],
      rfl⟩).int16At
  have hsame : ∀ i, i < 82 ∨ 88 ≤ i →
      (overwrite bytes 82 (packingFields p9 p10)).getD i 0 = bytes.getD i 0 :=
    fun i hi => getD_overwrite hfits hi
  have hparameters : parameterOffsets.map (int16At (overwrite bytes 82 (packingFields p9 p10))) =
      packedParameters p9 p10 (parameterOffsets.map (int16At bytes)) := by
    apply Vector.ext
    intro i hi
    rw [Vector.getElem_map, getElem_packedParameters]
    by_cases hearly : i < 7
    · have hplace : parameterOffsets[i] + 2 ≤ 82 := parameterOffsets_le ⟨i, hearly⟩
      rw [if_neg (by omega), if_neg (by omega), if_neg (by omega), Vector.getElem_map]
      simp (disch := omega) only [int16At, hsame]
    · obtain rfl | rfl | rfl : i = 7 ∨ i = 8 ∨ i = 9 := by omega
      · exact h8
      · exact h9
      · exact h10
  have hthresholds : (Vector.ofFn fun i : Fin 16 => uint16At
      (overwrite bytes 82 (packingFields p9 p10)) (thresholdOffset + 2 * i.val)) =
        Vector.ofFn fun i : Fin 16 => uint16At bytes (thresholdOffset + 2 * i.val) := by
    apply Vector.ext
    intro i hi
    have hoffset : thresholdOffset = 42 := rfl
    rw [Vector.getElem_ofFn, Vector.getElem_ofFn, hoffset]
    simp (disch := omega) only [uint16At, hsame]
  unfold fieldsOf withPacking
  rw [hparameters, hthresholds]
  simp (disch := omega) only [int16At, int32At, uint16At, uint32At, hsame]

theorem Description.ofBytes_overwrite {bytes : List UInt8} (hsize : bytes.length = size)
    (p9 p10 : Int16) : ofBytes (overwrite bytes 82 (packingFields p9 p10)) =
      (ofBytes bytes).map (withPacking p9 p10) := by
  have hfits : 82 + (packingFields p9 p10).length ≤ bytes.length := by
    rw [hsize, length_packingFields]
    decide
  have hdivider : int16At (overwrite bytes 82 (packingFields p9 p10)) 0 = int16At bytes 0 := by
    unfold int16At
    rw [getD_overwrite hfits (by omega), getD_overwrite hfits (by omega)]
  unfold ofBytes
  rw [hdivider, fieldsOf_overwrite hsize]
  dsimp only
  split <;> rfl

theorem Description.eq_fieldsOf {bytes : List UInt8} {description : Description}
    (h : ofBytes bytes = .ok description) : description = fieldsOf bytes := by
  unfold ofBytes at h
  dsimp only at h
  split at h
  · exact (Except.ok.inj h).symm
  · cases h

/-! ## Parsers that do not look back -/

/-- A parser reads the bytes behind its place and nothing else. -/
def ReadsOn {α : Type} (p : Parser α) : Prop :=
  ∀ data other position rest, p ⟨other, position, rest⟩ =
    (p ⟨data, position, rest⟩).map fun read => (read.1, { read.2 with data := other })

namespace ReadsOn

variable {α β : Type} {p : Parser α} {f : α → Parser β}

theorem bind (hp : ReadsOn p) (hf : ∀ a, ReadsOn (f a)) : ReadsOn (p >>= f) := by
  intro data other position rest
  have hother := hp data other position rest
  cases hread : p ⟨data, position, rest⟩ with
  | error fault =>
      rw [hread] at hother
      simp only [Bind.bind, StateT.bind, hread, hother, Except.map, Except.bind]
  | ok read =>
      rw [hread] at hother
      rw [bind_of_ok hread, bind_of_ok hother]
      exact hf read.1 read.2.data other read.2.position read.2.rest

theorem number (place : Place) (n : Nat) (value : List UInt8 → α) :
    ReadsOn (Parser.of (fun cursor => (cursor.readBytes n).map fun read =>
      (value read.1, read.2)) place) := by
  intro data other position rest
  simp only [Parser.of, Cursor.readBytes, Cursor.skip]
  by_cases hall : Cursor.hasAtLeast n rest = true
  · rw [if_pos hall, if_pos hall]
    rfl
  · rw [if_neg hall, if_neg hall]
    rfl

theorem uint16 (place : Place) : ReadsOn (Parser.uint16 place) :=
  number place 2 fun bytes => UInt16.ofNat (bigEndian bytes)

theorem int16 (place : Place) : ReadsOn (Parser.int16 place) :=
  number place 2 fun bytes => Int16.ofNat (bigEndian bytes)

theorem uint32 (place : Place) : ReadsOn (Parser.uint32 place) :=
  number place 4 fun bytes => UInt32.ofNat (bigEndian bytes)

theorem block (n : Nat) : ReadsOn (Parser.block n) := by
  intro data other position rest
  rfl

theorem of_except (e : Except Error α) : ReadsOn (liftM e : Parser α) := by
  intro data other position rest
  cases e <;> rfl

theorem run (h : ReadsOn p) (data other : List UInt8) (position : Nat)
    (rest : List UInt8) : p.run' ⟨other, position, rest⟩ = p.run' ⟨data, position, rest⟩ := by
  rw [StateT.run', StateT.run', h data other position rest]
  cases p ⟨data, position, rest⟩ <;> rfl

variable [Scalar α]

theorem read : ReadsOn (Symbology.read : Parser (Symbology α)) := by
  unfold Symbology.read
  refine (int16 _).bind fun divider => (int16 _).bind fun block => ?_
  by_cases hheader : (divider != blockDivider || block != Symbology.blockId) = true
  · rw [if_pos hheader]
    intro data other position rest
    rfl
  · rw [if_neg hheader]
    refine (uint32 _).bind fun length => (uint16 _).bind fun layers => ?_
    exact (ReadsOn.block _).bind fun body => of_except _

end ReadsOn

/-! ## Messages with packed blocks -/

variable {α : Type} [Scalar α]

/-- The message header and the description of a message, changed for packed blocks of some size and
with any hint of the size of the expanded ones. -/
def packedSections (bytes : List UInt8) (size : Nat) (p9 p10 : Int16) : List UInt8 :=
  overwrite (bytes.take MessageHeader.size) 8
      (uint32Bytes (UInt32.ofNat (Description.bodyOffset + size))) ++
    overwrite ((bytes.drop MessageHeader.size).take Description.size) 82 (packingFields p9 p10)

def packedMessage (bytes packed : List UInt8) (p9 p10 : Int16) : List UInt8 :=
  packedSections bytes packed.length p9 p10 ++ packed

def Product.withPacking (p9 p10 : Int16) (product : Product α) : Product α :=
  { product with header :=
    { product.header with parameters := packedParameters p9 p10 product.header.parameters } }

/-- Errors of one kind and place.  Of a short read the numbers may differ. -/
def Error.Alike : Error → Error → Prop
  | .truncated place _, .truncated other _ => place = other
  | fault, other => fault = other

/-- Two readings fail alike, or give values that stand in a relation. -/
def Matches {β : Type} (r : β → β → Prop) : Except Error β → Except Error β → Prop
  | .ok a, .ok b => r a b
  | .error fault, .error other => fault.Alike other
  | _, _ => False

section Matches

variable {β γ : Type} {r : β → β → Prop} {s : γ → γ → Prop}

theorem Error.alike_refl (fault : Error) : fault.Alike fault := by
  cases fault <;> rfl

theorem matches_of_eq {x y : Except Error β} (h : x = y) : Matches Eq x y := by
  subst h
  cases x with
  | error fault => exact fault.alike_refl
  | ok a => rfl

theorem Matches.map {x y : Except Error β} (h : Matches r x y) {f g : β → γ}
    (hfg : ∀ a b, r a b → s (f a) (g b)) : Matches s (x.map f) (y.map g) := by
  cases x <;> cases y
  · exact h
  · exact h
  · exact h
  · exact hfg _ _ h

end Matches

theorem ofSections_withPacking (message : MessageHeader) (length : UInt32)
    (description : Description) (heading : Option Heading) (p9 p10 : Int16) :
    (ProductHeader.ofSections { message with length := length }
      (description.withPacking p9 p10) heading : ProductHeader α) =
      { (ProductHeader.ofSections message description heading : ProductHeader α) with
        parameters := packedParameters p9 p10 description.parameters } := by
  have helevation : (description.withPacking p9 p10).elevationTenths =
      description.elevationTenths := by
    unfold Description.elevationTenths Description.withPacking
    rw [getD_parameters _ (by decide), getD_parameters _ (by decide), getElem_packedParameters]
    rfl
  unfold ProductHeader.ofSections
  rw [helevation]
  rfl

theorem compressionMethod_withPacking (description : Description) (p9 p10 : Int16) :
    (description.withPacking p9 p10).compressionMethod = Description.compressedMethod := by
  unfold Description.compressionMethod Description.withPacking
  rw [getD_parameters _ (by decide), getElem_packedParameters]
  rfl

section Message

variable {codec : Codec} {bytes packed : List UInt8}

theorem length_takeMessage (hsize : Description.bodyOffset ≤ bytes.length) :
    (bytes.take MessageHeader.size).length = MessageHeader.size :=
  List.length_take_of_le (Nat.le_trans (by decide) hsize)

theorem length_packedSections (hsize : Description.bodyOffset ≤ bytes.length) (size : Nat)
    (p9 p10 : Int16) : (packedSections bytes size p9 p10).length = Description.bodyOffset := by
  have hmessage := length_takeMessage hsize
  have hdescription := length_takeDescription hsize
  unfold packedSections
  rw [List.length_append, length_overwrite, length_overwrite, hmessage, hdescription]
  · rfl
  · rw [hdescription, length_packingFields]
    decide
  · rw [hmessage, length_uint32Bytes]
    decide

theorem expandMessage_packed (hsize : Description.bodyOffset ≤ bytes.length)
    (hpacked : codec.expandBlocks packed = some (bytes.drop Description.bodyOffset))
    (hlength : Description.bodyOffset + packed.length < 0x100000000) (trailing : List UInt8)
    (p9 p10 : Int16) (message : MessageHeader) :
    expandMessage codec (packedMessage bytes packed p9 p10 ++ trailing)
      { message with length := UInt32.ofNat (Description.bodyOffset + packed.length) } =
        .ok (packedSections bytes packed.length p9 p10 ++ bytes.drop Description.bodyOffset) := by
  have hsections := length_packedSections hsize packed.length p9 p10
  have hcount : (UInt32.ofNat (Description.bodyOffset + packed.length)).toNat -
      Description.bodyOffset = packed.length := by
    rw [UInt32.toNat_ofNat', Nat.mod_eq_of_lt hlength, Nat.add_sub_cancel_left]
  unfold packedMessage expandMessage
  rw [hcount, List.append_assoc, ← hsections, List.drop_left, List.take_left]
  dsimp only
  rw [List.take_left, expandBlocks, hpacked, hsections]
  rfl

/-- What stands behind an offset is the same, packed or not. -/
theorem readBlock_packed (hsize : Description.bodyOffset ≤ bytes.length)
    (hpacked : codec.expandBlocks packed = some (bytes.drop Description.bodyOffset))
    (hlength : Description.bodyOffset + packed.length < 0x100000000) (trailing : List UInt8)
    (p9 p10 : Int16) (message : MessageHeader) {description : Description}
    (hplain : description.compressionMethod = 0) {offset : Nat}
    (hoffset : Description.bodyOffset ≤ offset) :
    Matches Eq (readBlock codec bytes message description offset : Except Error (Symbology α))
      (readBlock codec (packedMessage bytes packed p9 p10 ++ trailing)
        { message with length := UInt32.ofNat (Description.bodyOffset + packed.length) }
        (description.withPacking p9 p10) offset) := by
  have hsections := length_packedSections hsize packed.length p9 p10
  have hmethod := compressionMethod_withPacking description p9 p10
  have hcompressed : (description.withPacking p9 p10).isCompressed = true := by
    rw [Description.isCompressed, hmethod]
    rfl
  unfold readBlock bodyCursor
  rw [hplain, hmethod, hcompressed, expandMessage_packed hsize hpacked hlength]
  rw [if_pos (by decide), if_neg (by decide), if_pos rfl]
  -- The expanded message has the length of the plain one, and from every offset on the same bytes.
  generalize hexpanded : packedSections bytes packed.length p9 p10 ++
    bytes.drop Description.bodyOffset = expanded
  have hcount : expanded.length = bytes.length := by
    rw [← hexpanded, List.length_append, hsections, List.length_drop]
    omega
  have hdrop : expanded.drop offset = bytes.drop offset := by
    rw [← hexpanded, List.drop_append, List.drop_of_length_le (by omega), List.drop_drop, hsections,
      Nat.add_sub_cancel' hoffset, List.nil_append]
  simp only [Except.map, bind, Except.bind, Cursor.seek, Cursor.ofBytes, hdrop]
  by_cases hreach : offset ≤ bytes.length
  · rw [if_pos ((hasAtLeast_iff _ _).2 hreach), if_pos ((hasAtLeast_iff _ _).2 (by omega))]
    apply matches_of_eq
    exact ReadsOn.read.run _ _ _ _
  · have hshort : ¬ Cursor.hasAtLeast offset bytes = true := by
      rwa [hasAtLeast_iff]
    have hshort' : ¬ Cursor.hasAtLeast offset expanded = true := by
      rwa [hasAtLeast_iff, hcount]
    rw [if_neg hshort, if_neg hshort']
    exact (rfl : Place.symbology = Place.symbology)

theorem ofSymbology_withPacking (message : MessageHeader) (length : UInt32)
    (description : Description) (heading : Option Heading) (p9 p10 : Int16)
    (symbology : Symbology α) :
    Product.ofSymbology (.ofSections { message with length := length }
        (description.withPacking p9 p10) heading) heading
      (.ofDescription (description.withPacking p9 p10)) symbology =
      (Product.ofSymbology (.ofSections message description heading) heading
        (.ofDescription description) symbology).withPacking p9 p10 := by
  rw [ofSections_withPacking]
  cases symbology <;> rfl

theorem decodeSections_packed (hsize : Description.bodyOffset ≤ bytes.length)
    (hpacked : codec.expandBlocks packed = some (bytes.drop Description.bodyOffset))
    (hlength : Description.bodyOffset + packed.length < 0x100000000) (trailing : List UInt8)
    (p9 p10 : Int16) (message : MessageHeader) {description : Description}
    (hplain : description.compressionMethod = 0) (heading : Option Heading) :
    Matches (fun plain packed => packed = plain.withPacking p9 p10)
      (decodeSections codec bytes message description heading : Except Error (Product α))
      (decodeSections codec (packedMessage bytes packed p9 p10 ++ trailing)
        { message with length := UInt32.ofNat (Description.bodyOffset + packed.length) }
        (description.withPacking p9 p10) heading) := by
  have hblocks : (BlockLayout.ofDescription (description.withPacking p9 p10)).symbology =
      (BlockLayout.ofDescription description).symbology := rfl
  unfold decodeSections
  dsimp only
  rw [hblocks]
  by_cases hunknown : (ProductKind.ofCode? message.code).isNone = true
  · rw [if_pos hunknown, if_pos hunknown, ofSections_withPacking]
    exact (rfl : _ = _)
  · rw [if_neg hunknown, if_neg hunknown]
    cases hoffset : (BlockLayout.ofDescription description).symbology with
    | none => exact ofSymbology_withPacking message _ description heading p9 p10 .empty
    | some offset =>
        apply (readBlock_packed hsize hpacked hlength trailing p9 p10 message hplain
          (le_of_blockOffset? hoffset)).map
        rintro symbology _ rfl
        exact ofSymbology_withPacking message _ description heading p9 p10 symbology

end Message

/-- A message whose blocks are packed is read like the message with the blocks as they are, whatever
follows the packed ones and whatever size is announced for the expanded ones: the products are the
same but for the parameters of the packing, or the faults are of one kind and place. -/
theorem decodeMessage_packed {codec : Codec} {bytes packed : List UInt8}
    (hsize : Description.bodyOffset ≤ bytes.length)
    (hplain : (Description.fieldsOf ((bytes.drop MessageHeader.size).take
      Description.size)).compressionMethod = 0)
    (hpacked : codec.expandBlocks packed = some (bytes.drop Description.bodyOffset))
    (hlength : Description.bodyOffset + packed.length < 0x100000000) (trailing : List UInt8)
    (p9 p10 : Int16) (heading : Option Heading) :
    Matches (fun plain packed => packed = plain.withPacking p9 p10)
      (decodeMessage codec bytes heading : Except Error (Product α))
      (decodeMessage codec (packedMessage bytes packed p9 p10 ++ trailing) heading) := by
  have hmessage := length_takeMessage hsize
  have hdescription := length_takeDescription hsize
  rw [decodeMessage_eq hsize]
  unfold packedMessage packedSections
  rw [List.append_assoc _ packed, decodeMessage_append codec,
    MessageHeader.ofBytes_overwrite hmessage, Description.ofBytes_overwrite hdescription]
  · cases hread : Description.ofBytes ((bytes.drop MessageHeader.size).take Description.size) with
    | error fault => exact fault.alike_refl
    | ok description =>
        have hfields := Description.eq_fieldsOf hread
        rw [← hfields] at hplain
        have hsame := decodeSections_packed (α := α) hsize hpacked hlength trailing p9 p10
          (.ofBytes (bytes.take MessageHeader.size)) hplain heading
        unfold packedMessage packedSections at hsame
        rw [List.append_assoc _ packed] at hsame
        exact hsame
  · rw [length_overwrite (by rw [hmessage, length_uint32Bytes]; decide), hmessage]
  · rw [length_overwrite (by rw [hdescription, length_packingFields]; decide), hdescription]

/-- A message with two radials. -/
def packingSample : List UInt8 :=
  sampleMessage.toBytes ++ sampleDescription.toBytes ++ sampleBlock

/-- The radials are packed as bzip2 packs them. -/
theorem decodeMessage_packed_sample :
    Description.bodyOffset ≤ packingSample.length ∧
    (Description.fieldsOf ((packingSample.drop MessageHeader.size).take
      Description.size)).compressionMethod = 0 ∧
    sampleCodec.expandBlocks samplePacked = some (packingSample.drop Description.bodyOffset) ∧
    Description.bodyOffset + samplePacked.length < 0x100000000 ∧
    ∃ plain : Product Rat, decodeMessage sampleCodec packingSample none = .ok plain ∧
      plain.moment = .radial ∧ plain.radials.length = 2 ∧
      decodeMessage sampleCodec (packedMessage packingSample samplePacked 7 (-5) ++ [66, 90]) none =
        .ok (plain.withPacking 7 (-5)) := by
  have hsize : Description.bodyOffset ≤ packingSample.length := by decide +kernel
  have hplain : (Description.fieldsOf ((packingSample.drop MessageHeader.size).take
      Description.size)).compressionMethod = 0 := by decide +kernel
  have hpacked : sampleCodec.expandBlocks samplePacked =
      some (packingSample.drop Description.bodyOffset) := by decide +kernel
  have hlength : Description.bodyOffset + samplePacked.length < 0x100000000 := by decide
  refine ⟨hsize, hplain, hpacked, hlength, ?_⟩
  have hsame := decodeMessage_packed (α := Rat) hsize hplain hpacked hlength [66, 90] 7 (-5) none
  have hchecked : ((decodeMessage sampleCodec packingSample none :
      Except Error (Product Rat)).toOption.any fun product =>
        decide (product.moment = .radial ∧ product.radials.length = 2)) = true := by
    decide +kernel
  obtain ⟨plain, hread, hpassed⟩ := exists_ok_of_any hchecked
  have hfacts := of_decide_eq_true hpassed
  rw [hread] at hsame
  refine ⟨plain, hread, hfacts.1, hfacts.2, ?_⟩
  cases hother : (decodeMessage sampleCodec (packedMessage packingSample samplePacked 7 (-5) ++
      [66, 90]) none : Except Error (Product Rat)) with
  | error fault =>
      rw [hother] at hsame
      cases hsame
  | ok packed =>
      rw [hother] at hsame
      exact congrArg Except.ok hsame

end WeatherRadar.Level3
