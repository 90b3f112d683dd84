import WeatherRadar.Proofs.Level3.Degrees
import WeatherRadar.Proofs.Level3.Reads
import WeatherRadar.Proofs.Level3.Runs
/-!
# Radials and packets

A radial or packet fits when a product file can hold it: counts below 32768, the announced number
of gates, and levels below 16 where they are packed into runs.  What fits is written, and it is read
back as it was (`Radial.Fits.written`, `readRadials_written`, `Symbology.read_written`), if numbers
keep degrees exactly.
-/

namespace WeatherRadar.Level3

namespace Symbology

theorem nonNegative_ofNat (count : PacketCount) {n : Nat} (hn : n < 0x8000) :
    nonNegative count (Int16.ofNat n) = .ok n := by
  have hvalue : (Int16.ofNat n).toInt = n := Int16.toInt_ofNat_of_lt (by omega)
  have hsign : ¬ Int16.ofNat n < 0 := by
    rw [Int16.lt_iff_toInt_lt, hvalue]
    have hzero : Int16.toInt 0 = 0 := rfl
    omega
  rw [nonNegative, if_neg hsign, Int16.toNatClampNeg, hvalue, Int.toNat_natCast]

/-- A radial is read with its payload, and the byte that evens the payload out is passed over. -/
theorem rawRadial_reads (encoding : GateEncoding) (index : Nat) {length : Nat}
    (hlength : length < 0x8000) (start width : Int16) {payload pad : List UInt8}
    (hpayload : payload.length = payloadSize encoding length)
    (hpad : pad.length = payload.length % 2) :
    Reads (rawRadial encoding index)
      (int16Bytes (Int16.ofNat length) ++ (int16Bytes start ++ (int16Bytes width ++
        (payload ++ pad)))) ⟨start, width, payload⟩ := by
  refine (Reads.int16 _ _).bind (Reads.of_ok (nonNegative_ofNat _ hlength) ?_)
  refine (Reads.int16 _ start).bind ((Reads.int16 _ width).bind ?_)
  refine (Reads.bytes _ hpayload).bind ?_
  intro data position rest
  rw [get_bind]
  by_cases hodd : payload.length % 2 = 1
  · have hsize : pad.length = 1 := hpad.trans hodd
    have hleft : (⟨data, position, pad ++ rest⟩ : Cursor).isEmpty = false := by
      rw [Cursor.isEmpty, List.isEmpty_eq_false_iff]
      intro hnil
      rw [(List.append_eq_nil_iff.1 hnil).1] at hsize
      cases hsize
    rw [← hpayload, hodd, hleft, if_pos (by decide),
      bind_of_ok (Reads.bytes _ hsize data position rest)]
    rfl
  · have hnil : pad = [] := by
      rw [← List.length_eq_zero_iff]
      omega
    have heven : (payloadSize encoding length % 2 == 1) = false := by
      rw [← hpayload, beq_eq_false_iff_ne]
      exact hodd
    rw [heven, Bool.false_and, if_neg Bool.false_ne_true, hnil]
    rfl

end Symbology

/-! ## Radials that packets can hold -/

variable {α : Type} [Scalar α]

open Symbology

/-- A radial as it is read from a packet of an encoding with a number of gates. -/
structure Radial.Fits (encoding : GateEncoding) (binCount : Nat) (radial : Radial α) : Prop where
  azimuth : ∃ start : Int16, radial.azimuth = normalizeAzimuth (degrees start)
  width : ∃ width : Int16, radial.width = degrees width
  packedAs : radial.encoding = encoding
  gates : ∃ levels : Array UInt8, radial.gates = .bytes levels ∧ levels.size = binCount ∧
    (encoding = .runLength4 → ∀ level ∈ levels.toList, level.toNat < 16)

theorem payloadOf_fits {encoding : GateEncoding} {binCount : Nat} {radial : Radial α}
    (hfits : radial.Fits encoding binCount)
    (hencoding : encoding = .runLength4 ∨ encoding = .literal8) :
    ∃ length payload pad, payloadOf radial = .ok (length, payload ++ pad) ∧ length ≤ binCount ∧
      payload.length = payloadSize encoding length ∧ pad.length = payload.length % 2 ∧
      payload.length ≤ binCount + 1 ∧
      GateLevels.expand payload encoding binCount = .ok radial.gates := by
  obtain ⟨levels, hgates, hsize, hsmall⟩ := hfits.gates
  have hcount : levels.toList.length = binCount := by
    rw [Array.length_toList, hsize]
  rcases hencoding with rfl | rfl
  · obtain ⟨packed, hpacked, hspelled, heven, hlength⟩ :=
      GateLevels.expandRuns_packRuns (hsmall rfl)
    refine ⟨packed.length / 2, packed, [], ?_, ?_, ?_, ?_, ?_, ?_⟩
    · rw [payloadOf, hfits.packedAs, hgates]
      simp only [hpacked, Except.map, List.append_nil]
    · omega
    · rw [payloadSize]
      omega
    · exact heven.symm
    · omega
    · have htotal : GateLevels.runTotal packed = binCount := by
        rw [GateLevels.runTotal_eq, hspelled, hcount]
      rw [GateLevels.expand, htotal, hspelled, hgates]
      simp
  · refine ⟨levels.size, levels.toList, List.replicate (levels.toList.length % 2) 0, ?_, ?_, ?_,
      ?_, ?_, ?_⟩
    · rw [payloadOf, hfits.packedAs, hgates]
      simp only [GateLevels.padEven_eq]
    · exact Nat.le_of_eq hsize
    · exact Array.length_toList
    · rw [List.length_replicate]
    · omega
    · rw [GateLevels.expand, hgates]
      simp [hsize]

theorem countBytes_of_lt (what : WrittenCount) {value : Nat} (h : value < 0x8000) :
    countBytes what value = .ok (int16Bytes (Int16.ofNat value)) := by
  rw [countBytes, if_pos h]

theorem Radial.Fits.written {encoding : GateEncoding} {binCount : Nat} {radial : Radial α}
    (hfits : radial.Fits encoding binCount)
    (hencoding : encoding = .runLength4 ∨ encoding = .literal8) (hbins : binCount < 0x8000) :
    ∃ bytes raw, radialBytes radial = .ok bytes ∧ bytes.length ≤ binCount + 8 ∧
      (∀ index, Reads (rawRadial encoding index) bytes raw) ∧
      (ExactDegrees α → ∀ index, raw.expand encoding binCount index = .ok (.inl radial)) := by
  obtain ⟨length, payload, pad, hpayload, hlength, hsize, hpad, hbound, hgates⟩ :=
    payloadOf_fits hfits hencoding
  obtain ⟨start, hazimuth⟩ := hfits.azimuth
  obtain ⟨width, hwidth⟩ := hfits.width
  have hcount : length < 0x8000 := Nat.lt_of_le_of_lt hlength hbins
  refine ⟨int16Bytes (Int16.ofNat length) ++ (int16Bytes (tenthsOf radial.azimuth) ++
    (int16Bytes (tenthsOf radial.width) ++ (payload ++ pad))),
    ⟨tenthsOf radial.azimuth, tenthsOf radial.width, payload⟩, ?_, ?_, ?_, ?_⟩
  · rw [radialBytes, hpayload]
    simp only [bind, Except.bind, countBytes_of_lt _ hcount, pure, Except.pure,
      List.append_assoc]
  · simp only [List.length_append, length_int16Bytes]
    omega
  · intro index
    exact rawRadial_reads encoding index hcount _ _ hsize hpad
  · intro hα index
    have hsame : normalizeAzimuth (degrees (tenthsOf radial.azimuth)) = radial.azimuth := by
      rw [hazimuth, hα.azimuth]
    have hwide : degrees (tenthsOf radial.width) = radial.width := by
      rw [hwidth, hα.tenths]
    simp only [RawRadial.expand, hgates, hsame, hwide]
    rw [← hfits.packedAs]

theorem readRadials_written {encoding : GateEncoding} {binCount : Nat}
    (hencoding : encoding = .runLength4 ∨ encoding = .literal8) (hbins : binCount < 0x8000)
    {radials : List (Radial α)} (hfits : ∀ radial ∈ radials, radial.Fits encoding binCount) :
    ∃ written, radials.mapM radialBytes = .ok written ∧
      written.flatten.length ≤ radials.length * (binCount + 8) ∧
      (ExactDegrees α → ∀ index kept dropped data position rest,
        readRadials encoding binCount radials.length index kept dropped
          ⟨data, position, written.flatten ++ rest⟩ =
            .ok (kept.reverse ++ radials, dropped.reverse)) := by
  induction radials with
  | nil =>
      refine ⟨[], rfl, Nat.zero_le _, ?_⟩
      intro _ index kept dropped data position rest
      rw [List.append_nil]
      rfl
  | cons radial radials ih =>
      obtain ⟨bytes, raw, hbytes, hsize, hraw, hexpand⟩ :=
        (hfits radial (by simp)).written hencoding hbins
      obtain ⟨written, hwritten, hsizes, hread⟩ := ih fun r hr => hfits r (by simp [hr])
      refine ⟨bytes :: written, ?_, ?_, ?_⟩
      · rw [List.mapM_cons, hbytes]
        simp only [bind, Except.bind, hwritten, pure, Except.pure]
      · rw [List.flatten_cons, List.length_append, List.length_cons, Nat.succ_mul]
        omega
      · intro hα index kept dropped data position rest
        rw [List.length_cons, List.flatten_cons, List.append_assoc, readRadials,
          hraw index data position (written.flatten ++ rest)]
        simp only [hexpand hα index]
        rw [hread hα, List.reverse_cons, List.append_assoc, List.singleton_append]

/-! ## Packets -/

/-- A packet as it is read. -/
structure RadialPacket.Fits (packet : RadialPacket α) : Prop where
  radials : ∃ encoding, packetEncoding? packet.header.code = some encoding ∧
    ∀ radial ∈ packet.radials, radial.Fits encoding packet.binCount
  binCount_lt : packet.binCount < 0x8000
  declared_lt : packet.declaredRadials < 0x8000
  complete : packet.radials.length + packet.dropped.length = packet.declaredRadials

theorem packetEncoding?_cases {code : UInt16} {encoding : GateEncoding}
    (h : packetEncoding? code = some encoding) :
    encoding = .runLength4 ∨ encoding = .literal8 := by
  rw [packetEncoding?] at h
  split at h
  · exact Or.inl (Option.some.inj h).symm
  · split at h
    · exact Or.inr (Option.some.inj h).symm
    · cases h

/-- What a packet of radials tells before its radials. -/
def packetFields (header : PacketHeader) (binCount declared : Nat) : List UInt8 :=
  int16Bytes header.firstBin ++ (int16Bytes (Int16.ofNat binCount) ++
    (int16Bytes header.iCenter ++ (int16Bytes header.jCenter ++
      (uint16Bytes header.rangeScale ++ int16Bytes (Int16.ofNat declared)))))

/-- Behind what a packet tells first, its radials decide what is read. -/
theorem readPacket_fields (header : PacketHeader) {binCount declared : Nat}
    (hbins : binCount < 0x8000) (hdeclared : declared < 0x8000) (encoding : GateEncoding)
    (data bytes : List UInt8) (position : Nat) :
    ∃ next, (readPacket header.code encoding : Parser (RadialPacket α))
      ⟨data, position, packetFields header binCount declared ++ bytes⟩ =
        (readRadials encoding binCount declared 0 [] [] ⟨data, next, bytes⟩).map fun radials =>
          (⟨header, binCount, declared, radials.1, radials.2⟩, ⟨data, next, bytes⟩) := by
  simp only [packetFields, List.append_assoc]
  rw [readPacket]
  rw [bind_of_ok (Reads.int16 _ header.firstBin data position _),
    bind_of_ok (Reads.int16 _ (Int16.ofNat binCount) data _ _),
    lift_of_ok (nonNegative_ofNat .bins hbins),
    bind_of_ok (Reads.int16 _ header.iCenter data _ _),
    bind_of_ok (Reads.int16 _ header.jCenter data _ _),
    bind_of_ok (Reads.uint16 _ header.rangeScale data _ _),
    bind_of_ok (Reads.int16 _ (Int16.ofNat declared) data _ _),
    lift_of_ok (nonNegative_ofNat .radials hdeclared), get_bind]
  exact ⟨_, lift_bind_pure⟩

theorem readPacket_of_radials (header : PacketHeader) {binCount declared : Nat}
    (hbins : binCount < 0x8000) (hdeclared : declared < 0x8000) {encoding : GateEncoding}
    {data bytes : List UInt8} {kept : List (Radial α)} {dropped : List (DroppedRadial α)}
    (hread : ∀ position, readRadials encoding binCount declared 0 [] []
      ⟨data, position, bytes⟩ = .ok (kept, dropped)) (position : Nat) :
    ∃ cursor, readPacket header.code encoding
      ⟨data, position, packetFields header binCount declared ++ bytes⟩ =
        .ok (⟨header, binCount, declared, kept, dropped⟩, cursor) := by
  obtain ⟨next, hpacket⟩ :=
    readPacket_fields (α := α) header hbins hdeclared encoding data bytes position
  rw [hpacket, hread]
  exact ⟨_, rfl⟩

def packetBytes (packet : RadialPacket α) (written : List (List UInt8)) : List UInt8 :=
  int16Bytes packet.header.firstBin ++ (int16Bytes (Int16.ofNat packet.binCount) ++
    (int16Bytes packet.header.iCenter ++ (int16Bytes packet.header.jCenter ++
      (uint16Bytes packet.header.rangeScale ++
        (int16Bytes (Int16.ofNat packet.declaredRadials) ++ written.flatten)))))

omit [Scalar α] in
theorem packetBytes_eq (packet : RadialPacket α) (written : List (List UInt8)) :
    packetBytes packet written =
      packetFields packet.header packet.binCount packet.declaredRadials ++ written.flatten := by
  simp only [packetBytes, packetFields, List.append_assoc]

theorem readPacket_written {packet : RadialPacket α} (hfits : packet.Fits)
    {encoding : GateEncoding} {written : List (List UInt8)}
    (hread : ∀ data position rest, readRadials encoding packet.binCount packet.declaredRadials 0
      [] [] ⟨data, position, written.flatten ++ rest⟩ = .ok (packet.radials, packet.dropped))
    (data : List UInt8) (position : Nat) (rest : List UInt8) :
    ∃ cursor, readPacket packet.header.code encoding
      ⟨data, position, packetBytes packet written ++ rest⟩ = .ok (packet, cursor) := by
  rw [packetBytes_eq, List.append_assoc]
  exact readPacket_of_radials packet.header hfits.binCount_lt hfits.declared_lt
    (fun position => hread data position rest) position

/-- The layer of a product with a packet of radials that fits can be written. -/
theorem layerBytes_fits {packet : RadialPacket α} (hfits : packet.Fits) (product : Product α)
    (hbins : product.header.gatesPerRadial = packet.binCount)
    (hcount : product.header.radialCount = packet.declaredRadials)
    (hradials : product.radials = packet.radials) :
    ∃ written, packet.radials.mapM radialBytes = .ok written ∧
      layerBytes product packet.header =
        .ok (uint16Bytes packet.header.code ++ packetBytes packet written) ∧
      (uint16Bytes packet.header.code ++ packetBytes packet written).length =
        14 + written.flatten.length ∧
      written.flatten.length ≤ 0x7FFF * (0x7FFF + 8) := by
  obtain ⟨encoding, hcode, hall⟩ := hfits.radials
  obtain ⟨written, hwritten, hsizes, -⟩ :=
    readRadials_written (packetEncoding?_cases hcode) hfits.binCount_lt hall
  refine ⟨written, hwritten, ?_, ?_, ?_⟩
  · rw [layerBytes, hbins, hcount, hradials]
    simp only [bind, Except.bind, countBytes_of_lt _ hfits.binCount_lt,
      countBytes_of_lt _ hfits.declared_lt, hwritten, pure, Except.pure, packetBytes,
      List.append_assoc]
  · simp only [packetBytes, List.length_append, length_uint16Bytes, length_int16Bytes]
    omega
  · have hradialCount : packet.radials.length ≤ 0x7FFF := by
      have hlt := hfits.declared_lt
      have hcomplete := hfits.complete
      omega
    have hgateCount : packet.binCount + 8 ≤ 0x7FFF + 8 := by
      have hlt := hfits.binCount_lt
      omega
    exact Nat.le_trans hsizes (Nat.mul_le_mul hradialCount hgateCount)

theorem readLayer_written (hα : ExactDegrees α) {packet : RadialPacket α} (hfits : packet.Fits)
    (hdropped : packet.dropped = []) {product : Product α}
    (hbins : product.header.gatesPerRadial = packet.binCount)
    (hcount : product.header.radialCount = packet.declaredRadials)
    (hradials : product.radials = packet.radials) :
    ∃ layer, layerBytes product packet.header = .ok layer ∧ 14 ≤ layer.length ∧
      layer.length ≤ 14 + 0x7FFF * (0x7FFF + 8) ∧
      ∀ data position rest, ∃ cursor,
        readLayer ⟨data, position, layer ++ rest⟩ = .ok (.radials packet, cursor) := by
  obtain ⟨encoding, hcode, hall⟩ := hfits.radials
  have hdeclared : packet.radials.length = packet.declaredRadials := by
    have hcomplete := hfits.complete
    rw [hdropped] at hcomplete
    exact hcomplete
  obtain ⟨written, hwritten, hlayer, hlength, hsize⟩ := layerBytes_fits hfits product hbins hcount
    hradials
  obtain ⟨found, hfound, -, hread⟩ :=
    readRadials_written (packetEncoding?_cases hcode) hfits.binCount_lt hall
  obtain rfl : found = written := Except.ok.inj (hfound.symm.trans hwritten)
  have hpacket := readPacket_written hfits fun data position rest => by
    rw [← hdeclared, hread hα, hdropped]
    rfl
  refine ⟨_, hlayer, by omega, by omega, ?_⟩
  intro data position rest
  obtain ⟨cursor, hcursor⟩ := hpacket data (position + 2) rest
  refine ⟨cursor, ?_⟩
  rw [List.append_assoc, readLayer,
    bind_of_ok (Reads.uint16 _ packet.header.code data position _), hcode]
  exact bind_of_ok hcursor

theorem readLayers_header (count index : Nat) (length : UInt32) (data : List UInt8)
    (position : Nat) (rest : List UInt8) :
    let layer := rest.take length.toNat
    ∃ next, (readLayers (count + 1) index : Parser (Symbology α))
      ⟨data, position, int16Bytes blockDivider ++ (uint32Bytes length ++ rest)⟩ =
        if layer.isEmpty then readLayers count (index + 1) ⟨data, next, rest.drop layer.length⟩
        else (readLayer.run' (.ofBytes layer)).map (·, ⟨data, next, rest.drop layer.length⟩) := by
  intro layer
  have hlayer : ∀ position, Parser.block length.toNat ⟨data, position, rest⟩ =
      .ok (.ofBytes layer, ⟨data, position + layer.length, rest.drop layer.length⟩) :=
    fun _ => rfl
  have hended : (Cursor.ofBytes layer).isEmpty = layer.isEmpty := rfl
  rw [readLayers, bind_of_ok (Reads.int16 _ blockDivider data position _), if_neg (by decide)]
  dsimp only
  rw [bind_of_ok (Reads.uint32 _ length data _ _), bind_of_ok (hlayer _), hended]
  cases layer.isEmpty with
  | true => exact ⟨_, rfl⟩
  | false => exact ⟨_, rfl⟩

/-- The first layer that is not empty is the one that counts. -/
theorem readLayers_written {layer : List UInt8} (hsize : layer.length < 0x100000000)
    (hsome : layer ≠ []) {symbology : Symbology α}
    (hread : ∃ cursor, readLayer (.ofBytes layer) = .ok (symbology, cursor)) (count index : Nat)
    (data : List UInt8) (position : Nat) (rest : List UInt8) :
    ∃ cursor, readLayers (count + 1) index ⟨data, position, int16Bytes blockDivider ++
      (uint32Bytes (UInt32.ofNat layer.length) ++ (layer ++ rest))⟩ =
        .ok (symbology, cursor) := by
  obtain ⟨cursor, hcursor⟩ := hread
  have hlayer : (layer ++ rest).take (UInt32.ofNat layer.length).toNat = layer := by
    rw [UInt32.toNat_ofNat', Nat.mod_eq_of_lt hsize, List.take_left]
  obtain ⟨next, hnext⟩ := readLayers_header (α := α) count index (UInt32.ofNat layer.length) data
    position (layer ++ rest)
  rw [hlayer, List.isEmpty_eq_false_iff.2 hsome, if_neg Bool.false_ne_true, StateT.run',
    hcursor] at hnext
  exact ⟨_, hnext⟩

theorem Symbology.read_header (length : UInt32) (layers : UInt16) (data : List UInt8)
    (position : Nat) (body : List UInt8) :
    ∃ next, (Symbology.read : Parser (Symbology α)) ⟨data, position, int16Bytes blockDivider ++
      (int16Bytes blockId ++ (uint32Bytes length ++ (uint16Bytes layers ++ body)))⟩ =
        ((readLayers layers.toNat 0).run'
          (.ofBytes (body.take (length.toNat - headerSize)))).map (·, next) := by
  have hbody : ∀ position, Parser.block (length.toNat - headerSize) ⟨data, position, body⟩ =
      .ok (.ofBytes (body.take (length.toNat - headerSize)), ⟨data, position +
        (body.take (length.toNat - headerSize)).length,
          body.drop (body.take (length.toNat - headerSize)).length⟩) :=
    fun _ => rfl
  rw [Symbology.read, bind_of_ok (Reads.int16 _ blockDivider data position _),
    bind_of_ok (Reads.int16 _ blockId data _ _), if_neg (by decide)]
  dsimp only
  rw [bind_of_ok (Reads.uint32 _ length data _ _), bind_of_ok (Reads.uint16 _ layers data _ _),
    bind_of_ok (hbody _)]
  exact ⟨_, rfl⟩

/-- A block is read as its layers are, whose number and length it tells. -/
theorem Symbology.read_of_layers {length : UInt32} {layers : UInt16} {body : List UInt8}
    {symbology : Symbology α}
    (hread : ∃ cursor, readLayers layers.toNat 0
      (.ofBytes (body.take (length.toNat - headerSize))) = .ok (symbology, cursor))
    (data : List UInt8) (position : Nat) :
    ∃ cursor, Symbology.read ⟨data, position, int16Bytes blockDivider ++ (int16Bytes blockId ++
      (uint32Bytes length ++ (uint16Bytes layers ++ body)))⟩ = .ok (symbology, cursor) := by
  obtain ⟨cursor, hcursor⟩ := hread
  obtain ⟨next, hnext⟩ := Symbology.read_header (α := α) length layers data position body
  rw [hnext, StateT.run', hcursor]
  exact ⟨_, rfl⟩

/-- The symbology block of such a product is read back. -/
theorem Symbology.read_written (hα : ExactDegrees α) {packet : RadialPacket α}
    (hfits : packet.Fits) (hdropped : packet.dropped = []) {product : Product α}
    (hbins : product.header.gatesPerRadial = packet.binCount)
    (hcount : product.header.radialCount = packet.declaredRadials)
    (hradials : product.radials = packet.radials) :
    ∃ layer, layerBytes product packet.header = .ok layer ∧
      (blockBytes layer).length ≤ 30 + 0x7FFF * (0x7FFF + 8) ∧
      ∀ data position, ∃ cursor, Symbology.read ⟨data, position, blockBytes layer⟩ =
        .ok (.radials packet, cursor) := by
  obtain ⟨layer, hlayer, hsome, hsize, hread⟩ :=
    readLayer_written hα hfits hdropped hbins hcount hradials
  refine ⟨layer, hlayer, ?_, ?_⟩
  · simp only [blockBytes, List.length_append, length_int16Bytes, length_uint32Bytes,
      length_uint16Bytes]
    omega
  · intro data position
    have hne : layer ≠ [] := by
      intro hnil
      rw [hnil] at hsome
      cases hsome
    have hlayerRead := hread layer 0 []
    rw [List.append_nil] at hlayerRead
    have hlayers := readLayers_written (by omega) hne hlayerRead 0 0
      (int16Bytes blockDivider ++ (uint32Bytes (UInt32.ofNat layer.length) ++ layer)) 0 []
    rw [List.append_nil] at hlayers
    have hblock : (int16Bytes blockDivider ++ (uint32Bytes (UInt32.ofNat layer.length) ++
        layer)).length = (UInt32.ofNat (layer.length + 16)).toNat - headerSize := by
      rw [UInt32.toNat_ofNat', Nat.mod_eq_of_lt (by omega), headerSize, List.length_append,
        List.length_append, length_int16Bytes, length_uint32Bytes]
      omega
    simp only [blockBytes, List.append_assoc]
    apply Symbology.read_of_layers
    rw [← hblock, List.take_length]
    exact hlayers

end WeatherRadar.Level3
