import WeatherRadar.Level3.Sample
import WeatherRadar.Proofs.Level3.RoundTrip
import WeatherRadar.Proofs.Level3.ShortestRuns
/-!
# Samples are laid out as products are written

Samples lay out their blocks without the writer of products, and look ahead for the end of a run
where the writer adds one level after the other.  Both give the same runs (`packRuns_eq_pack`) and
the same bytes of a block (`encodeMessage_eq_sample`).
-/

namespace WeatherRadar.Level3

/-! ## Runs -/

namespace GateLevels

theorem eq_of_run {run other : UInt8} (hlength : runLength run = runLength other)
    (hlevel : runLevel run = runLevel other) : run = other := by
  rw [← UInt8.toNat_inj, toNat_runLevel, toNat_runLevel] at hlevel
  rw [runLength, runLength] at hlength
  apply UInt8.toNat_inj.1
  omega

/-- A run of equal levels. -/
def runOf (count : Nat) (level : UInt8) : UInt8 := UInt8.ofNat (count * 16) ||| level

section RunOf

variable {count : Nat} {level : UInt8}

theorem toNat_runOf (hcount : count ≤ 15) (hlevel : level.toNat < 16) :
    (runOf count level).toNat = count * 16 + level.toNat := by
  have hor := Nat.two_pow_add_eq_or_of_lt (i := 4) hlevel count
  rw [runOf, UInt8.toNat_or, UInt8.toNat_ofNat', Nat.mod_eq_of_lt (by omega), Nat.mul_comm count]
  exact hor.symm

theorem runLength_runOf (hcount : count ≤ 15) (hlevel : level.toNat < 16) :
    runLength (runOf count level) = count := by
  rw [runLength, toNat_runOf hcount hlevel]
  omega

theorem runLevel_runOf (hcount : count ≤ 15) (hlevel : level.toNat < 16) :
    runLevel (runOf count level) = level := by
  apply UInt8.toNat_inj.1
  rw [toNat_runLevel, toNat_runOf hcount hlevel]
  omega

theorem new_eq_runOf (hlevel : level.toNat < 16) : 16 + level = runOf 1 level := by
  apply eq_of_run
  · rw [runLength_new hlevel, runLength_runOf (by decide) hlevel]
  · rw [runLevel_new hlevel, runLevel_runOf (by decide) hlevel]

theorem longer_eq_runOf (hcount : count < 15) (hlevel : level.toNat < 16) :
    runOf count level + 16 = runOf (count + 1) level := by
  have hlength := runLength_runOf (Nat.le_of_lt hcount) hlevel
  apply eq_of_run
  · rw [runLength_longer (by omega), hlength, runLength_runOf hcount hlevel]
  · rw [runLevel_longer, runLevel_runOf (Nat.le_of_lt hcount) hlevel, runLevel_runOf hcount hlevel]

/-- A run takes up all levels like its own, up to as many as it can hold. -/
theorem foldl_pushLevel_runOf (hlevel : level.toNat < 16) {more : Nat}
    (hcount : count + more ≤ 15) (runs : List UInt8) :
    (List.replicate more level).foldl pushLevel (runOf count level :: runs) =
      runOf (count + more) level :: runs := by
  induction more generalizing count with
  | zero => rfl
  | succ more ih =>
      have hshort : runLength (runOf count level) < 15 := by
        rw [runLength_runOf (by omega) hlevel]
        omega
      have hjoined := pushLevel_joined runs hshort
      rw [runLevel_runOf (by omega) hlevel, longer_eq_runOf (by omega) hlevel] at hjoined
      rw [List.replicate_succ, List.foldl_cons, hjoined, ih (by omega), Nat.add_right_comm,
        Nat.add_assoc]

/-- A level begins a run of its own behind a run that is full or has another level. -/
theorem pushLevel_begun {next : UInt8} (hcount : count ≤ 15) (hlevel : level.toNat < 16)
    (h : count = 15 ∨ next ≠ level) (runs : List UInt8) :
    pushLevel (runOf count level :: runs) next = (16 + next) :: runOf count level :: runs := by
  rw [pushLevel, if_neg]
  rw [runLevel_runOf hcount hlevel, runLength_runOf hcount hlevel, Bool.and_eq_true, beq_iff_eq,
    decide_eq_true_eq]
  rintro ⟨hsame, hshort⟩
  rcases h with hfull | hother
  · omega
  · exact hother hsame.symm

end RunOf

/-- The levels like a level that a list begins with, of which no more than `limit` are counted. -/
theorem count_leading (level : UInt8) (levels : List UInt8) (limit : Nat) :
    let more := ((levels.take limit).takeWhile (· == level)).length
    more ≤ limit ∧ levels = List.replicate more level ++ levels.drop more ∧
      (more = limit ∨ ∀ next ∈ (levels.drop more).head?, next ≠ level) := by
  induction levels generalizing limit with
  | nil => simp
  | cons first levels ih =>
      cases limit with
      | zero => simp
      | succ limit =>
          by_cases hfirst : first = level
          · obtain ⟨hle, hsplit, hnext⟩ := ih limit
            subst hfirst
            rw [List.take_succ_cons, List.takeWhile_cons, if_pos (beq_self_eq_true first),
              List.length_cons]
            refine ⟨by omega, ?_, ?_⟩
            · rw [List.replicate_succ, List.cons_append, List.drop_succ_cons, ← hsplit]
            · rw [List.drop_succ_cons]
              exact hnext.imp_left (congrArg (· + 1))
          · rw [List.take_succ_cons, List.takeWhile_cons, if_neg (by simpa using hfirst)]
            refine ⟨Nat.zero_le _, rfl, Or.inr ?_⟩
            intro next hnext
            rwa [← Option.some.inj hnext]

/-- Runs that are told by looking ahead are those that the levels give one by one. -/
theorem foldl_pushLevel_eq_runs {levels : List UInt8}
    (hlevels : ∀ level ∈ levels, level.toNat < 16) {begun : List UInt8}
    (hbegun : ∀ level ∈ levels.head?, pushLevel begun level = (16 + level) :: begun) :
    levels.foldl pushLevel begun = (Sample.runs levels).reverse ++ begun := by
  induction levels using Sample.runs.induct generalizing begun with
  | case1 => rw [Sample.runs]; rfl
  | case2 level rest more ih =>
      obtain ⟨hmore, hsplit, hnext⟩ := count_leading level rest 14
      have hlevel := hlevels level (by simp)
      have hrest : ∀ other ∈ rest.drop more, other.toNat < 16 :=
        fun other hother => hlevels other (by simp [List.mem_of_mem_drop hother])
      have hended : ∀ next ∈ (rest.drop more).head?,
          pushLevel (runOf (more + 1) level :: begun) next =
            (16 + next) :: runOf (more + 1) level :: begun := by
        intro next hfound
        apply pushLevel_begun (by omega) hlevel
        exact hnext.imp (congrArg (· + 1)) (fun hother => hother next hfound)
      calc (level :: rest).foldl pushLevel begun
          = rest.foldl pushLevel (runOf 1 level :: begun) := by
            rw [List.foldl_cons, hbegun level rfl, new_eq_runOf hlevel]
        _ = (List.replicate more level ++ rest.drop more).foldl pushLevel
              (runOf 1 level :: begun) := congrArg (List.foldl pushLevel _) hsplit
        _ = (rest.drop more).foldl pushLevel (runOf (more + 1) level :: begun) := by
            rw [List.foldl_append, foldl_pushLevel_runOf hlevel (by omega), Nat.add_comm 1]
        _ = (Sample.runs (level :: rest)).reverse ++ begun := by
            rw [ih hrest hended, Sample.runs, List.reverse_cons, List.append_assoc]
            rfl

/-- Samples pack levels below 16 as the writer of products does. -/
theorem packRuns_eq_pack {levels : List UInt8} (hlevels : ∀ level ∈ levels, level.toNat < 16) :
    packRuns levels = .ok (Sample.pack levels) := by
  obtain ⟨packed, hpacked, -⟩ := expandRuns_packRuns hlevels
  obtain ⟨-, rfl⟩ := packRuns_eq_ok hpacked
  have hruns : levels.foldl pushLevel [] = (Sample.runs levels).reverse ++ [] :=
    foldl_pushLevel_eq_runs hlevels fun _ _ => rfl
  rw [hpacked, hruns, List.append_nil, List.reverse_reverse, Sample.pack, padEven]
  rcases Nat.mod_two_eq_zero_or_one (Sample.runs levels).length with heven | hodd
  · rw [heven]
    rfl
  · rw [hodd]
    rfl

end GateLevels

/-! ## Radials -/

open Symbology

/-- The angles of a radial in tenths of a degree, and a level for each of its gates. -/
structure LevelRadial where
  start : Int16
  width : Int16
  levels : List UInt8

namespace LevelRadial

/-- The radial of a product. -/
def toRadial (α : Type) [Scalar α] (encoding : GateEncoding) (radial : LevelRadial) : Radial α :=
  ⟨degrees radial.start, degrees radial.width, encoding, .bytes radial.levels.toArray⟩

/-- The radial of a sample. -/
def toSample (encoding : GateEncoding) (radial : LevelRadial) : RawRadial :=
  ⟨radial.start, radial.width,
    match encoding with
    | .runLength4 => Sample.pack radial.levels
    | _ => radial.levels⟩

/-- A radial with a number of gates, whose levels an encoding can hold. -/
structure Suits (encoding : GateEncoding) (binCount : Nat) (radial : LevelRadial) : Prop where
  length : radial.levels.length = binCount
  small : encoding = .runLength4 → ∀ level ∈ radial.levels, level.toNat < 16

end LevelRadial

variable {α : Type} [Scalar α]

theorem radialBytes_of_payload (hα : ExactDegrees α) {radial : LevelRadial}
    {encoding : GateEncoding} {length : Nat} {payload : List UInt8}
    (hpayload : payloadOf (radial.toRadial α encoding) = .ok (length, payload))
    (hlength : length < 0x8000) :
    radialBytes (radial.toRadial α encoding) = .ok (int16Bytes (Int16.ofNat length) ++
      int16Bytes radial.start ++ int16Bytes radial.width ++ payload) := by
  have hstart : tenthsOf (radial.toRadial α encoding).azimuth = radial.start := hα.tenths _
  have hwidth : tenthsOf (radial.toRadial α encoding).width = radial.width := hα.tenths _
  rw [radialBytes, hpayload, hstart, hwidth]
  simp only [bind, Except.bind, countBytes_of_lt _ hlength, pure, Except.pure]

theorem packetEncoding?_eq_some {code : UInt16} {encoding : GateEncoding}
    (h : packetEncoding? code = some encoding) :
    code = runLengthPacket ∧ encoding = .runLength4 ∨
      code = digitalPacket ∧ encoding = .literal8 := by
  unfold packetEncoding? at h
  split at h
  · rename_i hcode
    exact Or.inl ⟨beq_iff_eq.1 hcode, (Option.some.inj h).symm⟩
  · split at h
    · rename_i hcode
      exact Or.inr ⟨beq_iff_eq.1 hcode, (Option.some.inj h).symm⟩
    · cases h

theorem Sample.radialBytes_eq (code : UInt16) (raw : RawRadial) :
    Sample.radialBytes code raw =
      int16Bytes (Int16.ofNat (if code == runLengthPacket then raw.payload.length / 2
        else raw.payload.length)) ++ int16Bytes raw.start ++ int16Bytes raw.width ++
          GateLevels.padEven raw.payload := by
  have hpad : (if (raw.payload.length % 2 == 1) = true then [(0 : UInt8)] else []) =
      List.replicate (raw.payload.length % 2) 0 := by
    rcases Nat.mod_two_eq_zero_or_one raw.payload.length with heven | hodd
    · rw [heven]
      rfl
    · rw [hodd]
      rfl
  rw [GateLevels.padEven_eq, ← List.append_assoc, ← hpad]
  rfl

theorem radialBytes_toRadial (hα : ExactDegrees α) {code : UInt16} {encoding : GateEncoding}
    (hpacked : packetEncoding? code = some encoding) {binCount : Nat} (hbins : binCount < 0x8000)
    {radial : LevelRadial} (hradial : radial.Suits encoding binCount) :
    radialBytes (radial.toRadial α encoding) =
      .ok (Sample.radialBytes code (radial.toSample encoding)) ∧
    (Sample.radialBytes code (radial.toSample encoding)).length ≤ binCount + 8 := by
  have hlength := hradial.length
  rcases packetEncoding?_eq_some hpacked with ⟨rfl, rfl⟩ | ⟨rfl, rfl⟩
  · obtain ⟨packed, hruns, -, heven, hless⟩ :=
      GateLevels.expandRuns_packRuns (hradial.small rfl)
    have hpack := GateLevels.packRuns_eq_pack (hradial.small rfl)
    obtain rfl : Sample.pack radial.levels = packed := Except.ok.inj (hpack.symm.trans hruns)
    have hpayload : payloadOf (radial.toRadial α .runLength4) =
        .ok ((Sample.pack radial.levels).length / 2, Sample.pack radial.levels) := by
      rw [payloadOf, LevelRadial.toRadial]
      simp only [hruns, Except.map]
    have hsample : Sample.radialBytes runLengthPacket (radial.toSample .runLength4) =
        int16Bytes (Int16.ofNat ((Sample.pack radial.levels).length / 2)) ++
          int16Bytes radial.start ++ int16Bytes radial.width ++ Sample.pack radial.levels := by
      have hpad : GateLevels.padEven (Sample.pack radial.levels) = Sample.pack radial.levels := by
        rw [GateLevels.padEven_eq, heven, List.replicate_zero, List.append_nil]
      exact (Sample.radialBytes_eq ..).trans (congrArg (_ ++ ·) hpad)
    rw [hsample]
    refine ⟨radialBytes_of_payload hα hpayload (by omega), ?_⟩
    simp only [List.length_append, length_int16Bytes]
    omega
  · have hpayload : payloadOf (radial.toRadial α .literal8) =
        .ok (radial.levels.length, GateLevels.padEven radial.levels) := rfl
    have hsample : Sample.radialBytes digitalPacket (radial.toSample .literal8) =
        int16Bytes (Int16.ofNat radial.levels.length) ++ int16Bytes radial.start ++
          int16Bytes radial.width ++ GateLevels.padEven radial.levels := Sample.radialBytes_eq ..
    rw [hsample]
    refine ⟨radialBytes_of_payload hα hpayload (by omega), ?_⟩
    simp only [List.length_append, length_int16Bytes, GateLevels.length_padEven]
    omega

/-! ## Blocks -/

theorem mapM_radialBytes_toRadial (hα : ExactDegrees α) {code : UInt16} {encoding : GateEncoding}
    (hpacked : packetEncoding? code = some encoding) {binCount : Nat} (hbins : binCount < 0x8000)
    {radials : List LevelRadial} (hradials : ∀ radial ∈ radials, radial.Suits encoding binCount) :
    ∃ written, (radials.map (LevelRadial.toRadial α encoding)).mapM radialBytes = .ok written ∧
      written.flatten =
        (radials.map (LevelRadial.toSample encoding)).flatMap (Sample.radialBytes code) ∧
      written.flatten.length ≤ radials.length * (binCount + 8) := by
  induction radials with
  | nil => exact ⟨[], rfl, rfl, Nat.zero_le _⟩
  | cons radial radials ih =>
      obtain ⟨written, hwritten, hflatten, hsize⟩ := ih fun other hother =>
        hradials other (by simp [hother])
      obtain ⟨hbytes, hless⟩ := radialBytes_toRadial hα hpacked hbins (hradials radial (by simp))
      refine ⟨Sample.radialBytes code (radial.toSample encoding) :: written, ?_, ?_, ?_⟩
      · rw [List.map_cons, List.mapM_cons, hbytes]
        simp only [bind, Except.bind, hwritten, pure, Except.pure]
      · rw [List.flatten_cons, hflatten, List.map_cons, List.flatMap_cons]
      · rw [List.flatten_cons, List.length_append, List.length_cons, Nat.succ_mul]
        omega

/-- A product with these radials behind the header of their packet, and blocks that are not
compressed. -/
structure Product.Holds (product : Product α) (packet : PacketHeader) (encoding : GateEncoding)
    (binCount : Nat) (radials : List LevelRadial) : Prop where
  moment : product.moment = .radial
  packet : product.header.packet = some packet
  binCount : product.header.gatesPerRadial = binCount
  count : product.header.radialCount = radials.length
  radials : product.radials = radials.map (LevelRadial.toRadial α encoding)
  plain : product.header.compressionMethod ≠ Description.compressedMethod

/-- A sample with these radials, the true number of which it announces. -/
structure Sample.Holds (sample : Sample) (code : UInt16) (firstBin : Int16)
    (encoding : GateEncoding) (binCount : Nat) (radials : List LevelRadial) : Prop where
  packetCode : sample.packetCode = code
  firstBin : sample.firstBin = firstBin
  binCount : sample.bins = Int16.ofNat binCount
  declared : sample.declared = none
  radials : sample.radials = radials.map (LevelRadial.toSample encoding)

section Blocks

variable {code : UInt16} {firstBin : Int16} {encoding : GateEncoding} {binCount : Nat}
  {radials : List LevelRadial}

/-- The header of the packet in every sample. -/
def Sample.packetHeader (code : UInt16) (firstBin : Int16) : PacketHeader :=
  ⟨code, firstBin, 0, 0, 1000⟩

theorem layerBytes_holds (hα : ExactDegrees α) (hpacked : packetEncoding? code = some encoding)
    (hbins : binCount < 0x8000) (hcount : radials.length < 0x8000)
    (hradials : ∀ radial ∈ radials, radial.Suits encoding binCount) {product : Product α}
    (hproduct : product.Holds (Sample.packetHeader code firstBin) encoding binCount radials)
    {sample : Sample} (hsample : sample.Holds code firstBin encoding binCount radials) :
    ∃ layer, layerBytes product (Sample.packetHeader code firstBin) = .ok layer ∧
      blockBytes layer = sample.symbologyBytes ∧
      (blockBytes layer).length ≤ 30 + 0x7FFF * (0x7FFF + 8) := by
  obtain ⟨written, hwritten, hflatten, hsize⟩ :=
    mapM_radialBytes_toRadial hα hpacked hbins hradials
  let layer := uint16Bytes code ++ int16Bytes firstBin ++ int16Bytes (Int16.ofNat binCount) ++
    int16Bytes 0 ++ int16Bytes 0 ++ uint16Bytes 1000 ++
    int16Bytes (Int16.ofNat radials.length) ++ written.flatten
  refine ⟨layer, ?_, ?_, ?_⟩
  · rw [layerBytes, hproduct.binCount, hproduct.count, hproduct.radials, hwritten]
    simp only [bind, Except.bind, countBytes_of_lt _ hbins, countBytes_of_lt _ hcount, pure,
      Except.pure]
    rfl
  · unfold Sample.symbologyBytes
    rw [hsample.packetCode, hsample.firstBin, hsample.binCount, hsample.declared,
      hsample.radials, List.length_map, ← hflatten]
    rfl
  · have hmost : radials.length * (binCount + 8) ≤ 0x7FFF * (0x7FFF + 8) :=
      Nat.mul_le_mul (by omega) (by omega)
    have hlayer : layer.length = 14 + written.flatten.length := by
      simp only [layer, List.length_append, length_int16Bytes, length_uint16Bytes]
    simp only [blockBytes, List.length_append, length_int16Bytes, length_uint16Bytes,
      length_uint32Bytes, hlayer]
    omega

/-- The block that is written for a product is the block of the sample with the same radials, and
levels are packed for both alike. -/
theorem encodeMessage_eq_sample (hα : ExactDegrees α) (codec : Codec)
    (hpacked : packetEncoding? code = some encoding) (hbins : binCount ≤ 0x7FFF)
    (hcount : radials.length ≤ 0x7FFF)
    (hradials : ∀ radial ∈ radials, radial.Suits encoding binCount) {product : Product α}
    (hproduct : product.Holds (Sample.packetHeader code firstBin) encoding binCount radials)
    {sample : Sample} (hsample : sample.Holds code firstBin encoding binCount radials) :
    encodeMessage codec product =
      .ok (writtenMessage product.header sample.symbologyBytes) ∧
    ∀ levels : List UInt8, (∀ level ∈ levels, level.toNat < 16) →
      GateLevels.packRuns levels = .ok (Sample.pack levels) := by
  refine ⟨?_, fun levels hlevels => GateLevels.packRuns_eq_pack hlevels⟩
  obtain ⟨layer, hlayer, hblock, hsize⟩ := layerBytes_holds hα hpacked
    (Nat.lt_succ_of_le hbins) (Nat.lt_succ_of_le hcount) hradials hproduct hsample
  have hplain : (product.header.compressionMethod == Description.compressedMethod) = false :=
    beq_eq_false_iff_ne.2 hproduct.plain
  have hbody : writtenBody codec product.header (blockBytes layer) = sample.symbologyBytes := by
    rw [writtenBody, hplain, if_neg Bool.false_ne_true, hblock]
  have hcodec : product.header.compressionMethod = Description.compressedMethod →
      KeepsBlocks codec := fun hmethod => absurd hmethod hproduct.plain
  have hless := length_writtenBody_lt hcodec hsize
  rw [encodeMessage_eq hproduct.moment hproduct.packet hlayer hless, hbody]

end Blocks

/-- Two radials, the first of which needs a run of fifteen gates and one of two. -/
theorem encodeMessage_eq_sample_runs :
    let radials : List LevelRadial :=
      [⟨0, 10, List.replicate 17 7⟩, ⟨3599, -5, [0, 15] ++ List.replicate 15 3⟩]
    let packet := Sample.packetHeader runLengthPacket (-2)
    let product : Product Rat :=
      .ofSymbology (.ofSections sampleMessage sampleDescription none) none ⟨some 120, none, none⟩
        (.radials ⟨packet, 17, 2, radials.map (LevelRadial.toRadial Rat .runLength4), []⟩)
    let sample : Sample :=
      { Sample.runLength with
        firstBin := -2, bins := 17, radials := radials.map (LevelRadial.toSample .runLength4) }
    (∀ radial ∈ radials, radial.Suits .runLength4 17) ∧
      product.Holds packet .runLength4 17 radials ∧
      sample.Holds runLengthPacket (-2) .runLength4 17 radials ∧
      sample.symbologyBytes = blockBytes
        ([0xAF, 0x1F, 0xFF, 0xFE, 0, 17, 0, 0, 0, 0, 3, 232, 0, 2] ++
          [0, 1, 0, 0, 0, 10, 0xF7, 0x27] ++
          [0, 2, 0x0E, 0x0F, 0xFF, 0xFB, 0x10, 0x1F, 0xF3, 0]) ∧
      encodeMessage Codec.standard product =
        .ok (writtenMessage product.header sample.symbologyBytes) := by
  intro radials packet product sample
  have hsuits : ∀ radial ∈ radials, radial.Suits .runLength4 17 := by
    intro radial hradial
    simp only [radials, List.mem_cons, List.not_mem_nil, or_false] at hradial
    rcases hradial with rfl | rfl
    · exact ⟨rfl, by simp⟩
    · exact ⟨rfl, by simp⟩
  have hproduct : product.Holds packet .runLength4 17 radials :=
    ⟨rfl, rfl, rfl, rfl, rfl, by decide⟩
  have hsample : sample.Holds runLengthPacket (-2) .runLength4 17 radials :=
    ⟨rfl, rfl, rfl, rfl, rfl⟩
  obtain ⟨hencode, -⟩ := encodeMessage_eq_sample exactDegrees_rat Codec.standard rfl (by decide)
    (by decide) hsuits hproduct hsample
  exact ⟨hsuits, hproduct, hsample, by decide +kernel, hencode⟩

end WeatherRadar.Level3
