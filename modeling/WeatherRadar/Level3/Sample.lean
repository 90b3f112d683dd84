import WeatherRadar.Compression.Codec
import WeatherRadar.Level3.Symbology
/-!
# Sample products

Products made up for demonstration and measurement.  They are laid out byte by byte from a handful
of settings, without the writer of real products.
-/

namespace WeatherRadar.Level3

namespace Sample

/-! ## Patterns of azimuths and levels -/

/-- The azimuths at which equal radials of a full sweep start, to a tenth of a degree. -/
def azimuths (count : Nat) (start : Float) : List Float :=
  let step := 360.0 / (max count 1).toFloat
  (List.range count).map fun i =>
    let azimuth := euclideanRemainder (start + i.toFloat * step) fullTurn
    floatRemainder ((azimuth * 10.0).round / 10.0) 360.0

/-- Rings of equal levels, which begin again after the last one. -/
def rings (gates width levels : Nat) : List UInt8 :=
  (List.range gates).map fun gate => UInt8.ofNat (gate / max width 1 % max levels 1)

/-- Levels that differ from gate to gate and from radial to radial, all of them numbers. -/
def staggered (radial gates : Nat) : List UInt8 :=
  (List.range gates).map fun gate => UInt8.ofNat (2 + (radial + gate) % 254)

/-- Levels of a storm: 200 at its peak, and less in proportion to the distance. -/
def storm (gates peak width : Nat) : List UInt8 :=
  (List.range gates).map fun gate =>
    let distance := (gate.toFloat - peak.toFloat).abs
    let level := 200.0 * (1.0 - distance / (max width 1).toFloat)
    if level ≤ 2.0 then 0 else level.toUInt8

/-- The runs of levels, each as long as it can be, padded to an even number of bytes. -/
def runs : List UInt8 → List UInt8
  | [] => []
  | level :: rest =>
    let more := ((rest.take 14).takeWhile (· == level)).length
    (UInt8.ofNat ((more + 1) * 16) ||| level) :: runs (rest.drop more)
termination_by levels => levels.length
decreasing_by simp only [List.length_drop, List.length_cons]; omega

def pack (levels : List UInt8) : List UInt8 :=
  let packed := runs levels
  if packed.length % 2 == 1 then packed ++ [0] else packed

end Sample

/-- The settings of a sample product. -/
structure Sample where
  heading : Option (String × String)
  code : ProductCode
  latitude : Int32
  longitude : Int32
  height : Int16
  coveragePattern : UInt16
  volumeDate : UInt16
  volumeTime : UInt32
  elevationTenths : Int16
  thresholds : Vector UInt16 16
  compressionMethod : Int16
  packetCode : UInt16
  firstBin : Int16
  bins : Int16
  /-- The number of radials that the packet announces, if it is not the true one. -/
  declared : Option Int16
  radials : List Symbology.RawRadial
  graphicOffset : UInt32

namespace Sample

def sweep (payload : Nat → List UInt8) : List Symbology.RawRadial :=
  (List.range 360).map fun i => ⟨Int16.ofNat (i * 10), 10, payload i⟩

def digital : Sample where
  heading := some ("SDUS54 KOUN 062201", "N0QTLX")
  code := 94
  latitude := 35333
  longitude := -97278
  height := 1213
  coveragePattern := 212
  volumeDate := 19850
  volumeTime := 79260
  elevationTenths := 5
  thresholds := #v[65216, 5, 254, 0, 0, 0, 0, 0, 0, 0, 0, 0, 0, 0, 0, 0]
  compressionMethod := 0
  packetCode := 16
  firstBin := 0
  bins := 230
  declared := none
  radials := sweep (staggered · 230)
  graphicOffset := 0

def runLength : Sample :=
  let payload := pack (rings 230 10 16)
  { digital with
    heading := some ("SDUS54 KOUN 062201", "N0RTLX")
    code := 19
    thresholds := Vector.ofFn fun i => if i.val == 0 then 0x8002 else UInt16.ofNat (i.val * 5)
    packetCode := 0xAF1F
    radials := sweep fun _ => payload }

/-- Puts the radar at a place, to a thousandth of a degree. -/
def withPosition (sample : Sample) (latitude longitude : Float) : Sample :=
  let thousandths (x : Float) : Int32 := (x * 1000.0).round.toInt32
  { sample with latitude := thousandths latitude, longitude := thousandths longitude }

def withUniformLevels (sample : Sample) (levels : List UInt8) : Sample :=
  { sample with
    bins := Int16.ofNat levels.length
    radials := sample.radials.map fun radial => { radial with payload := levels } }

/-! ## Layout -/

def headingBytes (sample : Sample) : List UInt8 :=
  match sample.heading with
  | some (first, second) => Utf8.encode (first ++ "\r\r\n" ++ second ++ "\r\r\n")
  | none => []

def radialBytes (packetCode : UInt16) (radial : Symbology.RawRadial) : List UInt8 :=
  let size := radial.payload.length
  let length := if packetCode == 0xAF1F then size / 2 else size
  int16Bytes (Int16.ofNat length) ++ int16Bytes radial.start ++ int16Bytes radial.width ++
    radial.payload ++ if size % 2 == 1 then [0] else []

def symbologyBytes (sample : Sample) : List UInt8 :=
  let packet := uint16Bytes sample.packetCode ++ int16Bytes sample.firstBin ++
    int16Bytes sample.bins ++ int16Bytes 0 ++ int16Bytes 0 ++ uint16Bytes 1000 ++
    int16Bytes (sample.declared.getD (Int16.ofNat sample.radials.length)) ++
    sample.radials.flatMap (radialBytes sample.packetCode)
  int16Bytes (-1) ++ int16Bytes 1 ++ uint32Bytes (UInt32.ofNat (packet.length + 16)) ++
    uint16Bytes 1 ++ int16Bytes (-1) ++ uint32Bytes (UInt32.ofNat packet.length) ++ packet

def sectionBytes (sample : Sample) (length plainSize : Nat) : List UInt8 :=
  let date := uint16Bytes sample.volumeDate
  let expandedSize := if sample.compressionMethod == 1 then UInt32.ofNat plainSize else 0
  int16Bytes sample.code ++ date ++ uint32Bytes sample.volumeTime ++
    uint32Bytes (UInt32.ofNat length) ++ int16Bytes 67 ++ int16Bytes 0 ++ uint16Bytes 3 ++
    int16Bytes (-1) ++ int32Bytes sample.latitude ++ int32Bytes sample.longitude ++
    int16Bytes sample.height ++ int16Bytes sample.code ++ uint16Bytes 2 ++
    uint16Bytes sample.coveragePattern ++ int16Bytes 1 ++ uint16Bytes 42 ++ date ++
    uint32Bytes sample.volumeTime ++ date ++ uint32Bytes (sample.volumeTime + 30) ++
    int16Bytes 0 ++ int16Bytes 0 ++ uint16Bytes 1 ++ int16Bytes sample.elevationTenths ++
    sample.thresholds.toList.flatMap uint16Bytes ++ List.replicate 8 0 ++
    int16Bytes sample.compressionMethod ++ uint32Bytes expandedSize ++ [0, 0] ++
    uint32Bytes 60 ++ uint32Bytes sample.graphicOffset ++ uint32Bytes 0

def messageBytes (codec : Codec) (sample : Sample) : List UInt8 :=
  let symbology := sample.symbologyBytes
  let body := if sample.compressionMethod == 1 then codec.packBlocks symbology else symbology
  sample.sectionBytes (120 + body.length) symbology.length ++ body

def bytes (codec : Codec) (sample : Sample) : List UInt8 :=
  sample.headingBytes ++ sample.messageBytes codec

/-- The bytes of the product file compressed as a whole, in two streams. -/
def compressedBytes (codec : Codec) (sample : Sample) : List UInt8 :=
  let inner := [0x40, 0x0C] ++ List.replicate 22 0 ++ sample.bytes codec
  let half := inner.length / 2
  sample.headingBytes ++ codec.deflateStream (inner.take half) ++
    codec.deflateStream (inner.drop half)

end Sample

end WeatherRadar.Level3
