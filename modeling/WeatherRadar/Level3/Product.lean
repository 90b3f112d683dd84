import WeatherRadar.Angle
import WeatherRadar.Level3.DataLevel
import WeatherRadar.Level3.Gates
import WeatherRadar.Level3.Header
import WeatherRadar.Level3.Heading
/-!
# Products

What a product file says: a header, radials with the data levels of their gates, and which radials
had to be left out.  Angles and lengths are numbers of any kind that `Scalar` allows.
-/

namespace WeatherRadar.Level3

/-- The header of the packet that holds the radials. -/
structure PacketHeader where
  code : UInt16
  /-- Number of the first gate. -/
  firstBin : Int16
  iCenter : Int16
  jCenter : Int16
  /-- Thousandths. -/
  rangeScale : UInt16
  deriving DecidableEq, Repr

/-- The header of a product. -/
structure ProductHeader (α : Type) where
  /-- The radar's id from the heading, empty without one. -/
  siteId : String
  code : ProductCode
  volumeTime : Option Instant
  generationTime : Option Instant
  /-- Degrees above the horizon. -/
  elevationAngle : α
  elevationNumber : UInt16
  /-- Meters to the near edge of the first gate. -/
  firstGateRange : α
  /-- Length of a gate in meters. -/
  gateSpacing : α
  /-- The number of radials that the packet announces. -/
  radialCount : Nat
  gatesPerRadial : Nat
  siteLatitude : α
  siteLongitude : α
  /-- Feet above sea level. -/
  siteHeight : Int16
  operationalMode : UInt16
  coveragePattern : UInt16
  volumeScanNumber : UInt16
  sequenceNumber : Int16
  source : Int16
  destination : Int16
  thresholds : Vector UInt16 16
  parameters : Vector Int16 10
  version : UInt8
  spotBlank : UInt8
  packet : Option PacketHeader
  deriving BEq, DecidableEq

namespace ProductHeader

variable {α : Type}

/-- The time of the volume scan, or else of the product. -/
def timestamp? (header : ProductHeader α) : Option Instant :=
  header.volumeTime <|> header.generationTime

def kind? (header : ProductHeader α) : Option ProductKind := ProductKind.ofCode? header.code

/-- Meters above sea level. -/
def siteHeightMeters (header : ProductHeader α) : Float := header.siteHeight.toFloat * 0.3048

def compressionMethod (header : ProductHeader α) : Int16 := header.parameters.getD 7 0

end ProductHeader

/-- A radial with the levels of its gates. -/
structure Radial (α : Type) where
  /-- Degrees clockwise from north at which it starts. -/
  azimuth : α
  /-- Its width in degrees. -/
  width : α
  encoding : GateEncoding
  gates : GateLevels
  deriving BEq, DecidableEq

def Radial.endAzimuth {α : Type} [Scalar α] (radial : Radial α) : α :=
  normalizeAzimuth (radial.azimuth + radial.width)

/-- A radial that was left out because its payload does not spell its gates. -/
structure DroppedRadial (α : Type) where
  /-- Its number among the transmitted radials, from zero. -/
  index : Nat
  azimuth : α
  expectedGates : Nat
  actualGates : Nat
  deriving BEq, DecidableEq

/-- Why the gates of a product were not read. -/
inductive UnparsedReason where
  | unknownProduct
  | unsupportedPacket (code : UInt16)
  | noSymbology
  deriving DecidableEq, Repr

/-- What the gates of a product were read as. -/
inductive Moment where
  | radial
  | unparsed (reason : UnparsedReason)
  deriving DecidableEq, Repr

/-- Where the blocks of a product begin, in bytes from the beginning of the message. -/
structure BlockLayout where
  symbology : Option Nat
  graphic : Option Nat
  tabular : Option Nat
  deriving DecidableEq, Repr

structure Product (α : Type) where
  header : ProductHeader α
  /-- The radials in the order of transmission. -/
  radials : List (Radial α)
  droppedRadials : List (DroppedRadial α)
  moment : Moment
  heading : Option Heading
  blocks : BlockLayout
  deriving BEq, DecidableEq

namespace Product

variable {α : Type}

def isRenderable (product : Product α) : Bool :=
  product.moment == .radial && !product.radials.isEmpty

/-- The values of the data levels, if the kind of product is known. -/
def dataLevels? (product : Product α) : Option DataLevels :=
  product.header.kind?.map fun kind =>
    DataLevels.ofThresholds kind.scheme product.header.thresholds

def valueAt? (product : Product α) (levels : DataLevels) (radial gate : Nat) :
    Option DataValue := do
  let radial ← product.radials[radial]?
  return levels.decode (← radial.gates.get? gate)

end Product

end WeatherRadar.Level3
