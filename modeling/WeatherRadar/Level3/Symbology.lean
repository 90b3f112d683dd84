import WeatherRadar.Level3.Product
/-!
# Symbology blocks

The symbology block of a product holds layers, and a layer holds packets.  Only the first packet of
the first layer that is not empty counts, and only if it holds radials.  The lengths of block and
layer are cut to what there is, so that a short file fails at the radial that is missing.

A radial whose payload does not spell the announced number of gates is left out; the ones after it
are found all the same, because every payload tells its length.
-/

namespace WeatherRadar.Level3

def runLengthPacket : UInt16 := 0xAF1F

def digitalPacket : UInt16 := 16

def packetEncoding? (code : UInt16) : Option GateEncoding :=
  if code == runLengthPacket then some .runLength4
  else if code == digitalPacket then some .literal8
  else none

/-- A packet of radials. -/
structure RadialPacket (α : Type) where
  header : PacketHeader
  /-- The number of gates of every radial. -/
  binCount : Nat
  /-- The number of radials that the packet announces. -/
  declaredRadials : Nat
  radials : List (Radial α)
  dropped : List (DroppedRadial α)

/-- What a symbology block holds. -/
inductive Symbology (α : Type) where
  | radials (packet : RadialPacket α)
  | unsupported (code : UInt16)
  | empty

namespace Symbology

def blockId : Int16 := 1

/-- Bytes of the header of a symbology block. -/
def headerSize : Nat := 10

/-- A number that must not be negative. -/
def nonNegative (count : PacketCount) (value : Int16) : Except Error Nat :=
  if value < 0 then .error (.invalidSection (.negative count value)) else .ok value.toNatClampNeg

/-- The bytes of a payload whose length is in units of its encoding. -/
def payloadSize (encoding : GateEncoding) (length : Nat) : Nat :=
  match encoding with
  | .runLength4 => length * 2
  | _ => length

/-- A radial before its payload is read. -/
structure RawRadial where
  /-- Tenths of a degree at which it starts. -/
  start : Int16
  /-- Its width in tenths of a degree. -/
  width : Int16
  payload : List UInt8
  deriving DecidableEq, Repr

/-- Degrees of a number of tenths. -/
def degrees {α : Type} [Scalar α] (tenths : Int16) : α :=
  Scalar.ofInt tenths.toInt / Scalar.ofInt 10

/-- Reads the start, the width and the payload of a radial, and the byte that evens the payload
out, unless the layer ends before it. -/
def rawRadial (encoding : GateEncoding) (index : Nat) : Parser RawRadial := do
  let place := Place.radial index
  let length ← nonNegative .radialLength (← Parser.int16 place)
  let start ← Parser.int16 place
  let width ← Parser.int16 place
  let size := payloadSize encoding length
  let payload ← Parser.bytes place size
  if size % 2 == 1 && !(← get).isEmpty then
    let _ ← Parser.bytes place 1
  return ⟨start, width, payload⟩

variable {α : Type} [Scalar α]

/-- The radial of a payload that spells its gates, or what is wrong with it. -/
def RawRadial.expand (encoding : GateEncoding) (binCount index : Nat) (raw : RawRadial) :
    Except Error (Radial α ⊕ DroppedRadial α) :=
  let azimuth := normalizeAzimuth (degrees raw.start)
  match GateLevels.expand raw.payload encoding binCount with
  | .ok gates => .ok (.inl ⟨azimuth, degrees raw.width, encoding, gates⟩)
  | .error (.malformedRunLength expected actual) => .ok (.inr ⟨index, azimuth, expected, actual⟩)
  | .error e => .error e

/-- Reads a number of radials from the one numbered `index` on, and adds them to those that were
read before, the last one first. -/
def readRadials (encoding : GateEncoding) (binCount : Nat) :
    Nat → Nat → List (Radial α) → List (DroppedRadial α) → Cursor →
      Except Error (List (Radial α) × List (DroppedRadial α))
  | 0, _, kept, dropped, _ => .ok (kept.reverse, dropped.reverse)
  | count + 1, index, kept, dropped, cursor =>
    match rawRadial encoding index cursor with
    | .error e => .error e
    | .ok (raw, cursor) =>
      match raw.expand encoding binCount index with
      | .error e => .error e
      | .ok (.inl radial) =>
        readRadials encoding binCount count (index + 1) (radial :: kept) dropped cursor
      | .ok (.inr radial) =>
        readRadials encoding binCount count (index + 1) kept (radial :: dropped) cursor

def readPacket (code : UInt16) (encoding : GateEncoding) : Parser (RadialPacket α) := do
  let place := Place.packetHeader
  let firstBin ← Parser.int16 place
  let binCount ← nonNegative .bins (← Parser.int16 place)
  let iCenter ← Parser.int16 place
  let jCenter ← Parser.int16 place
  let rangeScale ← Parser.uint16 place
  let declared ← nonNegative .radials (← Parser.int16 place)
  let (kept, dropped) ← readRadials encoding binCount declared 0 [] [] (← get)
  return ⟨⟨code, firstBin, iCenter, jCenter, rangeScale⟩, binCount, declared, kept, dropped⟩

def readLayer : Parser (Symbology α) := do
  let code ← Parser.uint16 .packetHeader
  match packetEncoding? code with
  | some encoding => return .radials (← readPacket code encoding)
  | none => return .unsupported code

/-- Reads layers from the one numbered `index` on, up to the first one that is not empty. -/
def readLayers : Nat → Nat → Parser (Symbology α)
  | 0, _ => return .empty
  | count + 1, index => do
    let divider ← Parser.int16 (.layer index)
    if divider != blockDivider then
      throw (.invalidSection (.layer index divider))
    let length ← Parser.uint32 (.layer index)
    let layer ← Parser.block length.toNat
    if layer.isEmpty then readLayers count (index + 1)
    else (readLayer.run' layer : Except Error (Symbology α))

def read : Parser (Symbology α) := do
  let divider ← Parser.int16 .symbology
  let block ← Parser.int16 .symbology
  if divider != blockDivider || block != blockId then
    throw (.invalidSection (.symbology divider block))
  let length ← Parser.uint32 .symbology
  let layers ← Parser.uint16 .symbology
  let body ← Parser.block (length.toNat - headerSize)
  ((readLayers layers.toNat 0).run' body : Except Error (Symbology α))

end Symbology

end WeatherRadar.Level3
