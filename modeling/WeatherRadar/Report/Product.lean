import WeatherRadar.Level3.Symbology
import WeatherRadar.Report.Basic
/-!
# Reports on products

What a product file says, section by section.
-/

namespace WeatherRadar.Report

open WeatherRadar.Level3

/-- Why a product file is refused.  What a decompressor says depends on the decompressor. -/
def level3Error (e : Level3.Error) : Json :=
  failure e.kind (match e with
    | .decompression .corruptStream | .decompression .corruptBlocks => none
    | e => some e.message)

/-- Why a field cannot be read, also as a fault of a layer. -/
def readError (layer : Nat) (e : ReadError) : Json :=
  record [("error", text e.kind), ("message", text e.message),
    ("in_context", level3Error (.ofRead (.layer layer) e))]

def productKind (k : ProductKind) : Json :=
  record [("code", int k.code.toInt), ("name", text k.name), ("category", text k.category),
    ("units", text k.units), ("kind", text (match k.layout with
      | .runLength => "run_length"
      | .digital => "digital")),
    ("scheme", text (match k.scheme with
      | .flagged => "legacy16"
      | .linear => "linear")),
    ("gate_spacing_m", number k.gateSpacing.toFloat), ("tgftp_dir", optional text k.directory)]

def dataValue : DataValue → Json
  | .value v => number32 v
  | .belowThreshold => text "below_threshold"
  | .noData => text "no_data"
  | .rangeFolded => text "range_folded"

/-- A threshold: its value, its remark and its number. -/
def threshold (t : Threshold) : Json :=
  list [dataValue t.value, text (match t.qualifier with
    | .none => "none"
    | .greater => "greater"
    | .less => "less"
    | .plus => "plus"), optional number32 t.value.number?]

def gateLevels : GateLevels → Json
  | .bytes levels => hex levels.toList
  | .words levels => list (levels.toList.map fun w => nat w.toNat)

/-- The levels of a radial, some of them by number, and their sum. -/
def expansion (gates : GateLevels) : Json :=
  let probe (i : Nat) : Json := optional (fun (w : UInt16) => nat w.toNat) (gates.get? i)
  record [("levels", gateLevels gates), ("len", nat gates.size), ("is_empty", flag gates.isEmpty),
    ("probe", list ([0, 1, gates.size - 1, gates.size].map probe)),
    ("sum", nat (gates.toList.foldl (fun n level => n + level.toNat) 0))]

/-- Levels packed in runs, and whether the runs give the levels back. -/
def packing (levels packed : List UInt8) : Json :=
  let same := match GateLevels.expand packed .runLength4 levels.length with
    | .ok gates => gates == .bytes levels.toArray
    | .error _ => false
  record [("packed", hex packed), ("same", flag same)]

def encoding : GateEncoding → Json
  | .literal8 => text "literal8"
  | .literal16 => text "literal16"
  | .runLength4 => text "run4"

def heading (h : Heading) : Json :=
  record [("sequence_number", optional text h.sequenceNumber), ("data_type", text h.dataType),
    ("icao", text h.office), ("date_time", text h.dateTime), ("bbb", optional text h.amendment),
    ("category", text h.category), ("designator", text h.designator)]

def words (ws : List UInt16) : Json := list (ws.map fun w => nat w.toNat)

def signedWords (ws : List Int16) : Json := list (ws.map fun w => int w.toInt)

def messageHeader (m : MessageHeader) : Json :=
  record [("message_code", int m.code.toInt), ("date", nat m.date.toNat),
    ("time", nat m.time.toNat), ("length", nat m.length.toNat), ("source_id", int m.source.toInt),
    ("destination_id", int m.destination.toInt), ("block_count", nat m.blockCount.toNat)]

def description (d : Description) : Json :=
  record [("latitude", int d.latitude.toInt), ("longitude", int d.longitude.toInt),
    ("height_ft", int d.height.toInt), ("product_code", int d.code.toInt),
    ("operational_mode", nat d.operationalMode.toNat), ("vcp", nat d.coveragePattern.toNat),
    ("sequence_number", int d.sequenceNumber.toInt),
    ("volume_scan_number", nat d.volumeScanNumber.toNat),
    ("volume_date", nat d.volumeDate.toNat), ("volume_time", nat d.volumeTime.toNat),
    ("generation_date", nat d.generationDate.toNat),
    ("generation_time", nat d.generationTime.toNat),
    ("elevation_number", nat d.elevationNumber.toNat),
    ("parameters", signedWords d.parameters.toList), ("thresholds", words d.thresholds.toList),
    ("version", nat d.version.toNat), ("spot_blank", nat d.spotBlank.toNat),
    ("offset_symbology", nat d.symbologyOffset.toNat),
    ("offset_graphic", nat d.graphicOffset.toNat),
    ("offset_tabular", nat d.tabularOffset.toNat),
    ("is_compressed", flag d.isCompressed), ("uncompressed_size", nat d.expandedSize),
    ("blocks", list ([d.symbologyOffset, d.graphicOffset, d.tabularOffset].map fun halfwords =>
      optional nat (Description.blockOffset? halfwords)))]

/-- What the headers of a file say, as far as they can be read. -/
def headers (data : List UInt8) : Json :=
  let answer (sections : List (String × Json)) (position : Nat) (written : List UInt8) : Json :=
    record (("looks_like_message", flag (looksLikeMessage data)) :: ("position", nat position) ::
      ("rewritten_same", flag (written.isPrefixOf data)) :: sections)
  match MessageHeader.read (Cursor.ofBytes data) with
  | .error e => answer [("message", level3Error e)] 0 []
  | .ok (message, cursor) =>
    let shown := ("message", messageHeader message)
    match Description.read cursor with
    | .error e =>
      let position := match cursor.skip Description.size with
        | .ok next => next.position
        | .error _ => cursor.position
      answer [shown, ("description", level3Error e)] position message.toBytes
    | .ok (found, cursor) =>
      answer [shown, ("description", description found)] cursor.position
        (message.toBytes ++ found.toBytes)

def radial (r : Radial Float) : Json :=
  record [("az", number r.azimuth), ("delta", number r.width), ("end", number r.endAzimuth),
    ("gates", nat r.gates.size), ("enc", encoding r.encoding), ("levels", gateLevels r.gates)]

def droppedRadial (d : DroppedRadial Float) : Json :=
  record [("index", nat d.index), ("az", number d.azimuth), ("expected", nat d.expectedGates),
    ("actual", nat d.actualGates)]

def packetHeader (p : PacketHeader) : Json :=
  record [("code", nat p.code.toNat), ("first_bin", int p.firstBin.toInt),
    ("i_center", int p.iCenter.toInt), ("j_center", int p.jCenter.toInt),
    ("range_scale", nat p.rangeScale.toNat)]

def symbology : Symbology Float → List (String × Json)
  | .empty => [("empty", flag true)]
  | .unsupported code => [("unsupported", nat code.toNat)]
  | .radials p =>
    [("radials", list (p.radials.map radial)), ("dropped", list (p.dropped.map droppedRadial)),
      ("packet", packetHeader p.header), ("bin_count", nat p.binCount),
      ("declared", nat p.declaredRadials)]

def moment : Moment → Json
  | .radial => text "radial"
  | .unparsed .unknownProduct => text "unknown_product"
  | .unparsed .noSymbology => text "no_symbology"
  | .unparsed (.unsupportedPacket code) => record [("unsupported_packet", nat code.toNat)]

def productHeader (h : ProductHeader Float) : Json :=
  record [("site_id", text h.siteId), ("product_code", int h.code.toInt),
    ("volume_time", optional time h.volumeTime),
    ("generation_time", optional time h.generationTime),
    ("timestamp", optional time h.timestamp?), ("elevation_angle_deg", number h.elevationAngle),
    ("elevation_number", nat h.elevationNumber.toNat),
    ("range_to_first_gate_m", number h.firstGateRange),
    ("gate_spacing_m", number h.gateSpacing), ("radial_count", nat h.radialCount),
    ("gates_per_radial", nat h.gatesPerRadial), ("site_latitude", number h.siteLatitude),
    ("site_longitude", number h.siteLongitude), ("site_height_ft", int h.siteHeight.toInt),
    ("site_height_m", number h.siteHeightMeters),
    ("operational_mode", nat h.operationalMode.toNat), ("vcp", nat h.coveragePattern.toNat),
    ("volume_scan_number", nat h.volumeScanNumber.toNat),
    ("sequence_number", int h.sequenceNumber.toInt), ("source_id", int h.source.toInt),
    ("destination_id", int h.destination.toInt), ("thresholds", words h.thresholds.toList),
    ("parameters", signedWords h.parameters.toList), ("version", nat h.version.toNat),
    ("spot_blank", nat h.spotBlank.toNat), ("packet", optional packetHeader h.packet),
    ("packet_code", optional (fun (p : PacketHeader) => nat p.code.toNat) h.packet),
    ("known", flag h.kind?.isSome)]

/-- A product with those of its radials whose numbers are picked, or all of them. -/
def product (p : Level3.Product Float) (picked : Option (List Nat)) : List (String × Json) :=
  let shown := match picked with
    | none => p.radials
    | some numbers =>
      p.radials.zipIdx.filterMap fun (r, i) => if numbers.contains i then some r else none
  [("header", productHeader p.header), ("moment", moment p.moment),
    ("renderable", flag p.isRenderable), ("radial_total", nat p.radials.length),
    ("radials", list (shown.map radial)), ("dropped", list (p.droppedRadials.map droppedRadial)),
    ("wmo", optional heading p.heading),
    ("blocks", list ([p.blocks.symbology, p.blocks.graphic, p.blocks.tabular].map
      (optional nat)))]

end WeatherRadar.Report
