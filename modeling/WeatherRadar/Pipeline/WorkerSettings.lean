import WeatherRadar.Pipeline.Settings
import WeatherRadar.Yaml.Reading
/-!
# Settings of a worker

A worker keeps a list of layers current.  Its file names the layers, the source of product files,
files of sites and palettes in place of the standard ones, and settings of the pipeline.
-/

namespace WeatherRadar.Pipeline

open WeatherRadar.Yaml (Node)

/-- Where a worker gets product files. -/
inductive SourceSettings where
  /-- From addresses, with the seconds after which it gives up. -/
  | http (template : String) (timeout : Nat)
  | directory (path : String)
  deriving DecidableEq, Repr

/-- The seconds after which a fetch is given up. -/
def SourceSettings.timeout : SourceSettings → Nat
  | http _ seconds => seconds
  | directory _ => 0

/-- A layer as the file names it. -/
structure LayerEntry where
  site : String
  product : ProductCode
  enabled : Bool
  deriving DecidableEq, Repr

/-- Settings of a worker. -/
structure WorkerSettings where
  source : Option SourceSettings
  /-- Settings of the pipeline, unless the environment gives them. -/
  pipeline : Option Settings
  sitesFile : Option String
  palettesFile : Option String
  layers : List LayerEntry

/-- Why the settings of a worker cannot be used. -/
inductive WorkerFault where
  | noLayers
  | site (id : String)
  | product (code : ProductCode) (site : String)
  | pipeline (fault : SettingsFault)
  deriving DecidableEq, Repr

def WorkerFault.message : WorkerFault → String
  | noLayers => "no layers configured"
  | site id => "invalid site id '" ++ id ++ "'"
  | product code id => "invalid product code " ++ toString code.toInt ++ " for " ++ id
  | pipeline fault => "pipeline: " ++ fault.message

/-- Why a file of settings is refused. -/
inductive WorkerError where
  /-- It is not a file of settings. -/
  | malformed
  | invalid (fault : WorkerFault)
  deriving DecidableEq, Repr

/-! ## Reading -/

namespace SourceSettings

/-- The seconds after which a fetch is given up, if the file does not say. -/
def defaultTimeout : Nat := 30

/-- The names of the settings of a type of source. -/
def names? : String → Option (List String)
  | "http" => some ["url_template", "timeout_secs"]
  | "directory" => some ["path"]
  | _ => none

def ofRecord? (type : String) (record : Record Node) : Option SourceSettings :=
  if type == "http" then do
    return .http (← record.required "url_template" Node.word?)
      (← record.defaulted "timeout_secs" defaultTimeout Node.natural?)
  else (record.required "path" Node.word?).map .directory

/-- The name that a key means; a number counts the names. -/
def keyName? (names : List String) (key : Node) : Option String :=
  key.word? <|> key.natural?.map fun i => names.getD i ""

/-- Reads a source, whose type decides about its other settings. -/
def ofNode? : Node → Option SourceSettings
  | .mapping entries => do
    guard (!entries.any fun (key, value) =>
      key.plain?.any Node.isOversized || value.plain?.any Node.isOversized)
    let (types, others) := entries.partition fun (key, _) => key.word? == some "type"
    let [(_, value)] := types | none
    let type ← value.string?
    let names ← names? type
    ofRecord? type
      (← Record.ofMembers? names (others.map fun (key, value) => (keyName? names key, value)))
  | .sequence (type :: items) => do
    let type ← type.string?
    ofRecord? type (← Record.ofItems? (← names? type) items)
  | _ => none

end SourceSettings

def LayerEntry.ofNode? (node : Node) : Option LayerEntry := do
  let record ← node.record? ["site", "product", "enabled"]
  return {
    site := ← record.required "site" Node.string?
    product := ← record.required "product" Node.int16?
    enabled := ← record.defaulted "enabled" true Node.bool? }

def Settings.ofNode? (node : Node) : Option Settings := do
  let record ← node.record? names
  ofReaders?
    (fun name default => record.defaulted name default Node.natural?)
    (fun name default => record.defaulted name default Node.float?)
    (fun name default => record.defaulted name default Node.bool?)

namespace WorkerSettings

def ofNode? (node : Node) : Option WorkerSettings := do
  let record ← node.record? ["source", "pipeline", "sites_file", "palettes_file", "layers"]
  return {
    source := ← record.optional "source" (Node.nullable SourceSettings.ofNode?)
    pipeline := ← record.optional "pipeline" (Node.nullable Settings.ofNode?)
    sitesFile := ← record.optional "sites_file" (Node.nullable Node.string?)
    palettesFile := ← record.optional "palettes_file" (Node.nullable Node.string?)
    layers := ← record.required "layers" (Node.list? LayerEntry.ofNode?) }

/-! ## Checks -/

/-- Whether a text is the id of a site: four letters or digits of ASCII. -/
def isSiteId (id : String) : Bool :=
  let id := trimBlanks id
  id.utf8ByteSize == 4 && id.toList.all LayerId.isAlphanumeric

def layerFault? (entry : LayerEntry) : Option WorkerFault :=
  if !isSiteId entry.site then some (.site entry.site)
  else if entry.product ≤ 0 then some (.product entry.product entry.site)
  else none

def fault? (settings : WorkerSettings) : Option WorkerFault :=
  if settings.layers.isEmpty then some .noLayers
  else
    settings.layers.findSome? layerFault? <|>
      (settings.pipeline.bind Settings.fault?).map .pipeline

def ofText (text : String) : Except WorkerError WorkerSettings :=
  match (Node.parse? text).bind ofNode? with
  | none => .error .malformed
  | some settings =>
    match settings.fault? with
    | some fault => .error (.invalid fault)
    | none => .ok settings

/-- The layers that are enabled, each where it comes first. -/
def layerIds (settings : WorkerSettings) : List LayerId :=
  settings.layers.foldl (fun found entry =>
    let id := LayerId.ofSite entry.site entry.product
    if entry.enabled && !found.contains id then found ++ [id] else found) []

/-- The settings of the pipeline: those of the file, or those of the environment. -/
def pipelineSettings (settings : WorkerSettings) (environment : List (String × String)) :
    Settings :=
  settings.pipeline.getD (.ofEnvironment environment)

end WorkerSettings

end WeatherRadar.Pipeline
