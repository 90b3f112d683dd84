import WeatherRadar.BoundingBox
import WeatherRadar.Calendar
import WeatherRadar.Color
import WeatherRadar.Error
import WeatherRadar.Json.Writer
import WeatherRadar.Layer
import WeatherRadar.Number.Text
import WeatherRadar.Text.Hex
/-!
# Reports

A report describes a value in JSON for people and programs that inspect products.  Numbers with a
point are written as text, because readers of JSON do not agree on their digits: exactly where a
value is as it was transmitted, and with fixed places where it was computed.
-/

namespace WeatherRadar.Report

def text (s : String) : Json := .ofString s

def int (n : Int) : Json := .ofInt n

def nat (n : Nat) : Json := .ofInt n

def flag (b : Bool) : Json := .bool b

def list (items : List Json) : Json := .array items

def record (fields : List (String × Json)) : Json := .ofFields fields

def optional {α : Type} (f : α → Json) : Option α → Json
  | none => .null
  | some a => f a

def number (x : Float) : Json := text (floatText x)

/-- A 32-bit number as it is. -/
def number32 (x : Float32) : Json := text (float32Text x)

def fixed (places : Nat) (x : Float) : Json := text (fixedFloatText places x)

/-- A 32-bit number with fixed places. -/
def fixed32 (places : Nat) (x : Float32) : Json := text (fixedFloat32Text places x)

/-- Degrees that were computed. -/
def degrees (x : Float) : Json := fixed 9 x

/-- Meters that were computed. -/
def meters (x : Float) : Json := fixed 4 x

def hex (bytes : List UInt8) : Json := text (hexText bytes)

def time (t : Instant) : Json := text t.rfc3339

/-- An instant in all its forms, the numbered day and its seconds last. -/
def julian (t? : Option Instant) : Json :=
  record [("time", optional time t?), ("unix", optional (fun t => int t.seconds) t?),
    ("back", optional (fun t => list [nat t.toJulian.1.toNat, nat t.toJulian.2.toNat]) t?)]

/-- Adjacent equal items with their counts. -/
def runs {α : Type} [BEq α] (items : List α) : List (Nat × α) :=
  (items.foldl (fun found x =>
    match found with
    | (n, y) :: rest => if x == y then (n + 1, y) :: rest else (1, x) :: found
    | [] => [(1, x)]) []).reverse

/-- Items of which many are alike: counts and items. -/
def runList {α : Type} [BEq α] (f : α → Json) (items : List α) : Json :=
  list ((runs items).map fun (n, x) => list [nat n, f x])

/-- Bytes, with counts where there are very many. -/
def contents (bytes : List UInt8) : Json :=
  let data := if bytes.length ≤ 8192 then hex bytes else runList (fun b => hex [b]) bytes
  record [("len", nat bytes.length), ("data", data)]

/-- A failure, with its text if that is worth showing. -/
def failure (kind : String) (message : Option String) : Json :=
  record (("error", text kind) :: match message with
    | some m => [("message", text m)]
    | none => [])

/-- Why metadata are refused.  What is wrong inside a file is left to its reader. -/
def metadataError (e : MetadataError) : Json :=
  failure e.kind (match e with
    | .config reason => if reason.startsWith "JSON error" then none else some e.message
    | e => some e.message)

def fields : Json → List (String × Json)
  | .object members => members.filterMap fun (name, value) => name.map (·, value)
  | _ => []

def boxWith (f : Float → Json) (b : BoundingBox Float) : Json :=
  list [f b.minX, f b.minY, f b.maxX, f b.maxY]

def color (c : Rgba) : Json :=
  record [("rgba", list [nat c.r.toNat, nat c.g.toNat, nat c.b.toNat, nat c.a.toNat]),
    ("hex", text c.toHex), ("transparent", flag c.isTransparent)]

def layer (l : LayerId) : Json :=
  record [("site", text l.site), ("product", int l.product.toInt), ("text", text l.text)]

end WeatherRadar.Report
