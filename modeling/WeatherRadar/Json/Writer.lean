import WeatherRadar.Json.Value
import WeatherRadar.Text.Hex
/-!
# Writing JSON

Values are written without blanks and in ASCII; other characters are escaped by their units.
-/

namespace WeatherRadar.Json

/-- A unit as an escape. -/
def unitEscape (out : String) (n : Nat) : String :=
  ((((out ++ "\\u").push (hexDigit 'a' (n / 4096 % 16))).push (hexDigit 'a' (n / 256 % 16))).push
    (hexDigit 'a' (n / 16 % 16))).push (hexDigit 'a' (n % 16))

def pushChar (out : String) (c : Char) : String :=
  if c == '"' then out ++ "\\\""
  else if c == '\\' then out ++ "\\\\"
  else if 32 ≤ c.toNat && c.toNat < 127 then out.push c
  else if c.toNat < 0x10000 then unitEscape out c.toNat
  else
    let n := c.toNat - 0x10000
    unitEscape (unitEscape out (0xD800 + n / 1024)) (0xDC00 + n % 1024)

def pushString (out : String) (s : String) : String :=
  (s.foldl pushChar (out.push '"')).push '"'

def pushNumeral (out : String) (n : Numeral) : String :=
  let out := if n.negative then out.push '-' else out
  let out := n.whole.foldl String.push out
  let out := if n.fraction.isEmpty then out else n.fraction.foldl String.push (out.push '.')
  match n.exponent with
  | none => out
  | some (down, ds) => ds.foldl String.push (out.push 'e' |>.push (if down then '-' else '+'))

mutual

def push (out : String) : Json → String
  | .null => out ++ "null"
  | .bool true => out ++ "true"
  | .bool false => out ++ "false"
  | .number n => pushNumeral out n
  | .text s => pushString out (s.getD "")
  | .array items => (pushItems (out.push '[') true items).push ']'
  | .object members => (pushMembers (out.push '\x7b') true members).push '\x7d'

def pushItems (out : String) (first : Bool) : List Json → String
  | [] => out
  | item :: items => pushItems (push (if first then out else out.push ',') item) false items

def pushMembers (out : String) (first : Bool) : List (Option String × Json) → String
  | [] => out
  | (name, item) :: members =>
    let out := if first then out else out.push ','
    pushMembers (push ((pushString out (name.getD "")).push ':') item) false members

end

def render (json : Json) : String := push "" json

end WeatherRadar.Json
