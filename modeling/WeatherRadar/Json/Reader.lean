import WeatherRadar.Json.Value
import WeatherRadar.Text.Hex
/-!
# Reading JSON

A strict reader: nothing but blanks may follow the value, numbers have no leading zeros, and text
holds no control characters.  Values may nest to any depth.
-/

namespace WeatherRadar.Json

def isSpace (c : Char) : Bool := c == ' ' || c == '\n' || c == '\t' || c == '\r'

def skipSpace (cs : List Char) : List Char := cs.dropWhile isSpace

/-- Four hexadecimal digits, and what remains. -/
def hexUnit? : List Char → Option (Nat × List Char)
  | a :: b :: c :: d :: rest => do
    let a ← hexValue? a
    let b ← hexValue? b
    let c ← hexValue? c
    let d ← hexValue? d
    return (((a * 16 + b) * 16 + c) * 16 + d, rest)
  | _ => none

def simpleEscape? : Char → Option Char
  | '"' => some '"'
  | '\\' => some '\\'
  | '/' => some '/'
  | 'b' => some '\x08'
  | 'f' => some '\x0c'
  | 'n' => some '\n'
  | 'r' => some '\r'
  | 't' => some '\t'
  | _ => none

/-- The character of a unit escape that starts with `unit`: a pair of surrogates is one character.
The result is `none` inside for a lone surrogate. -/
def unitChar (unit : Nat) (rest : List Char) : Option Char × List Char :=
  if 0xD800 ≤ unit && unit < 0xDC00 then
    match rest with
    | '\\' :: 'u' :: more =>
      match hexUnit? more with
      | some (low, rest') =>
        if 0xDC00 ≤ low && low < 0xE000 then
          (some (Char.ofNat (0x10000 + (unit - 0xD800) * 1024 + (low - 0xDC00))), rest')
        else (none, rest)
      | none => (none, rest)
    | _ => (none, rest)
  else if 0xDC00 ≤ unit && unit < 0xE000 then (none, rest)
  else (some (Char.ofNat unit), rest)

/-- The rest of a text after its opening quote.  `soFar` is in reverse order, and `whole` tells
whether every escape so far gave a character. -/
def textBody (fuel : Nat) (soFar : List Char) (whole : Bool) :
    List Char → Option (Option String × List Char)
  | [] => none
  | '"' :: rest =>
    some (if whole then some (String.ofList soFar.reverse) else none, rest)
  | '\\' :: 'u' :: rest =>
    match fuel, hexUnit? rest with
    | fuel + 1, some (unit, rest) =>
      match unitChar unit rest with
      | (some c, rest) => textBody fuel (c :: soFar) whole rest
      | (none, rest) => textBody fuel soFar false rest
    | _, _ => none
  | '\\' :: c :: rest =>
    match fuel, simpleEscape? c with
    | fuel + 1, some c => textBody fuel (c :: soFar) whole rest
    | _, _ => none
  | c :: rest =>
    match fuel with
    | fuel + 1 => if c.toNat < 32 then none else textBody fuel (c :: soFar) whole rest
    | 0 => none

/-- Digits, of which there is at least one, and what remains. -/
def someDigits? (cs : List Char) : Option (List Char × List Char) :=
  let ds := cs.takeWhile isDecimalDigit
  if ds.isEmpty then none else some (ds, cs.dropWhile isDecimalDigit)

/-- A number at the start of the characters. -/
def numeral? (cs : List Char) : Option (Numeral × List Char) := do
  let (negative, cs) := match cs with
    | '-' :: rest => (true, rest)
    | rest => (false, rest)
  let (whole, cs) ← someDigits? cs
  if whole.head? == some '0' && whole.length != 1 then none
  let (fraction, cs) ← match cs with
    | '.' :: rest => someDigits? rest
    | rest => some ([], rest)
  let (exponent, cs) ← match cs with
    | c :: rest =>
      if c == 'e' || c == 'E' then
        let (down, rest) := splitSign rest
        (someDigits? rest).map fun (ds, rest) => (some (down, ds), rest)
      else some (none, c :: rest)
    | [] => some (none, [])
  return (⟨negative, whole, fraction, exponent⟩, cs)

mutual

/-- A value at the start of the characters, which do not start with a blank. -/
def value (fuel : Nat) (cs : List Char) : Option (Json × List Char) :=
  match fuel with
  | 0 => none
  | fuel + 1 =>
    match cs with
    | 'n' :: 'u' :: 'l' :: 'l' :: rest => some (.null, rest)
    | 't' :: 'r' :: 'u' :: 'e' :: rest => some (.bool true, rest)
    | 'f' :: 'a' :: 'l' :: 's' :: 'e' :: rest => some (.bool false, rest)
    | '"' :: rest => (textBody (rest.length + 1) [] true rest).map fun (s, rest) => (.text s, rest)
    | '[' :: rest =>
      match skipSpace rest with
      | ']' :: rest => some (.array [], rest)
      | rest => items fuel [] rest
    | '{' :: rest =>
      match skipSpace rest with
      | '}' :: rest => some (.object [], rest)
      | rest => members fuel [] rest
    | cs => (numeral? cs).map fun (n, rest) => (.number n, rest)

/-- The items of a list, of which there is one more. -/
def items (fuel : Nat) (soFar : List Json) (cs : List Char) : Option (Json × List Char) :=
  match fuel with
  | 0 => none
  | fuel + 1 =>
    match value fuel cs with
    | none => none
    | some (item, rest) =>
      match skipSpace rest with
      | ',' :: rest => items fuel (item :: soFar) (skipSpace rest)
      | ']' :: rest => some (.array (item :: soFar).reverse, rest)
      | _ => none

/-- The members of an object, of which there is one more. -/
def members (fuel : Nat) (soFar : List (Option String × Json)) (cs : List Char) :
    Option (Json × List Char) :=
  match fuel with
  | 0 => none
  | fuel + 1 =>
    match cs with
    | '"' :: rest =>
      match textBody (rest.length + 1) [] true rest with
      | none => none
      | some (name, rest) =>
        match skipSpace rest with
        | ':' :: rest =>
          match value fuel (skipSpace rest) with
          | none => none
          | some (item, rest) =>
            match skipSpace rest with
            | ',' :: rest => members fuel ((name, item) :: soFar) (skipSpace rest)
            | '}' :: rest => some (.object ((name, item) :: soFar).reverse, rest)
            | _ => none
        | _ => none
    | _ => none

end

def parse? (text : String) : Option Json :=
  let cs := skipSpace text.toList
  match value (2 * cs.length + 2) cs with
  | some (json, rest) => if (skipSpace rest).isEmpty then some json else none
  | none => none

end WeatherRadar.Json
