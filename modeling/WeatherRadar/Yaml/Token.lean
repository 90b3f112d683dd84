import WeatherRadar.Yaml.Scalar
/-!
# Tokens of YAML

A file is cut into scalars, the marks of its collections, and the starts and ends of collections
that are written by indentation.  That a scalar is a key shows only at the colon after it, so a
scanner remembers where keys may have begun.
-/

namespace WeatherRadar.Yaml

inductive Token where
  | directive
  | documentStart
  | documentEnd
  | sequenceStart
  | mappingStart
  /-- The end of a collection that is written by indentation. -/
  | blockEnd
  | entry
  | key
  | value
  | listStart
  | listEnd
  | objectStart
  | objectEnd
  | comma
  | scalar (plain : Bool) (text : String)
  deriving DecidableEq

/-- Where a key may have begun. -/
structure KeyStart where
  tokens : Nat
  line : Nat
  column : Nat
  /-- Whether nothing else can be there. -/
  required : Bool

/-- The state of a scanner. -/
structure Scanner where
  point : Point
  tokens : Array Token := #[]
  /-- The column of the innermost collection that is written by indentation. -/
  indent : Int := -1
  /-- The columns of those around it, the innermost one first. -/
  outer : List Int := []
  keyAllowed : Bool := true
  /-- The keys that may have begun in each collection in brackets, the innermost one first, and
  outside of them. -/
  keys : List (Option KeyStart) := [none]
  done : Bool := false

/-- Skips blanks, comments and ends of lines; tells whether a key may begin there. -/
def skipBetween (flow : Bool) (keyAllowed comment : Bool) (line column : Nat) :
    List Char → Point × Bool
  | [] => (⟨[], line, column⟩, keyAllowed)
  | c :: rest =>
    if isLineEnd c then skipBetween flow (keyAllowed || !flow) false (line + 1) 0 rest
    else if comment then skipBetween flow keyAllowed true line (column + 1) rest
    else if c == '#' then skipBetween flow keyAllowed true line (column + 1) rest
    else if c == ' ' || (c == '\t' && (flow || !keyAllowed)) then
      skipBetween flow keyAllowed false line (column + 1) rest
    else (⟨c :: rest, line, column⟩, keyAllowed)

namespace Scanner

def inFlow (s : Scanner) : Bool := s.keys.length > 1

def push (s : Scanner) (token : Token) : Scanner := { s with tokens := s.tokens.push token }

def skip (s : Scanner) (n : Nat) : Scanner :=
  { s with point := ⟨s.point.rest.drop n, s.point.line, s.point.column + n⟩ }

def skipBlanks (s : Scanner) : Scanner :=
  let (point, keyAllowed) :=
    skipBetween s.inFlow s.keyAllowed false s.point.line s.point.column s.point.rest
  { s with point, keyAllowed }

/-- Forgets keys that were not followed by a colon on their line or soon enough. -/
def dropStaleKeys? (s : Scanner) : Option Scanner := do
  let keys ← s.keys.mapM fun
    | none => some none
    | some key =>
      if key.line < s.point.line || key.column + 1024 < s.point.column then
        if key.required then none else some none
      else some (some key)
  return { s with keys }

def dropKey? (s : Scanner) : Option Scanner :=
  match s.keys with
  | some key :: outer => if key.required then none else some { s with keys := none :: outer }
  | _ => some s

def saveKey? (s : Scanner) : Option Scanner :=
  if s.keyAllowed then do
    let s ← s.dropKey?
    let required := !s.inFlow && s.indent == s.point.column
    return { s with
      keys := some ⟨s.tokens.size, s.point.line, s.point.column, required⟩ :: s.keys.drop 1 }
  else some s

/-- Begins a collection at a column, unless the innermost one is there; the token goes after a
number of tokens. -/
def roll (s : Scanner) (column tokens : Nat) (token : Token) : Scanner :=
  if !s.inFlow && s.indent < column then
    { s with
      outer := s.indent :: s.outer
      indent := column
      tokens := s.tokens.extract 0 tokens ++ #[token] ++ s.tokens.extract tokens s.tokens.size }
  else s

/-- Ends the collections to the right of a column. -/
def unrollFrom (column : Int) (tokens : Array Token) (indent : Int) :
    List Int → Array Token × Int × List Int
  | [] => (tokens, indent, [])
  | next :: outer =>
    if column < indent then unrollFrom column (tokens.push .blockEnd) next outer
    else (tokens, indent, next :: outer)

/-- Ends the collections to the right of a column. -/
def unroll (s : Scanner) (column : Int) : Scanner :=
  if s.inFlow then s
  else
    let (tokens, indent, outer) := unrollFrom column s.tokens s.indent s.outer
    { s with tokens, indent, outer }

def finish? (s : Scanner) : Option Scanner := do
  let s ← (s.unroll (-1)).dropKey?
  return { s with done := true }

def document? (s : Scanner) (token : Token) : Option Scanner := do
  let s ← (s.unroll (-1)).dropKey?
  return ({ s with keyAllowed := false }.push token).skip 3

/-- A line that names the version of the format. -/
def directive? (s : Scanner) : Option Scanner := do
  let s ← (s.unroll (-1)).dropKey?
  let line := s.point.rest.takeWhile fun c => !isLineEnd c
  let words := ((String.ofList (line.takeWhile (· != '#'))).splitToList isSpace).filter (!·.isEmpty)
  guard (words == ["%YAML", "1.1"] || words == ["%YAML", "1.2"])
  return ({ s with keyAllowed := false }.push .directive).skip line.length

def openFlow? (s : Scanner) (token : Token) : Option Scanner := do
  let s ← s.saveKey?
  return ({ s with keys := none :: s.keys, keyAllowed := true }.push token).skip 1

def closeFlow? (s : Scanner) (token : Token) : Option Scanner := do
  let s ← s.dropKey?
  let keys := if s.inFlow then s.keys.drop 1 else s.keys
  return ({ s with keys, keyAllowed := false }.push token).skip 1

def comma? (s : Scanner) : Option Scanner := do
  let s ← s.dropKey?
  return ({ s with keyAllowed := true }.push .comma).skip 1

def entry? (s : Scanner) : Option Scanner := do
  guard (s.inFlow || s.keyAllowed)
  let s ← (s.roll s.point.column s.tokens.size .sequenceStart).dropKey?
  return ({ s with keyAllowed := true }.push .entry).skip 1

def key? (s : Scanner) : Option Scanner := do
  guard (s.inFlow || s.keyAllowed)
  let s ← (s.roll s.point.column s.tokens.size .mappingStart).dropKey?
  return ({ s with keyAllowed := !s.inFlow }.push .key).skip 1

/-- A colon after a key, or without one. -/
def value? (s : Scanner) : Option Scanner :=
  match s.keys with
  | some key :: outer =>
    let marked := { s with
      tokens := s.tokens.extract 0 key.tokens ++ #[Token.key] ++
        s.tokens.extract key.tokens s.tokens.size
      keys := none :: outer
      keyAllowed := false }
    some (((marked.roll key.column key.tokens .mappingStart).push .value).skip 1)
  | _ => do
    guard (s.inFlow || s.keyAllowed)
    let s := s.roll s.point.column s.tokens.size .mappingStart
    return ({ s with keyAllowed := !s.inFlow }.push .value).skip 1

def block? (s : Scanner) (literal : Bool) : Option Scanner := do
  let s ← s.dropKey?
  let (text, point) ← blockFrom literal s.indent (s.skip 1).point
  return { s with keyAllowed := true, point }.push (.scalar false text)

def quoted? (s : Scanner) (single : Bool) : Option Scanner := do
  let s ← s.saveKey?
  let start := (s.skip 1).point
  let (text, point) ← quotedFrom single [] .none .none start.line start.column start.rest
  return { s with keyAllowed := false, point }.push (.scalar false text)

def plain? (s : Scanner) : Option Scanner := do
  let s ← s.saveKey?
  let (text, brokeLine, point) ←
    plainFrom s.inFlow (s.indent + 1).toNat [] .none s.point.line s.point.column s.point.rest
  return { s with keyAllowed := brokeLine, point }.push (.scalar true text)

/-- Whether plain words can begin with a character. -/
def startsPlain (flow : Bool) (c : Char) (rest : List Char) : Bool :=
  if c == '-' then !rest.head?.any isSpace
  else if c == '?' || c == ':' then !flow && !endsWord rest
  else !(['-', '?', ':', ',', '[', ']', '\x7b', '\x7d', '#', '&', '*', '!', '|', '>', '\'', '"',
    '%', '@', '\x60'].contains c)

def next? (s : Scanner) : Option Scanner := do
  let s ← s.skipBlanks.dropStaleKeys?
  let s := s.unroll s.point.column
  match s.point.rest with
  | [] => s.finish?
  | c :: rest =>
    let flow := s.inFlow
    let atStart := s.point.column == 0
    if atStart && c == '%' then s.directive?
    else if atStart && atMarker (c :: rest) then
      s.document? (if c == '-' then .documentStart else .documentEnd)
    else if c == '[' then s.openFlow? .listStart
    else if c == '\x7b' then s.openFlow? .objectStart
    else if c == ']' then s.closeFlow? .listEnd
    else if c == '\x7d' then s.closeFlow? .objectEnd
    else if c == ',' then s.comma?
    else if c == '-' && endsWord rest then s.entry?
    else if c == '?' && (flow || endsWord rest) then s.key?
    else if c == ':' && (flow || endsWord rest) then s.value?
    else if (c == '|' || c == '>') && !flow then s.block? (c == '|')
    else if c == '\'' || c == '"' then s.quoted? (c == '\'')
    else if startsPlain flow c rest then s.plain?
    else none

/-- The tokens of the rest of a file, of which there are at most `n`. -/
def scan? : Nat → Scanner → Option (List Token)
  | 0, _ => none
  | n + 1, s => do
    let s ← s.next?
    if s.done then return s.tokens.toList else scan? n s

end Scanner

def isAllowed (c : Char) : Bool :=
  let n := c.toNat
  n == 0x09 || n == 0x0A || n == 0x0D || (0x20 ≤ n && n ≤ 0x7E) || n == 0x85 ||
    (0xA0 ≤ n && n ≤ 0xD7FF) || (0xE000 ≤ n && n ≤ 0xFFFD) || 0x10000 ≤ n

/-- A text with ends of lines of one kind. -/
def unifyLineEnds : List Char → List Char
  | [] => []
  | '\r' :: '\n' :: rest => '\n' :: unifyLineEnds rest
  | '\r' :: rest => '\n' :: unifyLineEnds rest
  | '\u0085' :: rest => '\n' :: unifyLineEnds rest
  | c :: rest => c :: unifyLineEnds rest

/-- The tokens of a file.  A mark of the byte order at its beginning takes a column. -/
def Token.scan? (text : String) : Option (List Token) :=
  if !text.toList.all isAllowed then none
  else
    let cs := unifyLineEnds text.toList
    let point : Point := match cs with
      | '\uFEFF' :: rest => ⟨rest, 0, 1⟩
      | cs => ⟨cs, 0, 0⟩
    Scanner.scan? (cs.length + 2) { point }

end WeatherRadar.Yaml
