import WeatherRadar.Text.Hex
/-!
# Scalars in YAML

The three ways to write a text in a YAML file: plain words, which end where something else begins;
quoted text, in which line ends fold into blanks and backslashes introduce other characters; and
blocks of indented lines.
-/

namespace WeatherRadar.Yaml

/-- A place in a file: what is left of it, and its line and column. -/
structure Point where
  rest : List Char
  line : Nat
  column : Nat

/-- Whether a character ends a line.  Line ends of other kinds are unified before. -/
def isLineEnd (c : Char) : Bool := c == '\n' || c == '\u2028' || c == '\u2029'

/-- Whether a character separates words within a line. -/
def isSpace (c : Char) : Bool := c == ' ' || c == '\t'

/-- Whether a text ends or goes on with a blank or the end of a line. -/
def endsWord : List Char → Bool
  | [] => true
  | c :: _ => isSpace c || isLineEnd c

/-- Whether a line starts with one of the marks between documents. -/
def atMarker : List Char → Bool
  | '-' :: '-' :: '-' :: rest => endsWord rest
  | '.' :: '.' :: '.' :: rest => endsWord rest
  | _ => false

/-- What stands between two words of a text. -/
inductive Gap where
  | none
  /-- Blanks, the last one first. -/
  | blanks (seen : List Char)
  /-- Ends of lines: the first one unless it was hidden by a backslash, and the others, the last
  one first. -/
  | lines (first : Option Char) (more : List Char)

namespace Gap

/-- The gap with one more blank.  Blanks at the start of a line do not count. -/
def addSpace (c : Char) : Gap → Gap
  | none => blanks [c]
  | blanks seen => blanks (c :: seen)
  | lines first more => lines first more

/-- The gap with one more end of a line.  Blanks before it do not count. -/
def addLineEnd (c : Char) : Gap → Gap
  | lines first more => lines first (c :: more)
  | _ => lines (some c) []

def breaksLine : Gap → Bool
  | lines _ _ => true
  | _ => false

/-- What the gap stands for, the last character first: a single end of a line is a blank. -/
def folded : Gap → List Char
  | none => []
  | blanks seen => seen
  | lines (some '\n') [] => [' ']
  | lines (some '\n') more => more
  | lines first more => more ++ first.toList

end Gap

/-! ## Plain text -/

/-- Whether plain text ends before a character. -/
def endsPlain (flow : Bool) (c : Char) (rest : List Char) : Bool :=
  (c == ':' && endsWord rest) || (flow && [',', '[', ']', '\x7b', '\x7d'].contains c)

/-- Whether a colon is misplaced in a collection in brackets. -/
def strayColon (flow : Bool) (c : Char) (rest : List Char) : Bool :=
  flow && c == ':' && rest.head?.any [',', '?', '[', ']', '\x7b', '\x7d'].contains

/-- Plain text whose lines are indented by at least `indent`: the text, whether it ends after the
end of a line, and the place after it. -/
def plainFrom (flow : Bool) (indent : Nat) (found : List Char) (gap : Gap) (line column : Nat) :
    List Char → Option (String × Bool × Point)
  | [] => some (String.ofList found.reverse, gap.breaksLine, ⟨[], line, column⟩)
  | c :: rest =>
    if isSpace c then
      if gap.breaksLine && column < indent && c == '\t' then none
      else plainFrom flow indent found (gap.addSpace c) line (column + 1) rest
    else if isLineEnd c then plainFrom flow indent found (gap.addLineEnd c) (line + 1) 0 rest
    else
      let outside := gap.breaksLine &&
        ((!flow && column < indent) || (column == 0 && atMarker (c :: rest)))
      let comment := c == '#' && (match gap with
        | .none => false
        | _ => true)
      let ended := some (String.ofList found.reverse, gap.breaksLine, ⟨c :: rest, line, column⟩)
      if outside || comment then ended
      else if strayColon flow c rest then none
      else if endsPlain flow c rest then ended
      else plainFrom flow indent (c :: gap.folded ++ found) .none line (column + 1) rest

/-! ## Quoted text -/

def escaped? : Char → Option Char
  | '0' => some '\x00'
  | 'a' => some '\x07'
  | 'b' => some '\x08'
  | 't' | '\t' => some '\t'
  | 'n' => some '\n'
  | 'v' => some '\x0b'
  | 'f' => some '\x0c'
  | 'r' => some '\r'
  | 'e' => some '\x1b'
  | ' ' => some ' '
  | '"' => some '"'
  | '/' => some '/'
  | '\\' => some '\\'
  | 'N' => some '\u0085'
  | '_' => some '\u00a0'
  | 'L' => some '\u2028'
  | 'P' => some '\u2029'
  | _ => none

/-- The number of hexadecimal digits after a letter after a backslash. -/
def escapeDigits? : Char → Option Nat
  | 'x' => some 2
  | 'u' => some 4
  | 'U' => some 8
  | _ => none

def charOfNat? (n : Nat) : Option Char := if n.isValidChar then some (Char.ofNat n) else none

/-- What of an escape comes before the next character of a quoted text. -/
inductive Escape where
  | none
  | backslash
  /-- Hexadecimal digits: how many are missing, and the number so far. -/
  | digits (missing value : Nat)

def quotedFrom (single : Bool) (found : List Char) (gap : Gap) (escape : Escape)
    (line column : Nat) : List Char → Option (String × Point)
  | [] => none
  | c :: rest =>
    match escape with
    | .backslash =>
      if isLineEnd c then quotedFrom single found (.lines none []) .none (line + 1) 0 rest
      else
        match escapeDigits? c, escaped? c with
        | some n, _ => quotedFrom single found .none (.digits n 0) line (column + 1) rest
        | none, some e => quotedFrom single (e :: found) .none .none line (column + 1) rest
        | none, none => none
    | .digits missing value =>
      match hexValue? c with
      | none => none
      | some d =>
        let value := value * 16 + d
        if missing > 1 then
          quotedFrom single found .none (.digits (missing - 1) value) line (column + 1) rest
        else
          match charOfNat? value with
          | none => none
          | some e => quotedFrom single (e :: found) .none .none line (column + 1) rest
    | .none =>
      if isSpace c then quotedFrom single found (gap.addSpace c) .none line (column + 1) rest
      else if isLineEnd c then quotedFrom single found (gap.addLineEnd c) .none (line + 1) 0 rest
      else if column == 0 && atMarker (c :: rest) then none
      else
        let before := gap.folded ++ found
        if c == '\\' && !single then
          quotedFrom single before .none .backslash line (column + 1) rest
        else if c != (if single then '\'' else '"') then
          quotedFrom single (c :: before) .none .none line (column + 1) rest
        else
          match rest with
          | '\'' :: more =>
            if single then quotedFrom single (c :: before) .none .none line (column + 2) more
            else some (String.ofList before.reverse, ⟨rest, line, column + 1⟩)
          | _ => some (String.ofList before.reverse, ⟨rest, line, column + 1⟩)

/-! ## Blocks of lines -/

/-- What becomes of the line ends after a block. -/
inductive Chomping where
  | strip
  | clip
  | keep
  deriving DecidableEq

/-- The sign for what becomes of line ends. -/
def chomping? : Char → Option Chomping
  | '-' => some .strip
  | '+' => some .keep
  | _ => none

/-- A digit for the indentation of a block. -/
def indentDigit? (c : Char) : Option Nat :=
  if '1' ≤ c && c ≤ '9' then some (c.toNat - 48) else none

/-- The signs after the mark of a block, in either order. -/
def blockSigns : List Char → Chomping × Nat × List Char
  | [] => (.clip, 0, [])
  | c :: rest =>
    match chomping? c, indentDigit? c with
    | some chomping, _ =>
      match rest.head?.bind indentDigit? with
      | some n => (chomping, n, rest.drop 1)
      | none => (chomping, 0, rest)
    | none, some n =>
      match rest.head?.bind chomping? with
      | some chomping => (chomping, n, rest.drop 1)
      | none => (.clip, n, rest)
    | none, none => (.clip, 0, c :: rest)

/-- Empty lines and the indentation of the next one: the ends of the lines, the last one first,
the greatest column, and the place after them.  Without an indent all blanks count. -/
def blockBreaks (indent : Nat) (found : List Char) (deepest line column : Nat) :
    List Char → Option (List Char × Nat × Point)
  | [] => some (found, max deepest column, ⟨[], line, column⟩)
  | c :: rest =>
    let inside := indent == 0 || column < indent
    if inside && c == ' ' then blockBreaks indent found deepest line (column + 1) rest
    else if inside && c == '\t' then none
    else if isLineEnd c then blockBreaks indent (c :: found) (max deepest column) (line + 1) 0 rest
    else some (found, max deepest column, ⟨c :: rest, line, column⟩)

/-- What has been read of a block: its text and the ends of lines after it, the last character
first. -/
structure BlockText where
  text : List Char := []
  /-- The end of the last line. -/
  ending : List Char := []
  /-- Ends of empty lines after it. -/
  empty : List Char := []
  /-- Whether the last line begins with a blank. -/
  indented : Bool := false

/-- The text with the ends of lines before a further line. -/
def BlockText.joined (block : BlockText) (literal indented : Bool) : List Char :=
  if !literal && block.ending == ['\n'] && !block.indented && !indented then
    if block.empty.isEmpty then ' ' :: block.text else block.empty ++ block.text
  else block.empty ++ block.ending ++ block.text

/-- The lines of a block, at most `n` of them. -/
def blockLines (literal : Bool) (indent : Nat) : Nat → BlockText → Point →
    Option (BlockText × Point)
  | 0, block, point => some (block, point)
  | n + 1, block, point =>
    if point.column != indent || point.rest.isEmpty then some (block, point)
    else do
      let indented := point.rest.head?.any isSpace
      let words := point.rest.takeWhile fun c => !isLineEnd c
      let after := point.rest.drop words.length
      let text := words.reverse ++ block.joined literal indented
      match after with
      | [] => return (⟨text, [], [], indented⟩, ⟨[], point.line, point.column + words.length⟩)
      | c :: rest =>
        let (empty, _, next) ← blockBreaks indent [] 0 (point.line + 1) 0 rest
        blockLines literal indent n ⟨text, [c], empty, indented⟩ next

/-- A block after its mark, within lines of an indentation. -/
def blockFrom (literal : Bool) (outer : Int) (point : Point) : Option (String × Point) := do
  let (chomping, increment, rest) := blockSigns point.rest
  let rest := rest.dropWhile isSpace
  let rest := if rest.head? == some '#' then rest.dropWhile fun c => !isLineEnd c else rest
  guard (endsWord rest)
  let base := (max outer 0).toNat
  let given := if increment == 0 then 0 else base + increment
  let (empty, deepest, start) ← blockBreaks given [] 0 (point.line + 1) 0 (rest.drop 1)
  let indent := if given == 0 then max deepest (max (outer + 1).toNat 1) else given
  let (block, next) ← blockLines literal indent (start.rest.length + 1) ⟨[], [], empty, false⟩ start
  let ending := match chomping with
    | .strip => []
    | .clip => block.ending
    | .keep => block.empty ++ block.ending
  return (String.ofList (ending ++ block.text).reverse, next)

end WeatherRadar.Yaml
