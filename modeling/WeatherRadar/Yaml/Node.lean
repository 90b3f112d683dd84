import WeatherRadar.Yaml.Token
/-!
# Nodes of YAML

A file holds one document: a scalar, a sequence or a mapping of such.
-/

namespace WeatherRadar.Yaml

/-- A value in a file.  Plain scalars may stand for other things than texts. -/
inductive Node where
  | scalar (plain : Bool) (text : String)
  | sequence (items : List Node)
  | mapping (entries : List (Node × Node))

namespace Node

def missing : Node := scalar true ""

def isMissing : Node → Bool
  | scalar true text => text.isEmpty
  | _ => false

/-- Whether the next token is one of some. -/
def nextIs (tokens : List Token) (some : List Token) : Bool :=
  tokens.head?.any some.contains

mutual

/-- Reads a node.  In brackets there are no collections by indentation, and only after a key are
there sequences without an indentation of their own. -/
def read? (indented afterKey : Bool) : Nat → List Token → Option (Node × List Token)
  | 0, _ => none
  | n + 1, tokens =>
    match tokens with
    | .scalar plain text :: rest => some (scalar plain text, rest)
    | .listStart :: rest => readList? n [] true rest
    | .objectStart :: rest => readObject? n [] true rest
    | .entry :: _ => if afterKey then readEntries? false n [] tokens else none
    | .sequenceStart :: rest => if indented then readEntries? true n [] rest else none
    | .mappingStart :: rest => if indented then readMapping? n [] rest else none
    | _ => none

/-- Reads a node unless one of the tokens comes that show that there is none. -/
def readUnless? (stops : List Token) (indented afterKey : Bool) :
    Nat → List Token → Option (Node × List Token)
  | 0, _ => none
  | n + 1, tokens =>
    if nextIs tokens stops then some (missing, tokens) else read? indented afterKey n tokens

/-- Reads entries of a sequence, which ends by indentation or before another token. -/
def readEntries? (closed : Bool) :
    Nat → List Node → List Token → Option (Node × List Token)
  | 0, _, _ => none
  | n + 1, found, tokens =>
    match tokens with
    | .entry :: rest => do
      let stops := if closed then [.entry, .blockEnd] else [.entry, .key, .value, .blockEnd]
      let (item, rest) ← readUnless? stops true false n rest
      readEntries? closed n (item :: found) rest
    | tokens =>
      if !closed then some (sequence found.reverse, tokens)
      else if nextIs tokens [.blockEnd] then some (sequence found.reverse, tokens.drop 1)
      else none

/-- Reads entries of a mapping that ends by indentation. -/
def readMapping? : Nat → List (Node × Node) → List Token → Option (Node × List Token)
  | 0, _, _ => none
  | n + 1, found, tokens =>
    match tokens with
    | .blockEnd :: rest => some (mapping found.reverse, rest)
    | .key :: rest => do
      let (key, rest) ← readUnless? [.key, .value, .blockEnd] true true n rest
      let (value, rest) ← readValue? [.key, .value, .blockEnd] true n rest
      readMapping? n ((key, value) :: found) rest
    | _ => none

/-- Reads the value after a key, if there is one. -/
def readValue? (stops : List Token) (indented : Bool) :
    Nat → List Token → Option (Node × List Token)
  | 0, _ => none
  | n + 1, tokens =>
    match tokens with
    | .value :: rest => readUnless? stops indented indented n rest
    | _ => some (missing, tokens)

/-- Reads items of a sequence in brackets; an item with a colon is a mapping. -/
def readList? : Nat → List Node → Bool → List Token → Option (Node × List Token)
  | 0, _, _, _ => none
  | n + 1, found, first, tokens =>
    match tokens with
    | .listEnd :: rest => some (sequence found.reverse, rest)
    | _ => do
      let tokens ← if first then some tokens else match tokens with
        | .comma :: rest => some rest
        | _ => none
      match tokens with
      | .listEnd :: rest => some (sequence found.reverse, rest)
      | .key :: rest =>
        let (key, rest) ← readUnless? [.value, .comma, .listEnd] false false n rest
        let (value, rest) ← readValue? [.comma, .listEnd] false n rest
        readList? n (mapping [(key, value)] :: found) false rest
      | _ =>
        let (item, rest) ← read? false false n tokens
        readList? n (item :: found) false rest

def readObject? : Nat → List (Node × Node) → Bool → List Token → Option (Node × List Token)
  | 0, _, _, _ => none
  | n + 1, found, first, tokens =>
    match tokens with
    | .objectEnd :: rest => some (mapping found.reverse, rest)
    | _ => do
      let tokens ← if first then some tokens else match tokens with
        | .comma :: rest => some rest
        | _ => none
      match tokens with
      | .objectEnd :: rest => some (mapping found.reverse, rest)
      | .key :: rest =>
        let (key, rest) ← readUnless? [.value, .comma, .objectEnd] false false n rest
        let (value, rest) ← readValue? [.comma, .objectEnd] false n rest
        readObject? n ((key, value) :: found) false rest
      | _ =>
        let (key, rest) ← read? false false n tokens
        readObject? n ((key, missing) :: found) false rest

end

def ofTokens? (tokens : List Token) : Option Node := do
  let fuel := 4 * tokens.length + 4
  let body ← match tokens with
    | .directive :: .documentStart :: rest | .documentStart :: rest => some (rest, true)
    | [] | .directive :: _ => none
    | tokens => some (tokens, false)
  let (node, rest) ← match body with
    | ([], _) => some (missing, [])
    | (rest, true) => readUnless? [.directive, .documentStart, .documentEnd] true false fuel rest
    | (rest, false) => read? true false fuel rest
  guard (rest.all (· == .documentEnd))
  return node

def parse? (text : String) : Option Node := (Token.scan? text).bind ofTokens?

end Node

end WeatherRadar.Yaml
