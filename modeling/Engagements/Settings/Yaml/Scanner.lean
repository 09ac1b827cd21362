import Engagements.Settings.Yaml.Scalar

/-!
Tokens of YAML texts. Indentation becomes tokens of its own, and what turns out to be a name gets
its token afterwards, before the place where it began.
-/
namespace Engagements.Yaml

inductive Token where
  | directive
  | documentStart
  | documentEnd
  | sequenceStart
  | mappingStart
  | blockEnd
  | flowSequenceStart
  | flowSequenceEnd
  | flowMappingStart
  | flowMappingEnd
  | dash
  | comma
  | key
  | value
  | alias (name : String)
  | anchor (name : String)
  | tag (standard : Bool) (name : String)
  | scalar (isPlain : Bool) (text : String)
  deriving DecidableEq, Repr

/-- Where a name may have begun: before which token and at which place. -/
structure PossibleKey where
  number : Nat
  line : Nat
  column : Nat
  index : Nat
  required : Bool

/-- The tokens read so far, last first, and what may come next. There is one place for a possible
name for each bracket that is open, and one outside of all. -/
structure Scanner where
  place : Place
  tokens : List Token
  keyAllowed : Bool
  keys : List (Option PossibleKey)
  indent : Int
  indents : List Int
  /-- Where a value may follow a quoted name without a blank. -/
  adjacent : Nat

namespace Scanner

def start (text : List Char) : Scanner := ⟨Place.start text, [], true, [none], -1, [], 0⟩

def inFlow (scanner : Scanner) : Bool := 1 < scanner.keys.length

def push (scanner : Scanner) (token : Token) : Scanner :=
  { scanner with tokens := token :: scanner.tokens }

/-- Puts tokens before the one with a number. -/
def insert (scanner : Scanner) (number : Nat) (tokens : List Token) : Scanner :=
  let after := scanner.tokens.length - number
  { scanner with
    tokens := scanner.tokens.take after ++ tokens.reverse ++ scanner.tokens.drop after }

/-- Ends the blocks that are indented further than a column. -/
def unroll (scanner : Scanner) (column : Int) : Scanner :=
  if scanner.inFlow then scanner
  else
    let closed := (scanner.indent :: scanner.indents).takeWhile (column < ·)
    match (scanner.indent :: scanner.indents).drop closed.length with
    | [] => scanner
    | indent :: indents =>
      { scanner with
        tokens := List.replicate closed.length .blockEnd ++ scanner.tokens
        indent := indent
        indents := indents }

/-- Whether a block begins at a column. -/
def beginsBlock (scanner : Scanner) (column : Nat) : Bool :=
  !scanner.inFlow && scanner.indent < column

def indentTo (scanner : Scanner) (column : Nat) : Scanner :=
  { scanner with indent := column, indents := scanner.indent :: scanner.indents }

/-- Begins a block at the place of the scanner if it is indented further. -/
def roll (scanner : Scanner) (token : Token) : Scanner :=
  let column := scanner.place.column
  if scanner.beginsBlock column then (scanner.indentTo column).push token else scanner

/-- A name ends on its line and is not too long. -/
def dropStaleKeys? (scanner : Scanner) : Option Scanner :=
  let isStale (key : PossibleKey) : Bool :=
    key.line < scanner.place.line || key.index + 1024 < scanner.place.index
  if scanner.keys.any fun key => key.any fun key => isStale key && key.required then none
  else some { scanner with keys := scanner.keys.map (·.filter (!isStale ·)) }

/-- There is no name at the innermost level, unless one is required. -/
def dropKey? (scanner : Scanner) : Option Scanner :=
  match scanner.keys with
  | [] => some scanner
  | key :: keys =>
    if key.any (·.required) then none else some { scanner with keys := none :: keys }

/-- Remembers that a name may begin here. -/
def saveKey? (scanner : Scanner) : Option Scanner :=
  if scanner.keyAllowed then
    scanner.dropKey?.map fun scanner =>
      let place := scanner.place
      let required := scanner.inFlow && scanner.indent = place.column
      let key : PossibleKey :=
        ⟨scanner.tokens.length, place.line, place.column, place.index, required⟩
      { scanner with keys := some key :: scanner.keys.drop 1 }
  else some scanner

def allow (scanner : Scanner) (allowed : Bool) : Scanner := { scanner with keyAllowed := allowed }

def skip (scanner : Scanner) (count : Nat) : Scanner :=
  { scanner with place := scanner.place.skipMany count }

/-- Skips white space and comments before the next token. -/
def skipSpace : Nat → Scanner → Scanner
  | 0, scanner => scanner
  | fuel + 1, scanner =>
    match scanner.place.head? with
    | none => scanner
    | some c =>
      if c = ' ' || (c = '\t' && (scanner.inFlow || !scanner.keyAllowed)) then
        skipSpace fuel (scanner.skip 1)
      else if isBreak c then
        skipSpace fuel
          { scanner with
            place := scanner.place.skipBreak, keyAllowed := scanner.keyAllowed || !scanner.inFlow }
      else if c = '#' then skipSpace fuel { scanner with place := scanner.place.skipLine }
      else scanner

/-! ## Tokens -/

/-- Ends all blocks before a token that belongs to none. -/
def outermost? (scanner : Scanner) : Option Scanner :=
  ((scanner.unroll (-1)).dropKey?).map (·.allow false)

def directive? (scanner : Scanner) : Option Scanner :=
  scanner.outermost?.map fun scanner =>
    { scanner with place := scanner.place.skipLine }.push .directive

def documentMark? (scanner : Scanner) (token : Token) : Option Scanner :=
  scanner.outermost?.map fun scanner => (scanner.skip 3).push token

def openFlow? (scanner : Scanner) (token : Token) : Option Scanner :=
  scanner.saveKey?.map fun scanner =>
    { scanner with keys := none :: scanner.keys, keyAllowed := true }.skip 1 |>.push token

def closeFlow? (scanner : Scanner) (token : Token) : Option Scanner :=
  scanner.dropKey?.map fun scanner =>
    { scanner with
      keys := if scanner.inFlow then scanner.keys.drop 1 else scanner.keys
      keyAllowed := false }.skip 1 |>.push token

def comma? (scanner : Scanner) : Option Scanner :=
  scanner.dropKey?.map fun scanner => ((scanner.allow true).skip 1).push .comma

/-- An item of a sequence begins where a name may begin, outside of brackets. -/
def dash? (scanner : Scanner) : Option Scanner :=
  if scanner.inFlow || !scanner.keyAllowed then none
  else (scanner.roll .sequenceStart).dropKey?.map fun scanner =>
    ((scanner.allow true).skip 1).push .dash

/-- A name of any form after a question mark. -/
def key? (scanner : Scanner) : Option Scanner :=
  if !scanner.inFlow && !scanner.keyAllowed then none
  else (scanner.roll .mappingStart).dropKey?.map fun scanner =>
    ((scanner.allow !scanner.inFlow).skip 1).push .key

/-- What stands before a colon is a name, and may begin a mapping. -/
def value? (scanner : Scanner) : Option Scanner :=
  match scanner.keys with
  | some key :: keys =>
    let scanner := { scanner with keys := none :: keys, keyAllowed := false }
    let scanner :=
      if scanner.beginsBlock key.column then
        (scanner.indentTo key.column).insert key.number [.mappingStart, .key]
      else scanner.insert key.number [.key]
    some ((scanner.skip 1).push .value)
  | _ =>
    if !scanner.inFlow && !scanner.keyAllowed then none
    else
      let scanner := (scanner.roll .mappingStart).allow !scanner.inFlow
      some ((scanner.skip 1).push .value)

def isNameChar (c : Char) : Bool := c.isAlphanum || c == '_' || c == '-'

/-- The name after an anchor or alias sign. -/
def name? (scanner : Scanner) (token : String → Token) : Option Scanner :=
  scanner.saveKey?.bind fun scanner =>
    let (name, place) := scanner.place.skip.take isNameChar
    let ends := place.head?.all fun c => isGap c || "?:,]\x7d%@\x60".toList.contains c
    if name.isEmpty || !ends then none
    else some ({ scanner with place := place, keyAllowed := false }.push
      (token (String.ofList name)))

def isTagChar (c : Char) : Bool := isNameChar c || ";/?:@&=+$,.!~*'()[]%".toList.contains c

/-- A tag; two signs stand before the standard ones. -/
def tag? (scanner : Scanner) : Option Scanner :=
  scanner.saveKey?.bind fun scanner =>
    let read :=
      match scanner.place.rest with
      | '!' :: '<' :: _ =>
        let (name, place) := (scanner.place.skipMany 2).take isTagChar
        if name.isEmpty || place.head? ≠ some '>' then none
        else some (false, name, place.skip)
      | '!' :: '!' :: _ =>
        let (name, place) := (scanner.place.skipMany 2).take isTagChar
        if name.isEmpty then none else some (true, name, place)
      | _ =>
        let (name, place) := scanner.place.skip.take isTagChar
        some (false, name, place)
    match read with
    | some (standard, name, place) =>
      if place.gapAfter 0 then
        some ({ scanner with place := place, keyAllowed := false }.push
          (.tag standard (String.ofList name)))
      else none
    | none => none

def block? (scanner : Scanner) (folded : Bool) : Option Scanner :=
  scanner.saveKey?.bind fun scanner =>
    (Yaml.block? folded scanner.indent scanner.place.skip).map fun (text, place) =>
      { scanner with place := place, keyAllowed := true }.push (.scalar false (String.ofList text))

def quoted? (scanner : Scanner) (single : Bool) : Option Scanner :=
  scanner.saveKey?.bind fun scanner =>
    (Yaml.quoted? single (scanner.place.rest.length + 1) [] scanner.place.skip).map
      fun (text, place) =>
        { scanner with place := place, keyAllowed := false, adjacent := place.index }.push
          (.scalar false (String.ofList text))

def plain? (scanner : Scanner) : Option Scanner :=
  scanner.saveKey?.bind fun scanner =>
    (Yaml.plain? scanner.inFlow (scanner.indent + 1) (scanner.place.rest.length + 1) [] ⟨[], 0⟩
      scanner.place).map fun (text, newLine, place) =>
        { scanner with place := place, keyAllowed := newLine }.push
          (.scalar true (String.ofList text))

/-- Reads the token that begins with a character, outside of document marks and directives. -/
def token? (scanner : Scanner) (c : Char) : Option Scanner :=
  let place := scanner.place
  let gap := place.gapAfter 1
  if c = '[' then scanner.openFlow? .flowSequenceStart
  else if c = '\x7b' then scanner.openFlow? .flowMappingStart
  else if c = ']' then scanner.closeFlow? .flowSequenceEnd
  else if c = '\x7d' then scanner.closeFlow? .flowMappingEnd
  else if c = ',' then scanner.comma?
  else if c = '-' && gap then scanner.dash?
  else if c = '?' && gap then scanner.key?
  else if c = ':' && (gap || (scanner.inFlow &&
      ((place.rest.drop 1).head?.any isFlow || place.index = scanner.adjacent))) then
    scanner.value?
  else if c = '*' then scanner.name? .alias
  else if c = '&' then scanner.name? .anchor
  else if c = '!' then scanner.tag?
  else if c = '|' && !scanner.inFlow then scanner.block? false
  else if c = '>' && !scanner.inFlow then scanner.block? true
  else if c = '\'' then scanner.quoted? true
  else if c = '"' then scanner.quoted? false
  else if c = '%' || c = '@' || c = '\x60' then none
  else scanner.plain?

/-- Reads the next token after the white space before it. -/
def step? (scanner : Scanner) (c : Char) : Option Scanner :=
  match scanner.dropStaleKeys? with
  | none => none
  | some scanner =>
    let scanner := scanner.unroll scanner.place.column
    let place := scanner.place
    if place.column = 0 && c = '%' then scanner.directive?
    else if place.isDocumentMark then
      scanner.documentMark? (if c = '-' then .documentStart else .documentEnd)
    else scanner.token? c

/-- The tokens of a text shorter than the fuel. -/
def run? : Nat → Scanner → Option (List Token)
  | 0, _ => none
  | fuel + 1, scanner =>
    let scanner := scanner.skipSpace (scanner.place.rest.length + 1)
    match scanner.place.head? with
    | some c => (scanner.step? c).bind (run? fuel)
    | none =>
      (scanner.dropStaleKeys?.bind outermost?).map fun scanner => scanner.tokens.reverse

end Scanner

/-- The tokens of a text up to its first null character. -/
def tokens? (text : String) : Option (List Token) :=
  let cs := text.toList.takeWhile (· ≠ Char.ofNat 0)
  Scanner.run? (cs.length + 1) (Scanner.start cs)

end Engagements.Yaml
