import Engagements.Text

/-!
Places in YAML texts, and the scalars that begin at them: plain ones, quoted ones, and blocks of
lines.
-/
namespace Engagements.Yaml

/-- What follows a place, and where it is. -/
structure Place where
  rest : List Char
  index : Nat
  line : Nat
  column : Nat

def isBlank (c : Char) : Bool := c == ' ' || c == '\t'

def isBreak (c : Char) : Bool := c == '\n' || c == '\r'

def isGap (c : Char) : Bool := isBlank c || isBreak c

/-- Signs with a meaning inside brackets and braces. -/
def isFlow (c : Char) : Bool :=
  c == ',' || c == '[' || c == ']' || c == '\x7b' || c == '\x7d'

namespace Place

def start (text : List Char) : Place := ⟨text, 0, 0, 0⟩

def head? (place : Place) : Option Char := place.rest.head?

/-- Whether the text ends or has white space some characters on. -/
def gapAfter (place : Place) (count : Nat) : Bool := (place.rest.drop count).head?.all isGap

def skip (place : Place) : Place :=
  match place.rest with
  | [] => place
  | c :: rest =>
    if c = '\n' then ⟨rest, place.index + 1, place.line + 1, 0⟩
    else ⟨rest, place.index + 1, place.line, place.column + 1⟩

def skipMany : Nat → Place → Place
  | 0, place => place
  | count + 1, place => skipMany count place.skip

/-- Skips a line break, which may have two characters. -/
def skipBreak (place : Place) : Place :=
  match place.rest with
  | '\r' :: '\n' :: _ => place.skip.skip
  | _ => place.skip

/-- Skips characters of a kind and returns them. -/
def take (isPart : Char → Bool) (place : Place) : List Char × Place :=
  let part := place.rest.takeWhile isPart
  (part, place.skipMany part.length)

def skipLine (place : Place) : Place := (place.take fun c => !isBreak c).2

/-- Whether a line begins here that marks the start or the end of a document. -/
def isDocumentMark (place : Place) : Bool :=
  let mark := place.rest.take 3
  place.column = 0 && (mark = "---".toList || mark = "...".toList) && place.gapAfter 3

end Place

/-- White space between the words of a scalar: blanks on one line, or a number of breaks. -/
structure Space where
  blanks : List Char
  breaks : Nat

namespace Space

/-- What white space leaves in a scalar: one break becomes a blank. -/
def fold (space : Space) : List Char :=
  match space.breaks with
  | 0 => space.blanks
  | 1 => [' ']
  | breaks + 2 => List.replicate (breaks + 1) '\n'

/-- Reads white space after some already read. On further lines no tab may stand before the least
column. -/
def read? (least : Int) : Nat → Space → Place → Option (Space × Place)
  | 0, space, place => some (space, place)
  | fuel + 1, space, place =>
    match place.rest with
    | [] => some (space, place)
    | c :: _ =>
      if isBreak c then read? least fuel ⟨[], space.breaks + 1⟩ place.skipBreak
      else if !isBlank c then some (space, place)
      else if space.breaks = 0 then read? least fuel ⟨space.blanks ++ [c], 0⟩ place.skip
      else if c = '\t' && (place.column : Int) < least then none
      else read? least fuel space place.skip

end Space

/-! ## Plain scalars -/

/-- Whether a colon ends a plain scalar, by what follows it. -/
def endsName (inFlow : Bool) (rest : List Char) : Bool :=
  rest.head?.all fun c => isGap c || (inFlow && isFlow c)

/-- How long the word is that a text begins with. -/
def wordLength (inFlow : Bool) : List Char → Nat
  | [] => 0
  | c :: rest =>
    if isGap c || (c = ':' && endsName inFlow rest) || (inFlow && isFlow c) then 0
    else wordLength inFlow rest + 1

/-- Reads the words of a plain scalar and the white space between them. Tells whether a new line
begins where it ends. -/
def plain? (inFlow : Bool) (least : Int) : Nat → (text : List Char) → Space → Place →
    Option (List Char × Bool × Place)
  | 0, text, space, place => some (text, 0 < space.breaks, place)
  | fuel + 1, text, space, place =>
    if place.isDocumentMark || place.head? = some '#' then some (text, 0 < space.breaks, place)
    else
      let length := wordLength inFlow place.rest
      let (text, space) : List Char × Space :=
        if length = 0 then (text, space)
        else (text ++ space.fold ++ place.rest.take length, ⟨[], 0⟩)
      let place := place.skipMany length
      if !place.head?.any isGap then some (text, 0 < space.breaks, place)
      else
        match Space.read? least (place.rest.length + 1) space place with
        | none => none
        | some (space, place) =>
          if !inFlow && (place.column : Int) < least then some (text, 0 < space.breaks, place)
          else plain? inFlow least fuel text space place

/-! ## Quoted scalars -/

def escaped? : Char → Option Char
  | '0' => some (Char.ofNat 0)
  | 'a' => some (Char.ofNat 7)
  | 'b' => some (Char.ofNat 8)
  | 't' | '\t' => some '\t'
  | 'n' => some '\n'
  | 'v' => some (Char.ofNat 11)
  | 'f' => some (Char.ofNat 12)
  | 'r' => some '\r'
  | 'e' => some (Char.ofNat 27)
  | ' ' => some ' '
  | '"' => some '"'
  | '\'' => some '\''
  | '\\' => some '\\'
  | 'N' => some '\u0085'
  | '_' => some '\u00A0'
  | 'L' => some '\u2028'
  | 'P' => some '\u2029'
  | _ => none

/-- How many hexadecimal digits follow a letter after a backslash. -/
def hexDigits? : Char → Option Nat
  | 'x' => some 2
  | 'u' => some 4
  | 'U' => some 8
  | _ => none

/-- What follows a backslash that does not end its line. -/
def escape? (place : Place) : Option (Char × Place) :=
  match place.rest with
  | [] => none
  | c :: rest =>
    match hexDigits? c with
    | some count =>
      if (rest.take count).length = count then
        (Text.hexChar? (rest.take count)).map (·, place.skipMany (count + 1))
      else none
    | none => (escaped? c).map (·, place.skip)

/-- Reads a scalar up to its closing mark. Single marks escape each other, and inside double ones
there are escapes; a backslash at the end of a line joins it to the next one. -/
def quoted? (single : Bool) : Nat → (text : List Char) → Place → Option (List Char × Place)
  | 0, _, _ => none
  | fuel + 1, text, place =>
    match place.rest with
    | [] => none
    | c :: rest =>
      if place.isDocumentMark then none
      else if isGap c then
        match Space.read? 0 (rest.length + 2) ⟨[], 0⟩ place with
        | some (space, place) => quoted? single fuel (text ++ space.fold) place
        | none => none
      else if single then
        if c ≠ '\'' then quoted? single fuel (text ++ [c]) place.skip
        else if rest.head? = some '\'' then quoted? single fuel (text ++ [c]) place.skip.skip
        else some (text, place.skip)
      else if c = '"' then some (text, place.skip)
      else if c ≠ '\\' then quoted? single fuel (text ++ [c]) place.skip
      else if rest.head?.any isBreak then
        match Space.read? 0 (rest.length + 2) ⟨[], 1⟩ place.skip.skipBreak with
        | some (space, place) =>
          quoted? single fuel (text ++ List.replicate (space.breaks - 1) '\n') place
        | none => none
      else
        match escape? place.skip with
        | some (value, place) => quoted? single fuel (text ++ [value]) place
        | none => none

/-! ## Blocks of lines -/

/-- What becomes of the breaks at the end of a block. -/
inductive Ending where
  | strip
  | clip
  | keep
  deriving DecidableEq

/-- Reads the signs after the mark of a block: how it ends, and how far it is indented. -/
def blockHeader? (place : Place) : Option (Ending × Nat × Place) :=
  let ending? (c : Char) : Option Ending :=
    if c = '+' then some .keep else if c = '-' then some .strip else none
  let indent? (c : Char) : Option Nat := if c.isDigit then some (Text.digitValue c) else none
  let read : Ending × Option Nat × Place :=
    match place.rest with
    | c :: rest =>
      match ending? c, indent? c with
      | some ending, _ =>
        match rest.head?.bind indent? with
        | some indent => (ending, some indent, place.skip.skip)
        | none => (ending, none, place.skip)
      | none, some indent =>
        match rest.head?.bind ending? with
        | some ending => (ending, some indent, place.skip.skip)
        | none => (.clip, some indent, place.skip)
      | none, none => (.clip, none, place)
    | [] => (.clip, none, place)
  match read with
  | (_, some 0, _) => none
  | (ending, indent, place) => some (ending, indent.getD 0, place)

/-- Skips the spaces and breaks before a line of a block. The first line tells how far the block is
indented if nothing else does. -/
def blockBreaks? (outer : Int) : Nat → (indent most breaks : Nat) → Place →
    Option (Nat × Nat × Place)
  | 0, _, _, _, _ => none
  | fuel + 1, indent, most, breaks, place =>
    let spaces := (place.rest.takeWhile (· == ' ')).length
    let place := place.skipMany (if indent = 0 then spaces else min spaces (indent - place.column))
    let most := max most place.column
    if (indent = 0 || place.column < indent) && place.head? = some '\t' then none
    else if place.head?.any isBreak then
      blockBreaks? outer fuel indent most (breaks + 1) place.skipBreak
    else some (if indent = 0 then max most (max (outer + 1).toNat 1) else indent, breaks, place)

/-- What has been read of a block. -/
structure Block where
  text : List Char
  /-- Whether a break waits for the next line. -/
  pending : Bool
  /-- The breaks of blank lines that wait for the next line. -/
  blank : Nat
  /-- Whether the last line begins with a blank. -/
  blankFirst : Bool

/-- Adds a line. In a folded block a break between lines that begin with no blank becomes a blank,
unless blank lines stand between them. -/
def Block.add (block : Block) (folded : Bool) (line : List Char) : Block :=
  let blankFirst := line.head?.any isBlank
  let join :=
    if !block.pending then []
    else if folded && !block.blankFirst && !blankFirst then if block.blank = 0 then [' '] else []
    else ['\n']
  ⟨block.text ++ join ++ List.replicate block.blank '\n' ++ line, false, 0, blankFirst⟩

/-- Reads lines as long as they are indented as the first one. -/
def blockLines? (folded : Bool) (outer : Int) (indent : Nat) : Nat → Block → Place →
    Option (Block × Place)
  | 0, _, _ => none
  | fuel + 1, block, place =>
    if place.column ≠ indent || place.rest = [] then some (block, place)
    else
      let (line, place) := place.take fun c => !isBreak c
      let block := block.add folded line
      if place.rest = [] then some (block, place)
      else
        match blockBreaks? outer (place.rest.length + 1) indent 0 0 place.skipBreak with
        | some (_, breaks, place) =>
          blockLines? folded outer indent fuel { block with pending := true, blank := breaks } place
        | none => none

/-- Reads a block after its mark. -/
def block? (folded : Bool) (outer : Int) (place : Place) : Option (List Char × Place) :=
  match blockHeader? place with
  | none => none
  | some (ending, indent, place) =>
    let place := (place.take isBlank).2
    let place := if place.head? = some '#' then place.skipLine else place
    if !place.head?.all isBreak then none
    else
      let place := if place.rest = [] then place else place.skipBreak
      let indent := if indent = 0 then 0 else indent + outer.toNat
      let fuel := place.rest.length + 1
      match blockBreaks? outer fuel indent 0 0 place with
      | none => none
      | some (indent, breaks, place) =>
        match blockLines? folded outer indent fuel ⟨[], false, breaks, false⟩ place with
        | none => none
        | some (block, place) =>
          let last := if ending ≠ .strip && block.pending then ['\n'] else []
          let blank := if ending = .keep then List.replicate block.blank '\n' else []
          some (block.text ++ last ++ blank, place)

end Engagements.Yaml
