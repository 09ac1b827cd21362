import Engagements.Regex.Token
import Engagements.Unicode.Current

/-!
Reading of patterns. Groups and brackets that are still open form stacks; each step reads one
construct and returns the rest of the pattern.
-/
namespace Engagements.Regex

open Unicode (CharSet)

/-- A finished part of a pattern with the depth of its nesting; a change of flags is a part that
nothing can repeat. -/
structure Piece where
  regex : Regex
  depth : Nat
  repeatable : Bool

namespace Piece

def plain (regex : Regex) : Piece := ⟨regex, 0, true⟩

def deepest (pieces : List Piece) : Nat := pieces.foldl (fun depth piece => max depth piece.depth) 0

/-- Pieces in a row, given last first. -/
def sequenceOf : List Piece → Piece
  | [] => plain .empty
  | [only] => only
  | last :: earlier =>
    ⟨earlier.foldl (fun after piece => .sequence piece.regex after) last.regex,
     deepest (last :: earlier) + 1, true⟩

/-- Alternatives, given last first. -/
def eitherOf : List Piece → Piece
  | [] => plain .empty
  | [only] => only
  | last :: earlier =>
    ⟨earlier.foldl (fun after piece => .either piece.regex after) last.regex,
     deepest (last :: earlier) + 1, true⟩

end Piece

/-- An open group: its number if it captures, and the flags and pieces around it. -/
structure Group where
  number : Option Nat
  flags : Flags
  alternatives : List Piece
  pieces : List Piece

inductive SetOperation where
  | intersection
  | difference
  | symmetricDifference

def SetOperation.apply : SetOperation → CharSet → CharSet → CharSet
  | intersection, left, right => .intersection left right
  | difference, left, right => .difference left right
  | symmetricDifference, left, right => .symmetricDifference left right

/-- A set inside a bracket, with the depth of its nesting. -/
structure Item where
  set : CharSet
  depth : Nat

/-- Items side by side. -/
def Item.unionOf (items : List Item) : Item :=
  ⟨.unionOf (items.map Item.set),
   items.foldl (fun depth item => max depth item.depth) 0 + if 1 < items.length then 1 else 0⟩

/-- An open bracket: what an operation waits for on its left, and the items read since. -/
structure Bracket where
  negated : Bool
  left : Option (SetOperation × Item)
  items : List Item

structure Reader where
  groups : List Group
  alternatives : List Piece
  pieces : List Piece
  flags : Flags
  names : List (List Char)
  captures : Nat
  brackets : List Bracket

namespace Reader

def start (caseless : Bool) : Reader :=
  ⟨[], [], [], ⟨caseless, false, false, false, true, false⟩, [], 0, []⟩

def push (reader : Reader) (piece : Piece) : Reader :=
  { reader with pieces := piece :: reader.pieces }

def literal (flags : Flags) (c : Char) : Regex :=
  if flags.caseless then
    if flags.unicode then .folded (Unicode.foldCase c)
    else .one (CharSet.single c).closeAsciiCase
  else .one (.single c)

def partRegex (flags : Flags) : Part → Regex
  | .literal c => literal flags c
  | .set set => .one set
  | .look condition => .look condition

def pushPart (reader : Reader) (part : Part) : Reader :=
  reader.push (Piece.plain (partRegex reader.flags part))

/-- The dot stands for any character but a line break, or for any character at all. -/
def dot? (flags : Flags) : Option CharSet :=
  if !flags.unicode then none
  else if flags.dotAll then some .all
  else if flags.anyBreak then some (.complement (.ofChars ['\n', '\r']))
  else some (.complement (.single '\n'))

def startLook (flags : Flags) : Look :=
  if flags.multiline then if flags.anyBreak then .lineStartAnyBreak else .lineStart
  else .textStart

def endLook (flags : Flags) : Look :=
  if flags.multiline then if flags.anyBreak then .lineEndAnyBreak else .lineEnd
  else .textEnd

def repeat? (reader : Reader) (least : Nat) (most : Option Nat) : Option Reader :=
  match reader.pieces with
  | [] => none
  | piece :: pieces =>
    if piece.repeatable then
      some { reader with
        pieces := ⟨.repeated piece.regex least most, piece.depth + 1, true⟩ :: pieces }
    else none

/-- A question mark after a repetition asks for the shortest match. -/
def dropLazy : List Char → List Char
  | '?' :: rest => rest
  | rest => rest

def nextAlternative (reader : Reader) : Reader :=
  { reader with
    alternatives := Piece.sequenceOf reader.pieces :: reader.alternatives, pieces := [] }

/-- The expression read so far at the innermost level. -/
def body (reader : Reader) : Piece :=
  Piece.eitherOf (Piece.sequenceOf reader.pieces :: reader.alternatives)

def openGroup (reader : Reader) (number : Option Nat) (flags : Flags) : Reader :=
  { reader with
    groups := ⟨number, reader.flags, reader.alternatives, reader.pieces⟩ :: reader.groups
    alternatives := []
    pieces := []
    flags := flags }

/-- Opens a group that captures and has the next number. -/
def openCapture (reader : Reader) : Reader :=
  { reader.openGroup (some (reader.captures + 1)) reader.flags with
    captures := reader.captures + 1 }

def closeGroup? (reader : Reader) : Option Reader :=
  match reader.groups with
  | [] => none
  | outer :: groups =>
    let body := reader.body
    some { reader with
      groups := groups
      alternatives := outer.alternatives
      pieces := ⟨.group outer.number body.regex, body.depth + 1, true⟩ :: outer.pieces
      flags := outer.flags }

def isNameStart (c : Char) : Bool := c == '_' || Unicode.Current.isAlphabetic c

def isNameChar (c : Char) : Bool :=
  c == '_' || c == '.' || c == '[' || c == ']' || Unicode.Current.isAlphanumeric c

/-- A group name is new, not empty and ends at a closing angle. -/
def openNamed? (reader : Reader) (cs : List Char) : Option (Reader × List Char) :=
  match cs with
  | [] => none
  | first :: _ =>
    let name := cs.takeWhile isNameChar
    match cs.dropWhile isNameChar with
    | '>' :: rest =>
      if isNameStart first && !reader.names.contains name then
        some ({ reader.openCapture with names := name :: reader.names }, rest)
      else none
    | _ => none

/-- Flags up to a colon or a closing parenthesis; each may be named once, and one minus sign
switches the flags after it off. -/
def readFlags? (flags : Flags) (on : Bool) (seen : List Char) :
    List Char → Option (Flags × List Char × List Char)
  | [] => none
  | c :: rest =>
    if c = ':' || c = ')' then
      if seen.head? = some '-' then none else some (flags, seen, c :: rest)
    else if seen.contains c then none
    else if c = '-' then readFlags? flags false (c :: seen) rest
    else
      match flags.switch? on c with
      | some flags => readFlags? flags on (c :: seen) rest
      | none => none

def openFlagged? (reader : Reader) (cs : List Char) : Option (Reader × List Char) :=
  match readFlags? reader.flags true [] cs with
  | some (flags, _, ':' :: rest) => some (reader.openGroup none flags, rest)
  | some (flags, seen, ')' :: rest) =>
    if seen = [] then none
    else some ({ reader.push ⟨.empty, 0, false⟩ with flags := flags }, rest)
  | _ => none

/-- What stands after an opening parenthesis. Nothing looks around. -/
def open? (reader : Reader) (cs : List Char) : Option (Reader × List Char) :=
  match cs with
  | '?' :: 'P' :: '<' :: rest => openNamed? reader rest
  | '?' :: '<' :: rest =>
    match rest with
    | '=' :: _ | '!' :: _ => none
    | rest => openNamed? reader rest
  | '?' :: rest => openFlagged? reader rest
  | rest => some (reader.openCapture, rest)

/-- How many minus signs a text begins with, and what follows them. -/
def leadingMinus (spaced : Bool) : List Char → Nat × List Char
  | [] => (0, [])
  | c :: rest =>
    if c = '-' then
      let (count, after) := leadingMinus spaced (skip spaced rest)
      (count + 1, after)
    else (0, c :: rest)
termination_by cs => cs.length
decreasing_by exact Nat.lt_succ_of_le (length_skip_le spaced rest)

/-- What stands after an opening bracket: a negation, minus signs, or a closing bracket that is
an item because it comes first. -/
def openBracket? (reader : Reader) (cs : List Char) : Option (Reader × List Char) :=
  let spaced := reader.flags.spaced
  let cs := skip spaced cs
  let negated := cs.head? = some '^'
  let cs := if negated then skip spaced (cs.drop 1) else cs
  let (count, cs) := leadingMinus spaced cs
  let (items, cs) :=
    if count = 0 && cs.head? = some ']' then ([⟨.single ']', 0⟩], skip spaced (cs.drop 1))
    else (List.replicate count ⟨.single '-', 0⟩, cs)
  if cs = [] then none
  else some ({ reader with brackets := ⟨negated, none, items⟩ :: reader.brackets }, cs)

def inBracket? (reader : Reader) (change : Bracket → Bracket) : Option Reader :=
  match reader.brackets with
  | [] => none
  | bracket :: brackets => some { reader with brackets := change bracket :: brackets }

def addItem? (reader : Reader) (set : CharSet) : Option Reader :=
  reader.inBracket? fun bracket => { bracket with items := ⟨set, 0⟩ :: bracket.items }

/-- All that stands in a bracket so far. -/
def bracketItem (flags : Flags) (bracket : Bracket) : Item :=
  let items := Item.unionOf bracket.items
  match bracket.left with
  | none => items
  | some (operation, left) =>
    ⟨operation.apply (closeCase flags left.set) (closeCase flags items.set),
     max left.depth items.depth + 1⟩

/-- What an operation has on its left is all that stands in the bracket so far. -/
def operate? (reader : Reader) (operation : SetOperation) : Option Reader :=
  reader.inBracket? fun bracket =>
    { bracket with left := some (operation, bracketItem reader.flags bracket), items := [] }

/-- A closed bracket is an item of the bracket around it, or a part of the pattern. Without
Unicode it has no complement. -/
def closeBracket? (reader : Reader) : Option Reader :=
  match reader.brackets with
  | [] => none
  | bracket :: brackets =>
    if bracket.negated && !reader.flags.unicode then none
    else
      let item := bracketItem reader.flags bracket
      let set := negateIf bracket.negated (closeCase reader.flags item.set)
      match brackets with
      | [] => some ({ reader with brackets := [] }.push ⟨.one set, item.depth + 1, true⟩)
      | outer :: others =>
        some { reader with
          brackets := { outer with items := ⟨set, item.depth + 1⟩ :: outer.items } :: others }

/-- A set such as `[:^digit:]` inside a bracket, after its opening bracket, and whether it is
negated. -/
def namedSet? (cs : List Char) : Option (CharSet × Bool × List Char) :=
  match cs with
  | ':' :: rest =>
    let negated := rest.head? = some '^'
    match splitAt? [':'] (if negated then rest.drop 1 else rest) with
    | some (name, ']' :: rest) => (asciiClass? name).map (·, negated, rest)
    | _ => none
  | _ => none

/-- A character or set inside a bracket. -/
def bracketPart? (flags : Flags) : List Char → Option (Part × List Char)
  | [] => none
  | '\\' :: rest => escape? flags rest
  | c :: rest => some (.literal c, rest)

/-- The next character that tells whether a minus sign begins the second half of a range. Where
white space is skipped, so is the sign of a comment, and the comment itself is looked at. -/
def peek (spaced : Bool) (cs : List Char) : Option Char :=
  if spaced then
    let found :=
      match Text.skipBlank cs with
      | '#' :: rest => (Text.skipBlank rest).head?
      | rest => rest.head?
    found <|> cs.head?
  else cs.head?

def startsRange (spaced : Bool) : List Char → Bool
  | '-' :: rest => peek spaced rest != some ']' && peek spaced rest != some '-'
  | _ => false

/-- An end of a range; without Unicode it is ASCII. -/
def rangeEnd? (flags : Flags) : Part → Option Char
  | .literal c => if flags.unicode || c.toNat < 128 then some c else none
  | _ => none

/-- A range, or a single item; conditions on places are no items. -/
def bracketSet? (flags : Flags) (cs : List Char) : Option (CharSet × List Char) :=
  match bracketPart? flags cs with
  | none => none
  | some (part, rest) =>
    let rest := skip flags.spaced rest
    if startsRange flags.spaced rest then
      match bracketPart? flags (skip flags.spaced (rest.drop 1)) with
      | none => none
      | some (lastPart, rest) =>
        match rangeEnd? flags part, rangeEnd? flags lastPart with
        | some first, some last =>
          if first ≤ last then some (.range first.toNat last.toNat, rest) else none
        | _, _ => none
    else
      match part with
      | .set set => some (set, rest)
      | part => (rangeEnd? flags part).map fun c => (.single c, rest)

def operation? (c : Char) (cs : List Char) : Option SetOperation :=
  if cs.head? = some c then
    match c with
    | '&' => some .intersection
    | '-' => some .difference
    | '~' => some .symmetricDifference
    | _ => none
  else none

def stepBracket? (reader : Reader) (c : Char) (rest : List Char) :
    Option (Reader × List Char) :=
  if c = ']' then reader.closeBracket?.map (·, rest)
  else if c = '[' then
    match namedSet? rest with
    | some (set, negated, rest) =>
      if negated && !reader.flags.unicode then none
      else (reader.addItem? (negateIf negated (closeCase reader.flags set))).map (·, rest)
    | none => reader.openBracket? rest
  else
    match operation? c rest with
    | some operation => (reader.operate? operation).map (·, rest.drop 1)
    | none =>
      match bracketSet? reader.flags (c :: rest) with
      | some (set, rest) => (reader.addItem? set).map (·, rest)
      | none => none

def stepPattern? (reader : Reader) (c : Char) (rest : List Char) :
    Option (Reader × List Char) :=
  let spaced := reader.flags.spaced
  match c with
  | '(' => reader.open? (skip spaced rest)
  | ')' => reader.closeGroup?.map (·, rest)
  | '|' => some (reader.nextAlternative, rest)
  | '[' => reader.openBracket? rest
  | '?' => (reader.repeat? 0 (some 1)).map (·, dropLazy rest)
  | '*' => (reader.repeat? 0 none).map (·, dropLazy rest)
  | '+' => (reader.repeat? 1 none).map (·, dropLazy rest)
  | '\x7b' =>
    match counts? spaced rest with
    | some (least, most, rest) =>
      (reader.repeat? least most).map (·, dropLazy (skip spaced rest))
    | none => none
  | '.' => (dot? reader.flags).map fun set => (reader.pushPart (.set set), rest)
  | '^' => some (reader.pushPart (.look (startLook reader.flags)), rest)
  | '$' => some (reader.pushPart (.look (endLook reader.flags)), rest)
  | '\\' => (escape? reader.flags rest).map fun (part, rest) => (reader.pushPart part, rest)
  | c => some (reader.pushPart (.literal c), rest)

def step? (reader : Reader) (c : Char) (rest : List Char) : Option (Reader × List Char) :=
  if reader.brackets.isEmpty then reader.stepPattern? c rest else reader.stepBracket? c rest

/-- Reads a pattern to its end in at most as many steps as the fuel. -/
def run : Nat → Reader → List Char → Option Reader
  | 0, _, _ => none
  | fuel + 1, reader, cs =>
    match skip reader.flags.spaced cs with
    | [] => some reader
    | c :: rest =>
      match reader.step? c rest with
      | none => none
      | some (next, after) => run fuel next after

end Reader

def depthLimit : Nat := 250

/-- The expression of a pattern: none if it is malformed or nested too deep. Each step reads a
character at least. -/
def parse? (caseless : Bool) (pattern : String) : Option Regex :=
  let cs := pattern.toList
  match Reader.run (cs.length + 1) (Reader.start caseless) cs with
  | none => none
  | some reader =>
    let body := reader.body
    if reader.groups.isEmpty && reader.brackets.isEmpty && body.depth ≤ depthLimit then
      some body.regex
    else none

end Engagements.Regex
