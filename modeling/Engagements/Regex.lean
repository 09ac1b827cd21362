import Engagements.Unicode.Folding
import Engagements.Unicode.Property

/-!
Regular expressions over characters, and the search for a match anywhere in a text. The search
keeps a row of flags, one for each place between characters, and an expression takes the places
where a match may start to the places where it may end.
-/
namespace Engagements

/-- A place between characters, with the characters around it. -/
structure Gap where
  before : Option Char
  after : Option Char

/-- Conditions on a place in a text. Those on words tell whether characters beyond ASCII can belong
to a word. -/
inductive Look where
  | textStart
  | textEnd
  | lineStart
  | lineEnd
  | lineStartAnyBreak
  | lineEndAnyBreak
  | wordBoundary (unicode : Bool)
  | noWordBoundary (unicode : Bool)
  | wordStart (unicode : Bool)
  | wordEnd (unicode : Bool)
  | noWordBefore (unicode : Bool)
  | noWordAfter (unicode : Bool)
  deriving DecidableEq, Repr

namespace Look

def isWord (unicode : Bool) (c : Char) : Bool :=
  if unicode then Unicode.Property.isWord c else Unicode.Property.isAsciiWord c

def wordBefore (unicode : Bool) (gap : Gap) : Bool := gap.before.any (isWord unicode)

def wordAfter (unicode : Bool) (gap : Gap) : Bool := gap.after.any (isWord unicode)

def holds (look : Look) (gap : Gap) : Bool :=
  match look with
  | textStart => gap.before.isNone
  | textEnd => gap.after.isNone
  | lineStart => gap.before.isNone || gap.before == some '\n'
  | lineEnd => gap.after.isNone || gap.after == some '\n'
  | lineStartAnyBreak =>
    gap.before.isNone || gap.before == some '\n' ||
      (gap.before == some '\r' && gap.after != some '\n')
  | lineEndAnyBreak =>
    gap.after.isNone || gap.after == some '\r' ||
      (gap.after == some '\n' && gap.before != some '\r')
  | wordBoundary unicode => wordBefore unicode gap != wordAfter unicode gap
  | noWordBoundary unicode => wordBefore unicode gap == wordAfter unicode gap
  | wordStart unicode => !wordBefore unicode gap && wordAfter unicode gap
  | wordEnd unicode => wordBefore unicode gap && !wordAfter unicode gap
  | noWordBefore unicode => !wordBefore unicode gap
  | noWordAfter unicode => !wordAfter unicode gap

end Look

/-- Regular expressions. One character is of a set, or is folded to a given one; a group that
captures has a number. -/
inductive Regex where
  | empty
  | one (set : Unicode.CharSet)
  | folded (key : Char)
  | look (look : Look)
  | group (number : Option Nat) (body : Regex)
  | sequence (first second : Regex)
  | either (left right : Regex)
  | repeated (body : Regex) (least : Nat) (most : Option Nat)

namespace Regex

/-- A flag for each place of a text. -/
abbrev Row := List Bool

def gapsAfter (before : Option Char) : List Char → List Gap
  | [] => [⟨before, none⟩]
  | c :: rest => ⟨before, some c⟩ :: gapsAfter (some c) rest

def gaps (text : List Char) : List Gap := gapsAfter none text

/-- The places of a row where a condition holds. -/
def keep (test : Gap → Bool) (gaps : List Gap) (row : Row) : Row :=
  List.zipWith (fun gap flag => flag && test gap) gaps row

/-- Every place moves on over the character after it. -/
def shift (row : Row) : Row := false :: row.dropLast

def union (left right : Row) : Row := List.zipWith (· || ·) left right

/-- Takes a step a number of times; a row that a step leaves alone stays as it is. -/
def times (next : Row → Row) : Nat → Row → Row
  | 0, row => row
  | count + 1, row =>
    let moved := next row
    if moved = row then row else times next count moved

/-- Takes a step at most a number of times. -/
def upTo (next : Row → Row) : Nat → Row → Row
  | 0, row => row
  | count + 1, row =>
    let moved := union row (next row)
    if moved = row then row else upTo next count moved

/-- The places where a match ends that starts at one of the given places. -/
def ends (gaps : List Gap) : Regex → Row → Row
  | empty, row => row
  | one set, row => shift (keep (fun gap => gap.after.any set.contains) gaps row)
  | folded key, row =>
    shift (keep (fun gap => gap.after.any fun c => Unicode.foldCase c == key) gaps row)
  | look condition, row => keep condition.holds gaps row
  | group _ body, row => ends gaps body row
  | sequence first second, row => ends gaps second (ends gaps first row)
  | either left right, row => union (ends gaps left row) (ends gaps right row)
  | repeated body least most, row =>
    let started := times (fun row => ends gaps body row) least row
    match most with
    | some most => upTo (fun row => ends gaps body row) (most - least) started
    | none => upTo (fun row => ends gaps body row) gaps.length started

/-- Whether a match occurs anywhere in a text. -/
def occursIn (regex : Regex) (text : String) : Bool :=
  let gaps := gaps text.toList
  (ends gaps regex (gaps.map fun _ => true)).any id

end Regex

end Engagements
