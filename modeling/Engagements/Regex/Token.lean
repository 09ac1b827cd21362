import Engagements.Regex.Escape
import Engagements.Text
import Engagements.Unicode.PropertyName
import Engagements.Width

/-!
The small parts of patterns: flags, escapes, named properties, counts.
-/
namespace Engagements.Regex

open Unicode (CharSet)

/-- The flags in force at a place of a pattern. -/
structure Flags where
  caseless : Bool
  multiline : Bool
  dotAll : Bool
  anyBreak : Bool
  unicode : Bool
  spaced : Bool

namespace Flags

/-- Flags with one of them switched; the flag for greed has no influence on what matches. -/
def switch? (flags : Flags) (on : Bool) : Char → Option Flags
  | 'i' => some { flags with caseless := on }
  | 'm' => some { flags with multiline := on }
  | 's' => some { flags with dotAll := on }
  | 'R' => some { flags with anyBreak := on }
  | 'u' => some { flags with unicode := on }
  | 'x' => some { flags with spaced := on }
  | 'U' => some flags
  | _ => none

end Flags

/-- What an escape or a plain character stands for. -/
inductive Part where
  | literal (c : Char)
  | set (set : CharSet)
  | look (look : Look)

/-- Drops white space and comments where the pattern may hold them. -/
def skipSpace (comment : Bool) : List Char → List Char
  | [] => []
  | c :: rest =>
    if comment then skipSpace (c != '\n') rest
    else if c = '#' then skipSpace true rest
    else if Unicode.Property.isBlank c then skipSpace false rest
    else c :: rest

def skip (spaced : Bool) (cs : List Char) : List Char := if spaced then skipSpace false cs else cs

theorem length_skipSpace_le (comment : Bool) (cs : List Char) :
    (skipSpace comment cs).length ≤ cs.length := by
  induction cs generalizing comment with
  | nil => simp [skipSpace]
  | cons c rest ih =>
    unfold skipSpace
    split
    · exact Nat.le_succ_of_le (ih _)
    · split
      · exact Nat.le_succ_of_le (ih _)
      · split
        · exact Nat.le_succ_of_le (ih _)
        · exact Nat.le_refl _

theorem length_skip_le (spaced : Bool) (cs : List Char) : (skip spaced cs).length ≤ cs.length := by
  unfold skip
  split
  · exact length_skipSpace_le false cs
  · exact Nat.le_refl _

/-- A fixed count of hexadecimal digits. -/
def hexFixed? (spaced : Bool) : Nat → List Char → List Char → Option (Char × List Char)
  | 0, digits, cs => (Text.hexChar? digits.reverse).map (·, cs)
  | _ + 1, _, [] => none
  | count + 1, digits, c :: rest => hexFixed? spaced count (c :: digits) (skip spaced rest)

/-- The text up to a closing brace, without the space and comments in it if they are skipped, and
what follows the brace. -/
def braced? (spaced : Bool) (cs : List Char) : Option (List Char × List Char) :=
  match skip spaced cs with
  | [] => none
  | '\x7d' :: rest => some ([], rest)
  | c :: rest =>
    if _h : rest.length < cs.length then
      (braced? spaced rest).map fun (text, after) => (c :: text, after)
    else none
termination_by cs.length

/-- A character by its number. Two digits that are not in braces stand for a byte, which has to be
ASCII where characters are bytes. -/
def hexEscape? (flags : Flags) (letter : Char) (cs : List Char) : Option (Char × List Char) :=
  match skip flags.spaced cs with
  | '\x7b' :: rest =>
    match braced? flags.spaced rest with
    | some (digits, rest) =>
      if digits = [] then none else (Text.hexChar? digits).map (·, skip flags.spaced rest)
    | none => none
  | rest =>
    let count := if letter = 'x' then 2 else if letter = 'u' then 4 else 8
    match hexFixed? flags.spaced count [] rest with
    | some (c, rest) =>
      if letter = 'x' && !flags.unicode && 128 ≤ c.toNat then none else some (c, rest)
    | none => none

/-- Splits at the first place where the second part begins with a mark. -/
def splitAt? (mark : List Char) : List Char → Option (List Char × List Char)
  | [] => none
  | c :: rest =>
    if mark.isPrefixOf (c :: rest) then some ([], (c :: rest).drop mark.length)
    else (splitAt? mark rest).map fun (before, after) => (c :: before, after)

/-- The set that a property asks for, and whether it asks for all but that set. One of three signs
may stand before a value. -/
def property? (name : List Char) : Option (CharSet × Bool) :=
  let valued? (parts : List Char × List Char) : Option CharSet :=
    Unicode.Property.valued? (Unicode.Property.plainName parts.1)
      (Unicode.Property.plainName parts.2)
  match splitAt? ['!', '='] name with
  | some parts => (valued? parts).map (·, true)
  | none =>
    match splitAt? [':'] name <|> splitAt? ['='] name with
    | some parts => (valued? parts).map (·, false)
    | none => (Unicode.Property.named? (Unicode.Property.plainName name)).map (·, false)

def closeCase (flags : Flags) (set : CharSet) : CharSet :=
  if flags.caseless then if flags.unicode then set.closeCase else set.closeAsciiCase else set

def negateIf (negated : Bool) (set : CharSet) : CharSet :=
  if negated then set.complement else set

def propertySet? (flags : Flags) (negated : Bool) (name : List Char) : Option Part :=
  if flags.unicode then
    (property? name).map fun (set, unequal) =>
      .set (negateIf (negated != unequal) (closeCase flags set))
  else none

def propertyEscape? (flags : Flags) (negated : Bool) (cs : List Char) :
    Option (Part × List Char) :=
  match skip flags.spaced cs with
  | [] => none
  | '\x7b' :: rest =>
    match braced? flags.spaced rest with
    | none => none
    | some (name, rest) => (propertySet? flags negated name).map (·, rest)
  | c :: rest =>
    if c = '\\' then none
    else (propertySet? flags negated [c]).map (·, skip flags.spaced rest)

/-- Digits, white space and words; without Unicode only their ASCII part, which has no complement
among characters. -/
def classEscape? (flags : Flags) (letter : Char) : Option Part :=
  let negated := letter.isUpper
  let set :=
    match letter.toLower with
    | 'd' => Unicode.Category.decimalNumberSet
    | 's' => Unicode.Property.whiteSpace
    | _ => Unicode.Property.word
  if flags.unicode then some (.set (negateIf negated set))
  else if negated then none
  else some (.set (CharSet.intersection set CharSet.ascii))

def isEscapable (c : Char) : Bool :=
  isMeta c || (c.toNat < 128 && !c.isAlphanum && c != '<' && c != '>')

def controlEscape? : Char → Option Char
  | 'a' => some (Char.ofNat 7)
  | 'f' => some (Char.ofNat 12)
  | 't' => some '\t'
  | 'n' => some '\n'
  | 'r' => some '\r'
  | 'v' => some (Char.ofNat 11)
  | _ => none

def boundaryNamed? (unicode : Bool) (name : List Char) : Option Look :=
  if name = "start".toList then some (.wordStart unicode)
  else if name = "end".toList then some (.wordEnd unicode)
  else if name = "start-half".toList then some (.noWordBefore unicode)
  else if name = "end-half".toList then some (.noWordAfter unicode)
  else none

/-- A word boundary; a name in braces after it chooses a kind, while a count in braces does not
belong to it. -/
def boundaryEscape? (flags : Flags) (cs : List Char) : Option (Part × List Char) :=
  let isNameChar (c : Char) : Bool := c.isAlpha || c == '-'
  match cs with
  | '\x7b' :: rest =>
    match skip flags.spaced rest with
    | [] => none
    | c :: more =>
      if isNameChar c then
        match braced? flags.spaced (c :: more) with
        | some (name, after) =>
          (boundaryNamed? flags.unicode name).map (.look ·, after)
        | none => none
      else some (.look (.wordBoundary flags.unicode), cs)
  | _ => some (.look (.wordBoundary flags.unicode), cs)

/-- What stands after a backslash. -/
def escape? (flags : Flags) : List Char → Option (Part × List Char)
  | [] => none
  | c :: rest =>
    if c.isDigit then none
    else if c = 'x' || c = 'u' || c = 'U' then
      (hexEscape? flags c rest).map fun (value, rest) => (.literal value, rest)
    else if c = 'p' || c = 'P' then propertyEscape? flags (c = 'P') rest
    else if "dswDSW".toList.contains c then (classEscape? flags c).map (·, rest)
    else if isEscapable c then some (.literal c, rest)
    else
      match c with
      | 'A' => some (.look .textStart, rest)
      | 'z' => some (.look .textEnd, rest)
      | 'b' => boundaryEscape? flags rest
      | 'B' => some (.look (.noWordBoundary flags.unicode), rest)
      | '<' => some (.look (.wordStart flags.unicode), rest)
      | '>' => some (.look (.wordEnd flags.unicode), rest)
      | c => (controlEscape? c).map (.literal ·, rest)

/-- A set named inside a bracket, as in `[:digit:]`. -/
def asciiClass? (name : List Char) : Option CharSet :=
  match String.ofList name with
  | "alnum" => some (.read "30-39 41-5A 61-7A")
  | "alpha" => some (.read "41-5A 61-7A")
  | "ascii" => some .ascii
  | "blank" => some (.read "9 20")
  | "cntrl" => some (.read "0-1F 7F")
  | "digit" => some (.read "30-39")
  | "graph" => some (.read "21-7E")
  | "lower" => some .asciiLower
  | "print" => some (.read "20-7E")
  | "punct" => some (.read "21-2F 3A-40 5B-60 7B-7E")
  | "space" => some (.read "9-D 20")
  | "upper" => some .asciiUpper
  | "word" => some Unicode.Property.asciiWord
  | "xdigit" => some (.read "30-39 41-46 61-66")
  | _ => none

/-- The digits of a count, between which space and comments may be skipped, and what follows. -/
def countDigits (spaced : Bool) : List Char → List Char × List Char
  | [] => ([], [])
  | c :: rest =>
    if c.isDigit then
      let (digits, after) := countDigits spaced (skip spaced rest)
      (c :: digits, after)
    else ([], c :: rest)
termination_by cs => cs.length
decreasing_by exact Nat.lt_succ_of_le (length_skip_le spaced rest)

/-- A decimal count of 32 bits, which white space may surround. -/
def count? (spaced : Bool) (cs : List Char) : Option (Nat × List Char) :=
  let (digits, rest) := countDigits spaced (Text.skipBlank cs)
  let value := Text.naturalOf digits
  if digits = [] || Width.size 32 ≤ value then none
  else some (value, skip spaced (Text.skipBlank rest))

/-- What stands after an opening brace: a count, a least count, or a range of counts. -/
def counts? (spaced : Bool) (cs : List Char) : Option (Nat × Option Nat × List Char) :=
  match count? spaced (skip spaced cs) with
  | none => none
  | some (least, '\x7d' :: rest) => some (least, some least, rest)
  | some (least, ',' :: rest) =>
    match skip spaced rest with
    | '\x7d' :: rest => some (least, none, rest)
    | rest =>
      match count? spaced rest with
      | some (most, '\x7d' :: rest) =>
        if least ≤ most then some (least, some most, rest) else none
      | _ => none
  | some _ => none

end Engagements.Regex
