import Engagements.Settings.Setting
import Engagements.Text

/-!
Settings in sections of lines, each of which gives a name a text.
-/
namespace Engagements.Ini

open Setting (Table)

def escaped : Char → Char
  | '0' => Char.ofNat 0
  | 'a' => Char.ofNat 7
  | 'b' => Char.ofNat 8
  | 't' => '\t'
  | 'r' => '\r'
  | 'n' => '\n'
  | c => c

/-- The text up to a character at which it stops, and what follows from there on. A text may also
stop at the end if `toEnd` says so. -/
def upTo? (stops : Char → Bool) (toEnd : Bool) : List Char → Option (List Char × List Char)
  | [] => if toEnd then some ([], []) else none
  | '\\' :: 'x' :: a :: b :: c :: d :: rest =>
    match Text.hexChar? [a, b, c, d] with
    | some value => (upTo? stops toEnd rest).map fun (text, rest) => (value :: text, rest)
    | none => none
  | '\\' :: 'x' :: _ => none
  | '\\' :: '\n' :: rest => upTo? stops toEnd rest
  | '\\' :: c :: rest =>
    (upTo? stops toEnd rest).map fun (text, rest) => (escaped c :: text, rest)
  | ['\\'] => none
  | c :: rest =>
    if stops c then some ([], c :: rest)
    else (upTo? stops toEnd rest).map fun (text, rest) => (c :: text, rest)

def isLineEnd (c : Char) : Bool := c == '\n' || c == '\r'

def isSign (c : Char) : Bool := c == '=' || c == ':'

/-- The rest of a line, which begins with a quoted part if it begins with a quotation mark. -/
def value? (cs : List Char) : Option (String × List Char) :=
  let plain? := upTo? isLineEnd true
  let read : Option (List Char × List Char) :=
    match cs.dropWhile fun c => Unicode.Property.isBlank c && !isLineEnd c with
    | [] => some ([], [])
    | mark :: rest =>
      if mark = '"' || mark = '\'' then
        match upTo? (· == mark) false rest with
        | some (quoted, rest) =>
          (plain? (rest.drop 1)).map fun (text, rest) => (quoted ++ text, rest)
        | none => none
      else plain? (mark :: rest)
  read.map fun (text, rest) => (String.ofList (Text.trimChars text), rest)

/-- Drops white space and tells whether what follows is the first character of its line. -/
def skipSpace (atStart : Bool) : List Char → Bool × List Char
  | [] => (atStart, [])
  | c :: rest =>
    if Unicode.Property.isBlank c then skipSpace (c == '\n') rest else (atStart, c :: rest)

/-- What has been read: the section and the name that a value is waited for, and the settings. -/
structure Reader where
  inside : Option String
  name : String
  settings : Table

namespace Reader

def enter (reader : Reader) (name : String) : Reader :=
  { reader with
    inside := some name, settings := Table.insert reader.settings name (.table []) }

/-- Gives the waiting name a text in its section. -/
def assign (reader : Reader) (value : String) : Reader :=
  let settings :=
    match reader.inside with
    | none => Table.insert reader.settings reader.name (.text value)
    | some outer =>
      let inner := ((Table.get? reader.settings outer).map Setting.entries).getD []
      Table.insert reader.settings outer (.table (Table.insert inner reader.name (.text value)))
  { reader with name := "", settings := settings }

/-- Reads a comment, a section, a name or a value. Only whole lines are comments. -/
def step? (reader : Reader) (atStart : Bool) (c : Char) (rest : List Char) :
    Option (Reader × Bool × List Char) :=
  if c = ';' || c = '#' then
    if atStart then some (reader, true, (rest.dropWhile (· ≠ '\n')).drop 1) else none
  else if c = '[' then
    (upTo? (· == ']') false rest).map fun (name, rest) =>
      (reader.enter (String.ofList (Text.trimChars name)), false, rest.drop 1)
  else if isSign c then
    if reader.name = "" then none
    else (value? rest).map fun (value, rest) => (reader.assign value, false, rest)
  else
    (upTo? isSign false (c :: rest)).map fun (name, rest) =>
      ({ reader with name := String.ofList (Text.trimChars name) }, false, rest)

/-- Reads a text that is no longer than the fuel. -/
def run? (fuel : Nat) (reader : Reader) (atStart : Bool) (cs : List Char) : Option Table :=
  match fuel, skipSpace atStart cs with
  | _, (_, []) => some reader.settings
  | 0, _ => none
  | fuel + 1, (atStart, c :: rest) =>
    match reader.step? atStart c rest with
    | some (reader, atStart, rest) => run? fuel reader atStart rest
    | none => none

end Reader

def read? (text : String) : Option Table :=
  Reader.run? text.length ⟨none, "", []⟩ true text.toList

end Engagements.Ini
