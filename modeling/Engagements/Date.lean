import Engagements.Text

/-!
Calendar dates and their text, year first.
-/
namespace Engagements

structure Date where
  year : Int
  month : Nat
  day : Nat
  deriving DecidableEq, Repr

namespace Date

def isLeap (year : Int) : Bool := year % 4 == 0 && (year % 100 != 0 || year % 400 == 0)

def daysInMonth (year : Int) (month : Nat) : Nat :=
  if month = 2 then if isLeap year then 29 else 28
  else if month = 4 || month = 6 || month = 9 || month = 11 then 30
  else 31

/-- A number in decimal digits, filled up with zeros on the left. -/
def padded (width n : Nat) : String :=
  let digits := toString n
  String.ofList (List.replicate (width - digits.length) '0') ++ digits

/-- Years outside 0 to 9999 carry a sign. -/
def yearText (year : Int) : String :=
  let digits := padded 4 year.natAbs
  if year < 0 then "-" ++ digits else if 9999 < year then "+" ++ digits else digits

def toText (date : Date) : String :=
  yearText date.year ++ "-" ++ padded 2 date.month ++ "-" ++ padded 2 date.day

/-- Why a text of the right length is no date. -/
inductive Problem where
  | invalidCharacters
  | outOfRange
  | ended
  | trailing
  deriving DecidableEq, Repr

def Problem.message : Problem → String
  | invalidCharacters => "input contains invalid characters"
  | outOfRange => "input is out of range"
  | ended => "premature end of input"
  | trailing => "trailing input"

/-- A number of at most so many digits. -/
def readNumber (most : Nat) (cs : List Char) : Except Problem (Nat × List Char) :=
  match cs with
  | [] => .error .ended
  | c :: _ =>
    if c.isDigit then
      let digits := (cs.take most).takeWhile Char.isDigit
      .ok (Text.naturalOf digits, cs.drop digits.length)
    else .error .invalidCharacters

/-- A signed year may have any number of digits, another one at most four. -/
def readYear (cs : List Char) : Except Problem (Int × List Char) :=
  match Text.skipBlank cs with
  | '-' :: rest => (readNumber rest.length rest).map fun (n, rest) => (-(n : Int), rest)
  | '+' :: rest => (readNumber rest.length rest).map fun (n, rest) => ((n : Int), rest)
  | rest => (readNumber 4 rest).map fun (n, rest) => ((n : Int), rest)

def readHyphen : List Char → Except Problem (List Char)
  | [] => .error .ended
  | c :: rest => if c = '-' then .ok rest else .error .invalidCharacters

/-- One or two digits between 1 and a greatest number. -/
def readPart (greatest : Nat) (cs : List Char) : Except Problem (Nat × List Char) := do
  let (n, rest) ← readNumber 2 (Text.skipBlank cs)
  if 1 ≤ n && n ≤ greatest then .ok (n, rest) else .error .outOfRange

/-- White space may stand before every part. -/
def readParts (cs : List Char) : Except Problem Date := do
  let (year, rest) ← readYear cs
  let rest ← readHyphen rest
  let (month, rest) ← readPart 12 rest
  let rest ← readHyphen rest
  let (day, rest) ← readPart 31 rest
  if rest ≠ [] then .error .trailing
  else if daysInMonth year month < day then .error .outOfRange
  else .ok ⟨year, month, day⟩

/-- The date in a text of ten bytes, white space around it left aside; or why it is none. -/
def read (text : String) : Except String Date :=
  let trimmed := Text.trim text
  if trimmed.utf8ByteSize = 10 then
    (readParts trimmed.toList).mapError fun problem =>
      s!"'{trimmed}' is not a YYYY-MM-DD date: {problem.message}"
  else .error s!"'{trimmed}' is not a YYYY-MM-DD date"

end Date

end Engagements
