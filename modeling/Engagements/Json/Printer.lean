import Engagements.Decimal
import Engagements.Value

/-!
JSON text of values: on one line, and indented by two blanks a level.
-/
namespace Engagements.Json

def hexDigits : List Char := "0123456789abcdef".toList

def hexDigit (n : Nat) : Char := hexDigits.getD n '0'

/-- The text of one character inside a string; control characters are escaped. -/
def charText (c : Char) : List Char :=
  match c with
  | '"' => ['\\', '"']
  | '\\' => ['\\', '\\']
  | '\n' => ['\\', 'n']
  | '\r' => ['\\', 'r']
  | '\t' => ['\\', 't']
  | c =>
    if c.toNat = 8 then ['\\', 'b']
    else if c.toNat = 12 then ['\\', 'f']
    else if c.toNat < 32 then
      ['\\', 'u', '0', '0', hexDigit (c.toNat / 16), hexDigit (c.toNat % 16)]
    else [c]

def stringText (s : String) : List Char := '"' :: s.toList.flatMap charText ++ ['"']

def numberText : Number → List Char
  | .integer n => (toString n).toList
  | .double d => d.toJsonText.toList

mutual
def compactChars : Value → List Char
  | .null => "null".toList
  | .bool b => (if b then "true" else "false").toList
  | .number n => numberText n
  | .string s => stringText s
  | .array items => '[' :: compactItems items ++ [']']
  | .object fields => '\x7b' :: compactFields fields ++ ['\x7d']
termination_by structural value => value

def compactItems : List Value → List Char
  | [] => []
  | [last] => compactChars last
  | item :: items => compactChars item ++ ',' :: compactItems items
termination_by structural items => items

def compactFields : Fields → List Char
  | [] => []
  | [(name, last)] => stringText name ++ ':' :: compactChars last
  | (name, value) :: fields =>
    stringText name ++ ':' :: compactChars value ++ ',' :: compactFields fields
termination_by structural fields => fields
end

/-- The text of a value without any white space. -/
def compact (value : Value) : String := String.ofList (compactChars value)

/-- The start of a line at a depth. -/
def lineStart (depth : Nat) : List Char := '\n' :: List.replicate (2 * depth) ' '

mutual
def indentedChars (depth : Nat) : Value → List Char
  | .array (item :: items) =>
    '[' :: indentedItems (depth + 1) (item :: items) ++ lineStart depth ++ [']']
  | .object (field :: fields) =>
    '\x7b' :: indentedFields (depth + 1) (field :: fields) ++ lineStart depth ++ ['\x7d']
  | value => compactChars value
termination_by structural value => value

def indentedItems (depth : Nat) : List Value → List Char
  | [] => []
  | [last] => lineStart depth ++ indentedChars depth last
  | item :: items =>
    lineStart depth ++ indentedChars depth item ++ ',' :: indentedItems depth items
termination_by structural items => items

def indentedFields (depth : Nat) : Fields → List Char
  | [] => []
  | [(name, last)] =>
    lineStart depth ++ stringText name ++ ':' :: ' ' :: indentedChars depth last
  | (name, value) :: fields =>
    lineStart depth ++ stringText name ++ ':' :: ' ' :: indentedChars depth value ++
      ',' :: indentedFields depth fields
termination_by structural fields => fields
end

/-- The text of a value with every item and field on a line of its own. -/
def indented (value : Value) : String := String.ofList (indentedChars 0 value)

end Engagements.Json
