import Engagements.Unicode.Property

/-!
Cutting and trimming of texts.
-/
namespace Engagements.Text

/-- The pieces of a text between separators; a text without one is a single piece. -/
def splitChars (separator : Char) : List Char → List (List Char)
  | [] => [[]]
  | c :: rest =>
    if c = separator then [] :: splitChars separator rest
    else
      match splitChars separator rest with
      | [] => [[c]]
      | piece :: pieces => (c :: piece) :: pieces

def split (separator : Char) (text : String) : List String :=
  (splitChars separator text.toList).map String.ofList

/-- Drops the white space in front. -/
def skipBlank (text : List Char) : List Char := text.dropWhile Unicode.Property.isBlank

def trimChars (text : List Char) : List Char := (skipBlank (skipBlank text).reverse).reverse

/-- Drops the white space at both ends. -/
def trim (text : String) : String := String.ofList (trimChars text.toList)

def isBlank (text : String) : Bool := text.toList.all Unicode.Property.isBlank

/-- Uppercase of the ASCII letters only. -/
def asciiUpper (text : String) : String := String.ofList (text.toList.map Char.toUpper)

def asciiLower (text : String) : String := String.ofList (text.toList.map Char.toLower)

/-- The trimmed pieces between commas that are not empty. -/
def nameList (text : String) : List String := ((split ',' text).map trim).filter (· ≠ "")

/-- The least list in ascending order with the given members. -/
def sortedSet (names : List String) : List String :=
  (names.mergeSort fun a b => compare a b != .gt).eraseReps

/-- The value of a decimal digit. -/
def digitValue (c : Char) : Nat := c.toNat - '0'.toNat

/-- The value of a hexadecimal digit in any case. -/
def hexValue? (c : Char) : Option Nat :=
  if c.isDigit then some (c.toNat - '0'.toNat)
  else if 'a' ≤ c && c ≤ 'f' then some (c.toNat - 'a'.toNat + 10)
  else if 'A' ≤ c && c ≤ 'F' then some (c.toNat - 'A'.toNat + 10)
  else none

/-- The character with a hexadecimal number, if there is one. -/
def hexChar? (digits : List Char) : Option Char :=
  match digits.foldlM (fun value c => (hexValue? c).map (16 * value + ·)) 0 with
  | none => none
  | some code => if h : code.isValidChar then some (Char.ofNatAux code h) else none

/-- The number that decimal digits stand for. -/
def naturalOf (digits : List Char) : Nat :=
  digits.foldl (fun value c => value * 10 + digitValue c) 0

/-- The number in a text of decimal digits only, of which there is at least one. -/
def digitsOnly? (digits : List Char) : Option Nat :=
  if digits ≠ [] && digits.all Char.isDigit then some (naturalOf digits) else none

/-- A whole number in decimal digits with an optional plus sign. -/
def natural? (text : String) : Option Nat :=
  match text.toList with
  | '+' :: digits => digitsOnly? digits
  | digits => digitsOnly? digits

end Engagements.Text
