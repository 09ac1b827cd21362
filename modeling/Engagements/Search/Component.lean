import Engagements.Text
import Engagements.Unicode.Casing

/-!
The components of a search text: how the text is cut at ampersands, and the forms of a component.
-/
namespace Engagements.Search

/-- Cuts at every separator that no backslash stands before. -/
def splitUnescapedChars (separator : Char) (escaped : Bool) : List Char → List (List Char)
  | [] => [[]]
  | c :: rest =>
    if !escaped && c = separator then [] :: splitUnescapedChars separator false rest
    else
      match splitUnescapedChars separator (!escaped && c == '\\') rest with
      | [] => [[c]]
      | piece :: pieces => (c :: piece) :: pieces

def splitUnescaped (separator : Char) (text : String) : List String :=
  (splitUnescapedChars separator false text.toList).map String.ofList

/-- An ampersand after a backslash stands for itself; any other backslash is kept. -/
def unescapeChars : List Char → List Char
  | [] => []
  | '\\' :: '&' :: rest => '&' :: unescapeChars rest
  | c :: rest => c :: unescapeChars rest

def unescape (text : List Char) : String := String.ofList (unescapeChars text)

/-- One condition of a search text, its texts as written. -/
inductive Component where
  | like (field value : List Char)
  | unlike (field value : List Char)
  | present (field : List Char)
  | absent (field : List Char)
  | equals (key value : List Char)
  deriving DecidableEq, Repr

namespace Component

/-- A letter of the Latin alphabet in any case, or an underscore. -/
def isNameStart (c : Char) : Bool :=
  let folded := Unicode.foldCase c
  ('a' ≤ folded && folded ≤ 'z') || c == '_'

def isNameChar (c : Char) : Bool := Unicode.Property.isWord c || c == '.'

/-- White space that must not be missing. -/
def blank? : List Char → Option (List Char)
  | [] => none
  | c :: rest => if Unicode.Property.isBlank c then some (Text.skipBlank rest) else none

def name? : List Char → Option (List Char × List Char)
  | [] => none
  | c :: rest =>
    if isNameStart c then some (c :: rest.takeWhile isNameChar, rest.dropWhile isNameChar) else none

/-- A word in any case. -/
def keyword? : List Char → List Char → Option (List Char)
  | [], cs => some cs
  | _ :: _, [] => none
  | letter :: letters, c :: rest =>
    if Unicode.foldCase c = letter then keyword? letters rest else none

/-- The word with white space on both sides of it. -/
def spacedKeyword? (word : String) (cs : List Char) : Option (List Char) :=
  (blank? cs).bind fun cs => (keyword? word.toList cs).bind blank?

/-- The word with white space before it and nothing but white space after it. -/
def lastKeyword? (word : String) (cs : List Char) : Option Unit :=
  (blank? cs).bind fun cs => (keyword? word.toList cs).bind fun rest =>
    if Text.skipBlank rest = [] then some () else none

/-- The rest without the white space at its end; it must not go over a line. -/
def patternText? (cs : List Char) : Option (List Char) :=
  let text := Text.trimChars cs
  if text.contains '\n' then none else some text

def unlike? (cs : List Char) : Option Component := do
  let (field, rest) ← name? cs
  let rest ← spacedKeyword? "not" rest
  let rest ← keyword? "like".toList rest
  let rest ← blank? rest
  let value ← patternText? rest
  some (unlike field value)

def like? (cs : List Char) : Option Component := do
  let (field, rest) ← name? cs
  let rest ← spacedKeyword? "like" rest
  let value ← patternText? rest
  some (like field value)

def notFieldExists? (cs : List Char) : Option Component := do
  let rest ← keyword? "not".toList cs
  let rest ← blank? rest
  let (field, rest) ← name? rest
  let _ ← lastKeyword? "exists" rest
  some (absent field)

def fieldNotExists? (cs : List Char) : Option Component := do
  let (field, rest) ← name? cs
  let rest ← spacedKeyword? "not" rest
  let rest ← keyword? "exists".toList rest
  if Text.skipBlank rest = [] then some (absent field) else none

def exists? (cs : List Char) : Option Component := do
  let (field, rest) ← name? cs
  let _ ← lastKeyword? "exists" rest
  some (present field)

/-- What stands after the sign must not go over a line. -/
def equals? (cs : List Char) : Option Component :=
  match name? cs with
  | none => none
  | some (key, rest) =>
    match Text.skipBlank rest with
    | '=' :: value => if value.contains '\n' then none else some (equals key value)
    | _ => none

/-- The form of a component, if it has one. -/
def read? (text : String) : Option Component :=
  let cs := Text.skipBlank text.toList
  unlike? cs <|> like? cs <|> notFieldExists? cs <|> fieldNotExists? cs <|> exists? cs
    <|> equals? cs

end Component

end Engagements.Search
