import Engagements.Regex

/-!
Characters with a meaning in patterns, and patterns that match a text literally.
-/
namespace Engagements.Regex

def metaCharacters : List Char := "\\.+*?()|[]\x7b\x7d^$#&-~".toList

def isMeta (c : Char) : Bool := metaCharacters.contains c

def escapeChars (text : List Char) : List Char :=
  text.flatMap fun c => if isMeta c then ['\\', c] else [c]

/-- A pattern that matches exactly the given text. -/
def escape (text : String) : String := String.ofList (escapeChars text.toList)

end Engagements.Regex
