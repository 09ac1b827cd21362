import Engagements.Regex.Room

/-!
Patterns that texts are searched for without regard to case.
-/
namespace Engagements

/-- A pattern is its source. -/
structure Pattern where
  source : String
  deriving DecidableEq, Repr

namespace Pattern

def regex? (pattern : Pattern) : Option Regex := Regex.parse? true pattern.source

/-- A source that stands for an expression. -/
def read? (source : String) : Option Pattern :=
  if (Regex.read? true source).isSome then some ⟨source⟩ else none

/-- The pattern of all texts that are equal to the given one up to case. -/
def exactly (text : String) : Pattern := ⟨"^" ++ Regex.escape text ++ "$"⟩

def occursIn (pattern : Pattern) (text : String) : Bool :=
  pattern.regex?.any (·.occursIn text)

end Pattern

end Engagements
