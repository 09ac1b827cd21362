import Engagements.Text

/-!
Everything that can go wrong, with the text, the status and the retry advice that a client sees.
-/
namespace Engagements

inductive Error where
  | invalidFilter (reason : String)
  | invalidSearchField (field reason : String)
  | invalidPipeline (reason : String)
  | invalidEngagement (reason : String)
  | engagementNotFound (uuid : String)
  | versionConflict (uuid expected : String)
  | businessRule (reason : String)
  | store (reason : String)
  | storeTimeout (operation : String) (milliseconds : Nat)
  | serialization (reason : String)
  | configuration (reason : String)
  | other (reason : String)
  deriving DecidableEq, Repr

namespace Error

def withoutTrailingZeros (digits : List Char) : List Char :=
  (digits.reverse.dropWhile (· == '0')).reverse

/-- A duration in whole milliseconds, or in seconds from one second on. -/
def durationText (milliseconds : Nat) : String :=
  if milliseconds = 0 then "0ns"
  else if milliseconds < 1000 then s!"{milliseconds}ms"
  else
    let places := (toString (1000 + milliseconds % 1000)).toList.drop 1
    let fraction := withoutTrailingZeros places
    let point := if fraction = [] then "" else "."
    s!"{milliseconds / 1000}{point}{String.ofList fraction}s"

def message : Error → String
  | invalidFilter reason => s!"Invalid filter: {reason}"
  | invalidSearchField field reason => s!"Invalid search field '{field}': {reason}"
  | invalidPipeline reason => s!"Invalid pipeline: {reason}"
  | invalidEngagement reason => s!"Invalid engagement: {reason}"
  | engagementNotFound uuid => s!"Engagement not found: {uuid}"
  | versionConflict uuid expected =>
    s!"Version conflict for engagement {uuid}: expected lastUpdate {expected}"
  | businessRule reason => s!"Business rule violation: {reason}"
  | store reason => s!"Store error: {reason}"
  | storeTimeout operation milliseconds =>
    s!"Store operation '{operation}' timed out after {durationText milliseconds}"
  | serialization reason => s!"Serialization error: {reason}"
  | configuration reason => s!"Configuration error: {reason}"
  | other reason => reason

/-- The status that is reported to clients. -/
def status : Error → Nat
  | invalidFilter _ | invalidSearchField _ _ | invalidEngagement _ => 400
  | engagementNotFound _ => 404
  | versionConflict _ _ | businessRule _ => 409
  | storeTimeout _ _ => 504
  | invalidPipeline _ | store _ | serialization _ | configuration _ | other _ => 500

/-- Conflicts may be retried after reading the engagement again. -/
def isConflict : Error → Bool
  | versionConflict _ _ => true
  | _ => false

end Error

abbrev Result := Except Error

end Engagements
