import Engagements.Search.Component
import Engagements.Search.Field
import Engagements.Search.State

/-!
Search texts: the conjunction of their components, with a window of end dates and a choice of
states that are given by reserved keys.
-/
namespace Engagements.Search

/-- What the reserved keys ask for. -/
structure Temporal where
  states : List EngagementState
  start : Option Date
  finish : Option Date
  today : Option Date
  deriving DecidableEq, Repr

/-- What the components read so far come to. -/
structure Progress where
  predicates : List Predicate
  ignored : List String
  temporal : Temporal

/-- The meaning of a search text, and the components that have none. -/
structure Expression where
  predicate : Option Predicate
  ignored : List String

def Progress.start : Progress := ⟨[], [], ⟨[], none, none, none⟩⟩

/-- A list of names, or the state that no name stands for. -/
def statesOf (value : String) : List EngagementState :=
  match (Text.split ',' value).filter (!Text.isBlank ·) with
  | [] => [EngagementState.ofName value]
  | names => names.map EngagementState.ofName

def reservedDate (key value : String) : Result Date :=
  (Date.read value).mapError (.invalidSearchField key)

/-- A pattern that is no regular expression is refused under the name of the field. -/
def readPattern (field : String) (value : List Char) : Result Pattern :=
  let source := unescape value
  match Pattern.read? source with
  | some pattern => .ok pattern
  | none => .error (.invalidSearchField field s!"invalid pattern '{source}'")

namespace Progress

def add (progress : Progress) (predicate : Predicate) : Progress :=
  { progress with predicates := progress.predicates ++ [predicate] }

def addEquals (progress : Progress) (key value : String) : Result Progress :=
  match Text.asciiLower key with
  | "state" =>
    .ok { progress with
      temporal.states := progress.temporal.states ++ statesOf value }
  | "start" => do .ok { progress with temporal.start := some (← reservedDate "start" value) }
  | "end" => do .ok { progress with temporal.finish := some (← reservedDate "end" value) }
  | "today" => do .ok { progress with temporal.today := some (← reservedDate "today" value) }
  | _ => do .ok (progress.add (.equals key (← coerce key value)))

def addComponent (progress : Progress) : Component → Result Progress
  | .unlike field value => do
    let field := String.ofList field
    .ok (progress.add (.unlike field (← readPattern field value)))
  | .like field value => do
    let field := String.ofList field
    .ok (progress.add (.like field (← readPattern field value)))
  | .absent field => .ok (progress.add (.absent (String.ofList field)))
  | .present field => .ok (progress.add (.present (String.ofList field)))
  | .equals key value =>
    progress.addEquals (String.ofList key) (unescape (Text.trimChars value))

def addPiece (progress : Progress) (piece : String) : Result Progress :=
  if Text.isBlank piece then .ok progress
  else
    match Component.read? piece with
    | some component => progress.addComponent component
    | none => .ok { progress with ignored := progress.ignored ++ [piece] }

end Progress

namespace Temporal

/-- The reference date of the states: the one given, else the start of the window, else today. -/
def referenceDate (temporal : Temporal) (today : Date) : Date :=
  (temporal.today <|> temporal.start).getD today

def endDateBound (comparison : Comparison) : Option Date → List Predicate
  | none => []
  | some date => [.compares "endDate" comparison (.string date.toText)]

def predicates (temporal : Temporal) (today : Date) : List Predicate :=
  let reference := (temporal.referenceDate today).toText
  (Predicate.anyOf (temporal.states.map (·.predicate reference))).toList
    ++ endDateBound .greaterOrEqual temporal.start
    ++ endDateBound .lessOrEqual temporal.finish

end Temporal

/-- Reads a search text; the first component that is refused decides the error. -/
def read (today : Date) (text : String) : Result Expression := do
  let progress ← (splitUnescaped '&' text).foldlM Progress.addPiece Progress.start
  .ok {
    predicate := Predicate.allOf (progress.predicates ++ progress.temporal.predicates today)
    ignored := progress.ignored }

end Engagements.Search
