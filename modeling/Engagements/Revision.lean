import Engagements.Store

/-!
Updates that apply only to the version that the client has read. Each stamps a new version, and
leaves alone the fields that belong to the server.
-/
namespace Engagements.Revision

def uuidField : String := "uuid"

def versionField : String := "lastUpdate"

def launchField : String := "launch"

/-- The fields that no client writes, apart from a launch. -/
def serverFields : List String :=
  [uuidField, idField, "projectId", "creationDetails", "status", "commits", launchField]

def isImmutable (launching : Bool) (field : String) : Bool :=
  serverFields.contains field && !(launching && field == launchField)

/-- What an update writes: the mutable fields of the candidate and the new version. -/
def changes (candidate : Document) (launching : Bool) (version : String) : Fields :=
  Fields.insert (candidate.filter fun (field, _) => !isImmutable launching field) versionField
    (.string version)

/-- The engagement at the version that was read. -/
def condition (uuid expected : String) : Predicate :=
  (Predicate.equals uuidField (.string uuid)).and (.equals versionField (.string expected))

/-- Writes a candidate unless its engagement has another version by now. -/
def writeIfCurrent (candidate : Document) (expected : String) (launching : Bool) :
    Action (Option Document) :=
  match (Fields.get? candidate uuidField).bind Value.asString? with
  | none => throw (.invalidEngagement "update candidate has no uuid")
  | some uuid => do
    let version ← Store.issueVersion
    Store.findOneAndUpdate (condition uuid expected) (changes candidate launching version)

end Engagements.Revision
