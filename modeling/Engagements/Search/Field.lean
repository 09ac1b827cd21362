import Engagements.Date
import Engagements.Error
import Engagements.Value
import Engagements.Width

/-!
The fields of engagements that a search may compare for equality, and the values that texts stand
for in them.
-/
namespace Engagements

inductive FieldKind where
  | string
  | integer
  | boolean
  | date
  deriving DecidableEq, Repr

/-- Why a text is no 64-bit integer. -/
inductive IntegerProblem where
  | empty
  | invalidDigit
  | tooLarge
  | tooSmall
  deriving DecidableEq, Repr

def IntegerProblem.message : IntegerProblem → String
  | empty => "cannot parse integer from empty string"
  | invalidDigit => "invalid digit found in string"
  | tooLarge => "number too large to fit in target type"
  | tooSmall => "number too small to fit in target type"

/-- Takes in digits from the left until one is none or leaves the range. -/
def readIntegerDigits (negative : Bool) (value : Nat) : List Char → Except IntegerProblem Int
  | [] => .ok (if negative then -(value : Int) else value)
  | c :: rest =>
    let next := value * 10 + Text.digitValue c
    if !c.isDigit then .error .invalidDigit
    else if negative && Width.size 63 < next then .error .tooSmall
    else if !negative && Width.size 63 ≤ next then .error .tooLarge
    else readIntegerDigits negative next rest

/-- The 64-bit integer that a text with or without a sign stands for. -/
def readInteger (text : List Char) : Except IntegerProblem Int :=
  match text with
  | [] => .error .empty
  | ['-'] | ['+'] => .error .invalidDigit
  | '-' :: digits => readIntegerDigits true 0 digits
  | '+' :: digits => readIntegerDigits false 0 digits
  | digits => readIntegerDigits false 0 digits

namespace FieldKind

def name : FieldKind → String
  | string => "String"
  | integer => "Integer"
  | boolean => "Boolean"
  | date => "Date"

/-- The value of a text in a field of a kind, or why it has none. -/
def read (kind : FieldKind) (raw : String) : Except String Value :=
  match kind with
  | string => .ok (.string raw)
  | integer =>
    match readInteger (Text.trim raw).toList with
    | .ok n => .ok (.int n)
    | .error problem => .error s!"'{raw}' is not an integer: {problem.message}"
  | boolean =>
    match Text.asciiLower (Text.trim raw) with
    | "true" => .ok (.bool true)
    | "false" => .ok (.bool false)
    | _ => .error s!"'{raw}' is not a boolean"
  | date => (Date.read raw).map fun date => .string date.toText

end FieldKind

namespace Search

/-- Every searchable path with the kind of its values. -/
def fields : List (String × FieldKind) :=
  [("uuid", .string),
   ("projectId", .integer),
   ("customerName", .string),
   ("projectName", .string),
   ("description", .string),
   ("location", .string),
   ("startDate", .date),
   ("endDate", .date),
   ("archiveDate", .date),
   ("engagementType", .string),
   ("engagementRegion", .string),
   ("timezone", .string),
   ("publicReference", .boolean),
   ("lastUpdate", .string),
   ("creationDetails.createdByUser", .string),
   ("creationDetails.createdByEmail", .string),
   ("creationDetails.createdOn", .string),
   ("launch.launchedDateTime", .string),
   ("launch.launchedBy", .string),
   ("launch.launchedByEmail", .string),
   ("status.overallStatus", .string),
   ("commits.id", .string),
   ("commits.authorName", .string),
   ("commits.authorEmail", .string),
   ("categories.name", .string),
   ("categories.count", .integer),
   ("artifacts.title", .string),
   ("artifacts.description", .string),
   ("artifacts.type", .string),
   ("artifacts.linkAddress", .string),
   ("hostingEnvironments.environmentName", .string),
   ("hostingEnvironments.ocpCloudProviderName", .string),
   ("hostingEnvironments.ocpClusterSize", .string),
   ("hostingEnvironments.ocpPersistentStorageSize", .string),
   ("hostingEnvironments.ocpSubDomain", .string),
   ("hostingEnvironments.ocpVersion", .string),
   ("engagementUsers.email", .string),
   ("engagementUsers.firstName", .string),
   ("engagementUsers.lastName", .string),
   ("engagementUsers.role", .string)]

def kindOf? (path : String) : Option FieldKind := fields.lookup path

/-- The value that a text stands for at a searchable path. -/
def coerce (path raw : String) : Result Value :=
  match kindOf? path with
  | none => .error (.invalidSearchField path "unknown field")
  | some kind => (kind.read raw).mapError (.invalidSearchField path)

end Search

end Engagements
