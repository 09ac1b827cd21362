import Engagements.CommandLine.Arguments
import Engagements.Json.Reader
import Engagements.Registry
import Engagements.Settings.File
import Engagements.Settings.Layer
import Engagements.Settings.Variables

/-!
The query program: it loads its settings and the documents of a file, and answers one request.
-/
namespace Engagements.CommandLine

/-- What the program can see of its surroundings. -/
structure Surroundings where
  environment : Variables
  readFile : String → Except String String
  today : Date
  clock : Clock

/-- What the program leaves behind. -/
structure Outcome where
  status : Nat
  output : String
  complaint : String
  deriving DecidableEq, Repr

/-- Further lines of a cause stand as far in as its first one. -/
def indentCause (text : String) : String := "    " ++ "\n    ".intercalate (Text.split '\n' text)

/-- What failed, and the cause if it is known. -/
def complaint (context : String) (cause : Option String) : String :=
  match cause with
  | none => s!"Error: {context}"
  | some cause => s!"Error: {context}\n\nCaused by:\n{indentCause cause}"

def settingsFileVariable : String := "LODESTAR_CONFIG"

def defaultSettingsFile : String := "lodestar"

/-- The variables, with those that a file supplies. -/
def allVariables (surroundings : Surroundings) : Except LoadFailure Variables :=
  match surroundings.readFile ".env" with
  | .ok text => surroundings.environment.readFile text
  | .error _ => .ok surroundings.environment

def settingsName (environment : Variables) : String :=
  (environment.get? settingsFileVariable).getD defaultSettingsFile

/-- Variables win over the settings file, and that over the defaults. -/
def loadSettings (surroundings : Surroundings) : Except LoadFailure Settings := do
  let environment ← allVariables surroundings
  let file ← SettingsFile.read surroundings.readFile (settingsName environment)
  Settings.ofLayers [file, environment.settings]

/-- Why the program stops without an answer. -/
inductive Failure where
  | complaint (text : String)
  | crash
  deriving DecidableEq, Repr

def checkedSettings (surroundings : Surroundings) : Except Failure Settings :=
  match loadSettings surroundings with
  | .error .crash => .error .crash
  | .error .malformed => .error (.complaint (complaint "Failed to load configuration" none))
  | .ok settings =>
    match settings.validate with
    | .ok () => .ok settings
    | .error problem =>
      .error (.complaint (complaint s!"Invalid configuration: {problem.message}" none))

def documentsOf (path : String) (index : Nat) : List Value → Except String (List Document)
  | [] => .ok []
  | .object document :: items => (documentsOf path (index + 1) items).map (document :: ·)
  | _ :: _ => .error (complaint s!"element {index} of {path} is not an object" none)

def loadDocuments (surroundings : Surroundings) (path : String) :
    Except String (List Document) := do
  let text ←
    (surroundings.readFile path).mapError fun reason =>
      complaint s!"Failed to read {path}" (some reason)
  match Json.read? text with
  | none => .error (complaint s!"Failed to parse {path}" none)
  | some (.array items) => documentsOf path 0 items
  | some _ => .error (complaint s!"{path} must contain a JSON array" none)

/-- What fails when a request fails. -/
def Request.context : Request → String
  | query _ => "Query failed"
  | subDomain _ _ => "Subdomain check failed"
  | participants _ => "Participant rollup failed"

def Request.answer (planner : Planner) : Request → Action Value
  | query spec => do return (← Catalog.findPage planner spec none).toValue
  | subDomain name owner => do
    let available ← Registry.isSubDomainAvailable name owner
    return .object [("subdomain", .string name), ("available", .bool available)]
  | participants search => do
    let spec := { FilterSpec.empty with search := search }
    return (← Registry.countParticipants planner spec).toValue

def answer (surroundings : Surroundings) (arguments : Arguments) : Except Failure String := do
  let settings ← checkedSettings surroundings
  let documents ← (loadDocuments surroundings arguments.data).mapError .complaint
  let store := Store.ofDocuments documents 0 surroundings.clock settings.store.timeLimit
  let planner := Planner.ofSettings settings.search surroundings.today
  match ((arguments.request.answer planner).run store).1 with
  | .ok value => .ok (Json.indented value ++ "\n")
  | .error error =>
    .error (.complaint (complaint arguments.request.context (some error.message)))

def run (surroundings : Surroundings) (arguments : List String) : Outcome :=
  match Arguments.read arguments with
  | .error (.help topic) => ⟨0, topic.text, ""⟩
  | .error (.usage reason) => ⟨2, "", s!"error: {reason}\n\n{Topic.program.text}"⟩
  | .ok arguments =>
    match answer surroundings arguments with
    | .ok output => ⟨0, output, ""⟩
    | .error (.complaint reason) => ⟨1, "", reason⟩
    | .error .crash => ⟨101, "", "the program broke off"⟩

end Engagements.CommandLine
