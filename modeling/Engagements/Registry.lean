import Engagements.Catalog

/-!
The rules of the engagement registry: customer and project name an engagement, a subdomain belongs
to one engagement, a write at an old version is a conflict, and an engagement is launched once.
-/
namespace Engagements.Registry

def participantsField : String := "engagementUsers"

def get (uuid : String) (spec : Option FilterSpec) : Action Engagement := do
  match ← Catalog.findByUuid uuid spec with
  | some engagement => return engagement
  | none => throw (.engagementNotFound uuid)

/-- Whether a subdomain belongs to no engagement but its owner. -/
def isSubDomainAvailable (subDomain : String) (owner : Option String) : Action Bool := do
  return (← Catalog.findBySubDomain subDomain owner).isNone

/-- The values of a field that contain a text in any case, each with the number of times that it
occurs. -/
def suggest (planner : Planner) (field fragment : String) : Action Page :=
  Catalog.findPage planner
    ((FilterSpec.empty.searching s!"{field} like {Regex.escape fragment}").groupedBy field) none

/-- How many participants the chosen engagements have on both sides. -/
def countParticipants (planner : Planner) (spec : FilterSpec) : Action PartitionCounts :=
  Catalog.countPartition planner (spec.unwinding participantsField) none Partition.participants

/-- What a partial candidate leaves unnamed keeps its stored name. -/
def namesAfter (candidate : Engagement) (uuid : String) :
    Action (Option String × Option String) :=
  match candidate.customerName, candidate.projectName with
  | some customer, some project => return (some customer, some project)
  | customer, project => do
    let stored ← Catalog.findByUuid uuid none
    return (customer <|> stored.bind (·.customerName), project <|> stored.bind (·.projectName))

def checkNames (candidate : Engagement) (uuid : String) : Action Unit := do
  if candidate.customerName.isNone && candidate.projectName.isNone then return ()
  match ← namesAfter candidate uuid with
  | (some customer, some project) =>
    match ← Catalog.findByNames customer project none with
    | some other =>
      if other.uuid ≠ some uuid then
        throw (.businessRule
          s!"an engagement for customer '{customer}' and project '{project}' already exists")
    | none => return ()
  | _ => return ()

def checkSubDomains (uuid : String) : List String → Action Unit
  | [] => return ()
  | subDomain :: subDomains => do
    if ← isSubDomainAvailable subDomain (some uuid) then checkSubDomains uuid subDomains
    else throw (.businessRule s!"subdomain '{subDomain}' is already in use")

/-- A write that finds no engagement at the version tells an unknown engagement from a conflict. -/
def write (candidate : Engagement) (uuid expected : String) (launching : Bool) :
    Action Engagement := do
  match ← Catalog.writeIfCurrent candidate expected launching with
  | some updated => return updated
  | none =>
    match ← Catalog.findByUuid uuid none with
    | none => throw (.engagementNotFound uuid)
    | some _ => throw (.versionConflict uuid expected)

/-- Writes a candidate whose engagement still has the version that was read. -/
def update (candidate : Engagement) (expected : String) : Action Engagement :=
  match candidate.uuid with
  | none => throw (.invalidEngagement "engagement uuid is required")
  | some uuid => do
    checkNames candidate uuid
    checkSubDomains uuid candidate.subDomains
    write candidate uuid expected false

def launchCandidate (uuid launchedAt launchedBy email : String) : Engagement :=
  { Engagement.empty with
    uuid := some uuid
    launch := some ⟨some launchedAt, some launchedBy, some email⟩ }

/-- Marks an engagement as launched, which is done once. -/
def launch (uuid expected launchedBy email : String) : Action Engagement := do
  let current ← get uuid none
  if current.isLaunched then
    throw (.businessRule s!"engagement {uuid} is already launched")
  let launchedAt ← Store.presentSecond
  write (launchCandidate uuid launchedAt launchedBy email) uuid expected true

end Engagements.Registry
