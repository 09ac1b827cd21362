import Engagements.Engagement
import Engagements.Planner
import Engagements.Revision

/-!
Reading engagements from a store: pages, counts and single engagements; and writing one at the
version that was read.
-/
namespace Engagements

/-- A page of results. Grouped and unwound results are documents of another shape. -/
structure Page where
  results : List Document
  totalCount : Nat
  currentPage : Nat
  perPage : Nat
  deriving Repr

def Page.engagements (page : Page) : Result (List Engagement) :=
  page.results.mapM Engagement.ofDocument

def Page.toValue (page : Page) : Value :=
  .object [("results", .array (page.results.map .object)), ("totalCount", .int page.totalCount),
    ("currentPage", .int page.currentPage), ("perPage", .int page.perPage)]

/-- The sizes of a partition; a side of which there is nothing has none. -/
structure PartitionCounts where
  total : Option Nat
  matching : Option Nat
  complement : Option Nat
  deriving DecidableEq, Repr

def PartitionCounts.toValue (counts : PartitionCounts) : Value :=
  .object ([("totalCount", counts.total), ("matching", counts.matching),
    ("complement", counts.complement)].filterMap fun (name, count) =>
      count.map fun count => (name, .int count))

namespace Catalog

def subDomainField : String := "hostingEnvironments.ocpSubDomain"

/-- An unsigned 64-bit count in a document. -/
def count? (envelope : Document) (field : String) : Option Nat :=
  match Fields.get? envelope field with
  | some (.number (.integer n)) => if Width.isUnsigned 64 n then some n.toNat else none
  | _ => none

/-- The documents in an array of a document. -/
def documentsIn (envelope : Document) (field : String) : List Document :=
  match Fields.get? envelope field with
  | some (.array items) =>
    items.filterMap fun
      | .object document => some document
      | _ => none
  | _ => []

/-- Results that are not paged are one page, as large as they are. -/
def pageOf (envelope : Document) (paging : Option Paging) : Page :=
  let results := documentsIn envelope Planner.resultsField
  let total := (count? envelope Planner.totalCountField).getD 0
  match paging with
  | some paging => ⟨results, total, paging.page, paging.perPage⟩
  | none => ⟨results, total, 1, total⟩

/-- The results of a filter among the documents that satisfy a base predicate. -/
def findPage (planner : Planner) (spec : FilterSpec) (base : Option Predicate) : Action Page := do
  let plan ← planner.plan spec base
  let output ← Store.aggregate plan.pipeline
  return pageOf (output.head?.getD []) plan.paging

def countPartition (planner : Planner) (spec : FilterSpec) (base : Option Predicate)
    (partition : Partition) : Action PartitionCounts := do
  let pipeline ← planner.planPartition spec base partition
  let output ← Store.aggregate pipeline
  let envelope := output.head?.getD []
  return ⟨count? envelope Planner.totalCountField, count? envelope partition.name,
    count? envelope partition.complementName⟩

/-- A filter says of a single engagement only which of its fields are shown. -/
def lookupProjection : Option FilterSpec → Result Projection
  | none => .ok (Projection.drop [] idField)
  | some spec => do
    spec.validate.mapError FilterProblem.toError
    let base := Projection.drop [] idField
    .ok (match spec.included, spec.excluded with
      | some names, _ => names.foldl Projection.keep base
      | none, some names => names.foldl Projection.drop base
      | none, none => base)

/-- The first engagement in the store that satisfies a predicate. -/
def findFirst (filter : Predicate) (spec : Option FilterSpec) : Action (Option Engagement) := do
  let projection ← lookupProjection spec
  match ← Store.findOne filter (some projection) with
  | some document => return some (← Engagement.ofDocument document)
  | none => return none

def findByUuid (uuid : String) (spec : Option FilterSpec) : Action (Option Engagement) :=
  findFirst (.equals Revision.uuidField (.string uuid)) spec

def findByNames (customer project : String) (spec : Option FilterSpec) :
    Action (Option Engagement) :=
  findFirst ((Predicate.equals "customerName" (.string customer)).and
    (.equals "projectName" (.string project))) spec

/-- The engagement that owns a subdomain, in any case; one engagement may be left aside. -/
def findBySubDomain (subDomain : String) (owner : Option String) : Action (Option Engagement) :=
  let owned := Predicate.like subDomainField (Pattern.exactly subDomain)
  let filter :=
    match owner with
    | some uuid =>
      owned.and (Predicate.equals Revision.uuidField (.string uuid)).negate
    | none => owned
  findFirst filter none

/-- Writes a candidate unless its engagement is unknown or has another version by now. -/
def writeIfCurrent (candidate : Engagement) (expected : String) (launching : Bool) :
    Action (Option Engagement) := do
  match ← Revision.writeIfCurrent candidate.toDocument expected launching with
  | some document => return some (← Engagement.ofDocument document)
  | none => return none

end Catalog

end Engagements
