import Engagements.Filter
import Engagements.Search.Expression
import Engagements.Settings

/-!
From what a client asks for to the pipeline that answers it. The shared stages match, unwind and
group; then one branch sorts, pages and projects what another one counts.
-/
namespace Engagements

/-- The reference date of searches and the sizes of pages. -/
structure Planner where
  today : Date
  defaultPerPage : Nat
  maxPerPage : Option Nat
  deriving Repr

structure Plan where
  pipeline : Pipeline
  paging : Option Paging
  ignored : List String
  deriving Repr

/-- A predicate that parts documents into two named halves. -/
structure Partition where
  name : String
  complementName : String
  predicate : Predicate
  deriving Repr

namespace Partition

/-- The users of an engagement who have an address at Red Hat, and the others. -/
def participants : Partition where
  name := "redHatUsers"
  complementName := "otherUsers"
  predicate := .like "engagementUsers.email" ⟨"@redhat\\.com$"⟩

end Partition

namespace Planner

/-- Pages of the default size, and no greatest size. -/
def standard (today : Date) : Planner := ⟨today, Settings.default.search.defaultPerPage, none⟩

def ofSettings (settings : SearchSettings) (today : Date) : Planner :=
  ⟨today, settings.defaultPerPage, some settings.maxPerPage⟩

def resultsField : String := "results"

def totalCountField : String := "totalCount"

def countField : String := "count"

def groupKeyField : String := "_groupKey"

def groupDocumentField : String := "doc"

def engagementUuidField : String := "engagementUuid"

def checkSize (planner : Planner) (spec : FilterSpec) : Except FilterProblem Unit :=
  match planner.maxPerPage, spec.perPage with
  | some most, some perPage =>
    if most < perPage then .error (.perPageAbove perPage most) else .ok ()
  | _, _ => .ok ()

/-- A name without a dot is a member of the unwound field. -/
def fullPath (unwound name : String) : String :=
  if name.toList.contains '.' then name else unwound ++ "." ++ name

/-- Shows members of the unwound field at the top, beside the engagement they belong to. -/
def unwindProjection (path : String) (names : List String) : Projection :=
  (names.foldl (fun projection name =>
      Projection.compute projection (trailingSegment (fullPath path name))
        (.field (fullPath path name)))
    (Projection.drop [] idField)).compute engagementUuidField (.field "uuid")

/-- After unwinding, the conditions on what was unwound are asked again of each item. -/
def unwindStages (spec : FilterSpec) (predicate : Option Predicate) (path : String) : Pipeline :=
  [.unwind path]
    ++ ((predicate.bind (·.scopedTo path)).map Stage.filter).toList
    ++ (match spec.flattenedFields with
      | [] => []
      | names => [.project (unwindProjection path names)])

/-- Groups without regard to case, and shows the first document of each group with the count. -/
def groupStages (field : String) : Pipeline :=
  [.addFields [(groupKeyField, .lower (.field field))],
   .group (.field groupKeyField)
     [(groupDocumentField, .first .root), (countField, .sum (.literal (.int 1)))],
   .replaceRoot (.merged
     [.field groupDocumentField, .object [(countField, .field countField)]])]

/-- The stages before a page is taken, for a predicate that is known. -/
def sharedStages (spec : FilterSpec) (predicate : Option Predicate) : Pipeline :=
  (predicate.map Stage.filter).toList
    ++ (match spec.unwindField with
      | some path => unwindStages spec predicate path
      | none => [])
    ++ (match spec.groupByField with
      | some field => groupStages field
      | none => [])

/-- The conditions of a base predicate and of the search text, with the components of the text
that mean nothing. -/
def conditions (planner : Planner) (spec : FilterSpec) (base : Option Predicate) :
    Result (Option Predicate × List String) := do
  spec.validate.mapError FilterProblem.toError
  (planner.checkSize spec).mapError FilterProblem.toError
  let expression ← Search.read planner.today spec.searchText
  .ok (Predicate.allOf (base.toList ++ expression.predicate.toList), expression.ignored)

/-- What each result shows: the included fields, all but the excluded ones, or a group's value
and count. -/
def resultProjection (spec : FilterSpec) : Projection :=
  let base := Projection.drop [] idField
  match spec.included, spec.excluded, spec.groupByField with
  | some names, _, _ => names.foldl Projection.keep base
  | none, some names, none => names.foldl Projection.drop base
  | none, some names, some _ => (names.foldl Projection.drop base).drop groupKeyField
  | none, none, some field =>
    (base.compute (trailingSegment field) (.field field)).compute countField (.field countField)
  | none, none, none => base

def pageStages : Option Paging → Pipeline
  | none => []
  | some paging => [.skip paging.skip, .limit paging.limit]

def resultStages (spec : FilterSpec) (paging : Option Paging) : Pipeline :=
  (match spec.sortKeys with
    | [] => []
    | keys => [.sort keys])
    ++ pageStages paging ++ [.project (resultProjection spec)]

/-- The count in the only document of a branch. -/
def firstCount (branch : String) : Expr := .item (.field (branch ++ "." ++ countField)) 0

/-- One document with the results of a page and the count of all results. -/
def envelopeStages (spec : FilterSpec) (paging : Option Paging) : Pipeline :=
  [.facet [(resultsField, resultStages spec paging), (totalCountField, [.count countField])],
   .project ((Projection.keep [] resultsField).compute totalCountField
     (.orElse (firstCount totalCountField) (.literal (.int 0))))]

def plan (planner : Planner) (spec : FilterSpec) (base : Option Predicate) : Result Plan := do
  let (predicate, ignored) ← planner.conditions spec base
  let paging := spec.paging planner.defaultPerPage
  .ok ⟨sharedStages spec predicate ++ envelopeStages spec paging, paging, ignored⟩

def partitionBranches (partition : Partition) : List (String × Pipeline) :=
  [(totalCountField, [.count countField]),
   (partition.name, [.filter partition.predicate, .count countField]),
   (partition.complementName, [.filter partition.predicate.negate, .count countField])]

/-- One document with the counts of all documents and of both halves; a count of nothing is
absent. -/
def partitionStages (partition : Partition) : Pipeline :=
  let branches := partitionBranches partition
  [.facet branches,
   .project (branches.foldl (fun projection branch =>
     Projection.compute projection branch.1 (firstCount branch.1)) [])]

def planPartition (planner : Planner) (spec : FilterSpec) (base : Option Predicate)
    (partition : Partition) : Result Pipeline := do
  let (predicate, _) ← planner.conditions spec base
  .ok (sharedStages spec predicate ++ partitionStages partition)

end Planner

end Engagements
