import Engagements.Codec
import Engagements.Error
import Engagements.Pipeline

/-!
What a client asks for: a page, an order, the fields to show, a search text, a field to unwind and
a field to group by.
-/
namespace Engagements

structure FilterSpec where
  page : Option Nat
  perPage : Option Nat
  sortFields : Option String
  sortOrder : SortOrder
  included : Option (List String)
  excluded : Option (List String)
  search : Option String
  unwindField : Option String
  unwindProjectFields : Option String
  groupByField : Option String
  deriving DecidableEq, Repr

/-- A page of results with its size. -/
structure Paging where
  page : Nat
  perPage : Nat
  deriving DecidableEq, Repr

namespace Paging

def skip (paging : Paging) : Nat := paging.perPage * (paging.page - 1)

def limit (paging : Paging) : Nat := paging.perPage

end Paging

/-- Why a filter cannot be used. -/
inductive FilterProblem where
  | includeAndExclude
  | pageZero
  | perPageZero
  | blankUnwindField
  | blankGroupByField
  | perPageAbove (perPage most : Nat)
  deriving DecidableEq, Repr

namespace FilterProblem

def message : FilterProblem → String
  | includeAndExclude => "include and exclude cannot both be set"
  | pageZero => "page must be 1 or greater"
  | perPageZero => "perPage must be 1 or greater"
  | blankUnwindField => "unwindFieldName must not be blank"
  | blankGroupByField => "groupByFieldName must not be blank"
  | perPageAbove perPage most => s!"perPage {perPage} exceeds the maximum of {most}"

def toError (problem : FilterProblem) : Error := .invalidFilter problem.message

end FilterProblem

namespace FilterSpec

def empty : FilterSpec :=
  ⟨none, none, none, .ascending, none, none, none, none, none, none⟩

instance : Inhabited FilterSpec := ⟨empty⟩

def withPage (spec : FilterSpec) (page perPage : Nat) : FilterSpec :=
  { spec with page := some page, perPage := some perPage }

def sortedBy (spec : FilterSpec) (fields : String) (order : SortOrder) : FilterSpec :=
  { spec with sortFields := some fields, sortOrder := order }

def including (spec : FilterSpec) (fields : List String) : FilterSpec :=
  { spec with included := some (Text.sortedSet fields) }

def excluding (spec : FilterSpec) (fields : List String) : FilterSpec :=
  { spec with excluded := some (Text.sortedSet fields) }

def searching (spec : FilterSpec) (search : String) : FilterSpec :=
  { spec with search := some search }

def unwinding (spec : FilterSpec) (field : String) : FilterSpec :=
  { spec with unwindField := some field }

def flattening (spec : FilterSpec) (fields : String) : FilterSpec :=
  { spec with unwindProjectFields := some fields }

def groupedBy (spec : FilterSpec) (field : String) : FilterSpec :=
  { spec with groupByField := some field }

def validate (spec : FilterSpec) : Except FilterProblem Unit :=
  if spec.included.isSome && spec.excluded.isSome then .error .includeAndExclude
  else if spec.page = some 0 then .error .pageZero
  else if spec.perPage = some 0 then .error .perPageZero
  else if spec.unwindField.any Text.isBlank then .error .blankUnwindField
  else if spec.groupByField.any Text.isBlank then .error .blankGroupByField
  else .ok ()

def sortKeys (spec : FilterSpec) : List SortKey :=
  (Text.nameList (spec.sortFields.getD "")).map fun field => ⟨field, spec.sortOrder⟩

def flattenedFields (spec : FilterSpec) : List String :=
  Text.nameList (spec.unwindProjectFields.getD "")

def searchText (spec : FilterSpec) : String := spec.search.getD ""

/-- The page asked for, with the default size unless a size was given. -/
def paging (spec : FilterSpec) (defaultPerPage : Nat) : Option Paging :=
  spec.page.map fun page => ⟨page, spec.perPage.getD defaultPerPage⟩

end FilterSpec

/-- An order is written by its name, and may be read from an object that maps its name to null. -/
def SortOrder.readName (name : String) : Reading SortOrder :=
  match name with
  | "ASC" => .ok .ascending
  | "DESC" => .ok .descending
  | _ => .error s!"unknown variant `{name}`, expected `ASC` or `DESC`"

def SortOrder.codec : Codec SortOrder where
  read
    | .string name => SortOrder.readName name
    | .object [(name, value)] => do
      let order ← SortOrder.readName name
      if value.isNull then .ok order else .error (value.wrongKind "unit")
    | .object fields => .error ((Value.object fields).outOfRange "map with a single key")
    | value => .error (value.wrongKind "string or map")
  write order := .string order.name

/-- Sets are kept in order. -/
def Codec.nameSet : Codec (List String) where
  read value := ((Codec.listOf .text).read value).map Text.sortedSet
  write := (Codec.listOf .text).write

namespace FilterSpec

def optionalMember {α : Type} (name : String) (codec : Codec α) (get : FilterSpec → Option α)
    (set : FilterSpec → Option α → FilterSpec) : Member FilterSpec :=
  { Member.optional name codec get set with required := false }

def members : List (Member FilterSpec) :=
  [optionalMember "page" .unsigned32 page fun spec value => { spec with page := value },
   optionalMember "perPage" .unsigned32 perPage fun spec value => { spec with perPage := value },
   optionalMember "sortFields" .text sortFields
     fun spec value => { spec with sortFields := value },
   Member.defaulted "sortOrder" SortOrder.codec sortOrder
     (fun spec value => { spec with sortOrder := value }) fun _ => false,
   optionalMember "include" .nameSet included fun spec value => { spec with included := value },
   optionalMember "exclude" .nameSet excluded fun spec value => { spec with excluded := value },
   optionalMember "search" .text search fun spec value => { spec with search := value },
   optionalMember "unwindFieldName" .text unwindField
     fun spec value => { spec with unwindField := value },
   optionalMember "unwindProjectFieldNames" .text unwindProjectFields
     fun spec value => { spec with unwindProjectFields := value },
   optionalMember "groupByFieldName" .text groupByField
     fun spec value => { spec with groupByField := value }]

/-- Every member of a filter may be left out. -/
def codec : Codec FilterSpec := Record.codec "FilterSpec" empty members

def read (value : Value) : Result FilterSpec := (codec.read value).mapError .serialization

end FilterSpec

end Engagements
