import Engagements.Pipeline.Projection
import Engagements.Predicate

/-!
Pipelines: the stages through which a list of documents is passed.
-/
namespace Engagements

inductive SortOrder where
  | ascending
  | descending
  deriving DecidableEq, Repr, Inhabited

namespace SortOrder

def name : SortOrder → String
  | ascending => "ASC"
  | descending => "DESC"

/-- An order by its name in any case, white space around it left aside. -/
def read (text : String) : Except String SortOrder :=
  match Text.asciiUpper (Text.trim text) with
  | "ASC" => .ok ascending
  | "DESC" => .ok descending
  | other => .error s!"sort order must be ASC or DESC, got '{other}'"

def apply : SortOrder → Ordering → Ordering
  | ascending, ordering => ordering
  | descending, ordering => ordering.swap

end SortOrder

structure SortKey where
  field : String
  order : SortOrder
  deriving DecidableEq, Repr

/-- What a group keeps of its documents: a value of the first, or the sum of numbers. -/
inductive Accumulator where
  | first (expr : Expr)
  | sum (expr : Expr)
  deriving Repr, Inhabited

inductive Stage where
  | filter (predicate : Predicate)
  | unwind (path : String)
  | addFields (fields : List (String × Expr))
  | group (key : Expr) (accumulators : List (String × Accumulator))
  | replaceRoot (expr : Expr)
  | sort (keys : List SortKey)
  | skip (count : Nat)
  | limit (count : Nat)
  | project (projection : Projection)
  | count (field : String)
  | facet (branches : List (String × List Stage))
  deriving Repr, Inhabited

abbrev Pipeline := List Stage

namespace Stage

def name : Stage → String
  | filter _ => "$match"
  | unwind _ => "$unwind"
  | addFields _ => "$addFields"
  | group _ _ => "$group"
  | replaceRoot _ => "$replaceRoot"
  | sort _ => "$sort"
  | skip _ => "$skip"
  | limit _ => "$limit"
  | project _ => "$project"
  | count _ => "$count"
  | facet _ => "$facet"

end Stage

end Engagements
