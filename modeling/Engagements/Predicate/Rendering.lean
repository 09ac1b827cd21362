import Engagements.Predicate

/-!
Predicates in the match dialect of document stores.
-/
namespace Engagements

def Comparison.operator : Comparison → String
  | greater => "$gt"
  | greaterOrEqual => "$gte"
  | less => "$lt"
  | lessOrEqual => "$lte"

/-- An object with a single field. -/
def Value.field (name : String) (value : Value) : Value := .object [(name, value)]

/-- Patterns are marked as ignoring case. -/
def Pattern.render (pattern : Pattern) : Value :=
  .object [("$regex", .string pattern.source), ("$options", .string "i")]

namespace Predicate

mutual
/-- An absent field is one that is missing or null. -/
def render : Predicate → Value
  | equals field value => .field field value
  | compares field comparison value => .field field (.field comparison.operator value)
  | like field pattern => .field field pattern.render
  | unlike field pattern => .field field (.field "$not" pattern.render)
  | presence field true => .field field (.object [("$exists", .bool true), ("$ne", .null)])
  | presence field false =>
    .field "$or" (.array [.field field (.field "$exists" (.bool false)), .field field .null])
  | all parts => .field "$and" (.array (renderAll parts))
  | any parts => .field "$or" (.array (renderAll parts))
  | not inner => .field "$nor" (.array [render inner])
termination_by structural predicate => predicate

def renderAll : List Predicate → List Value
  | [] => []
  | predicate :: predicates => render predicate :: renderAll predicates
termination_by structural predicates => predicates
end

end Predicate

end Engagements
