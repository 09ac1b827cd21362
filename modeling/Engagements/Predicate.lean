import Engagements.Pattern
import Engagements.Value.Order
import Engagements.Value.Path

/-!
Conditions on documents: what they mean, how they combine, and which fields they speak of.
-/
namespace Engagements

inductive Comparison where
  | greater
  | greaterOrEqual
  | less
  | lessOrEqual
  deriving DecidableEq, Repr

def Comparison.holds : Comparison → Ordering → Bool
  | greater, ordering => ordering == .gt
  | greaterOrEqual, ordering => ordering != .lt
  | less, ordering => ordering == .lt
  | lessOrEqual, ordering => ordering != .gt

inductive Predicate where
  | equals (field : String) (value : Value)
  | compares (field : String) (comparison : Comparison) (value : Value)
  | like (field : String) (pattern : Pattern)
  | unlike (field : String) (pattern : Pattern)
  | presence (field : String) (present : Bool)
  | all (conjuncts : List Predicate)
  | any (disjuncts : List Predicate)
  | not (inner : Predicate)
  deriving Repr, Inhabited

namespace Predicate

def present (field : String) : Predicate := presence field true

def absent (field : String) : Predicate := presence field false

/-- The parts of a conjunction; any other predicate is its own single part. -/
def conjuncts : Predicate → List Predicate
  | all parts => parts
  | other => [other]

/-- The conjunction of predicates, nested conjunctions taken apart. -/
def allOf (predicates : List Predicate) : Option Predicate :=
  match predicates.flatMap conjuncts with
  | [] => none
  | [only] => some only
  | parts => some (all parts)

def anyOf : List Predicate → Option Predicate
  | [] => none
  | [only] => some only
  | parts => some (any parts)

def and (left right : Predicate) : Predicate := all (left.conjuncts ++ right.conjuncts)

/-- The complement, without a double negation. -/
def negate : Predicate → Predicate
  | not inner => inner
  | presence field present => presence field !present
  | like field pattern => unlike field pattern
  | unlike field pattern => like field pattern
  | other => not other

mutual
/-- The paths that a predicate speaks of. -/
def fields : Predicate → List String
  | equals field _ | compares field _ _ | like field _ | unlike field _ | presence field _ =>
    [field]
  | all parts | any parts => fieldsOfAll parts
  | not inner => inner.fields
termination_by structural predicate => predicate

def fieldsOfAll : List Predicate → List String
  | [] => []
  | predicate :: predicates => predicate.fields ++ fieldsOfAll predicates
termination_by structural predicates => predicates
end

def isScoped (path : String) (predicate : Predicate) : Bool :=
  !predicate.fields.isEmpty && predicate.fields.all (isUnder · path)

/-- The conjuncts that speak only of what lies under a path. -/
def scopedTo (predicate : Predicate) (path : String) : Option Predicate :=
  allOf (predicate.conjuncts.filter (isScoped path))

/-- Only numbers, strings and booleans are compared, each with its own kind. -/
def comparable : Value → Value → Bool
  | .number _, .number _ | .string _, .string _ | .bool _, .bool _ => true
  | _, _ => false

def textMatches (pattern : Pattern) : Value → Bool
  | .string s => pattern.occursIn s
  | _ => false

mutual
/-- Whether a document satisfies a predicate. A path with several values satisfies a condition if
one of them does. -/
def holds (document : Value) : Predicate → Bool
  | equals field value => (document.candidates field).any (·.agrees value)
  | compares field comparison value =>
    (document.candidates field).any fun candidate =>
      comparable candidate value && comparison.holds (candidate.order value)
  | like field pattern => (document.candidates field).any (textMatches pattern)
  | unlike field pattern => !(document.candidates field).any (textMatches pattern)
  | presence field present => (document.candidates field).any (!·.isNull) == present
  | all parts => holdsAll document parts
  | any parts => holdsAny document parts
  | not inner => !holds document inner
termination_by structural predicate => predicate

def holdsAll (document : Value) : List Predicate → Bool
  | [] => true
  | predicate :: predicates => holds document predicate && holdsAll document predicates
termination_by structural predicates => predicates

def holdsAny (document : Value) : List Predicate → Bool
  | [] => false
  | predicate :: predicates => holds document predicate || holdsAny document predicates
termination_by structural predicates => predicates
end

/-- No predicate at all is satisfied by every document. -/
def accepts (predicate : Option Predicate) (document : Value) : Bool :=
  predicate.all (holds document)

mutual
/-- Equality of predicates, up to the order of fields in the values they mention. -/
def same : Predicate → Predicate → Bool
  | equals field value, equals other otherValue => field == other && value.same otherValue
  | compares field comparison value, compares other otherComparison otherValue =>
    field == other && comparison == otherComparison && value.same otherValue
  | like field pattern, like other otherPattern => field == other && pattern == otherPattern
  | unlike field pattern, unlike other otherPattern => field == other && pattern == otherPattern
  | presence field present, presence other otherPresent => field == other && present == otherPresent
  | all parts, all others => sameAll parts others
  | any parts, any others => sameAll parts others
  | not inner, not other => same inner other
  | _, _ => false
termination_by structural predicate => predicate

def sameAll : List Predicate → List Predicate → Bool
  | [], [] => true
  | predicate :: predicates, other :: others => same predicate other && sameAll predicates others
  | _, _ => false
termination_by structural predicates => predicates
end

end Predicate

end Engagements
