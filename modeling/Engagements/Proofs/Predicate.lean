import Engagements.Proofs.Path

/-!
What predicates that are put together mean.
-/
namespace Engagements.Predicate

theorem holdsAll_append (document : Value) (first second : List Predicate) :
    holdsAll document (first ++ second) =
      (holdsAll document first && holdsAll document second) := by
  induction first with
  | nil => rfl
  | cons predicate first ih => rw [List.cons_append, holdsAll, holdsAll, ih, Bool.and_assoc]

theorem holdsAll_conjuncts (document : Value) (predicate : Predicate) :
    holdsAll document predicate.conjuncts = holds document predicate := by
  cases predicate with
  | all parts => rfl
  | _ => exact Bool.and_true _

theorem holdsAll_eq_all (document : Value) (predicates : List Predicate) :
    holdsAll document predicates = predicates.all (holds document) := by
  induction predicates with
  | nil => rfl
  | cons predicate predicates ih => rw [holdsAll, ih, List.all_cons]

theorem holdsAny_eq_any (document : Value) (predicates : List Predicate) :
    holdsAny document predicates = predicates.any (holds document) := by
  induction predicates with
  | nil => rfl
  | cons predicate predicates ih => rw [holdsAny, ih, List.any_cons]

theorem all_conjuncts (document : Value) (predicate : Predicate) :
    predicate.conjuncts.all (holds document) = holds document predicate := by
  rw [← holdsAll_eq_all, holdsAll_conjuncts]

theorem flatMap_conjuncts {predicates : List Predicate}
    (single : ∀ predicate ∈ predicates, predicate.conjuncts = [predicate]) :
    predicates.flatMap conjuncts = predicates := by
  rw [List.flatMap_congr single, List.flatMap_singleton']

/-- A conjunction of predicates that are no conjunctions has these as its parts. -/
theorem conjuncts_allOf {predicates : List Predicate} (nonempty : predicates ≠ [])
    (single : ∀ predicate ∈ predicates, predicate.conjuncts = [predicate]) :
    (allOf predicates).map conjuncts = some predicates := by
  have flat := flatMap_conjuncts single
  match predicates with
  | [] => exact absurd rfl nonempty
  | [only] => rw [allOf, flat, Option.map_some, single only List.mem_cons_self]
  | first :: second :: rest => rw [allOf, flat, Option.map_some, conjuncts]

theorem allOf_toList_allOf {predicates : List Predicate}
    (single : ∀ predicate ∈ predicates, predicate.conjuncts = [predicate]) :
    allOf (allOf predicates).toList = allOf predicates := by
  have flat := flatMap_conjuncts single
  match predicates with
  | [] => rfl
  | [only] => simp [allOf, single only List.mem_cons_self]
  | first :: second :: rest =>
      have several : allOf (first :: second :: rest) = some (all (first :: second :: rest)) := by
        rw [allOf, flat]
      simp only [several, Option.toList_some]
      simp only [allOf, List.flatMap_singleton, conjuncts]

/-- Taking nested conjunctions apart does not change what is accepted. -/
theorem accepts_allOf (predicates : List Predicate) (document : Value) :
    accepts (allOf predicates) document = predicates.all (holds document) := by
  have flat : (predicates.flatMap conjuncts).all (holds document) =
      predicates.all (holds document) := by
    rw [List.all_flatMap]
    exact congrArg predicates.all (funext (all_conjuncts document))
  rw [← flat, allOf]
  split
  · rename_i none
    rw [none]
    rfl
  · rename_i only
    rw [only]
    simp [accepts]
  · rw [accepts, Option.all_some, holds, holdsAll_eq_all]

/-- A choice between no predicates asks for nothing. -/
theorem accepts_anyOf (predicates : List Predicate) (document : Value) :
    accepts (anyOf predicates) document =
      (predicates.isEmpty || predicates.any (holds document)) := by
  match predicates with
  | [] => rfl
  | [only] => simp [anyOf, accepts]
  | first :: second :: rest =>
      have several : anyOf (first :: second :: rest) = some (any (first :: second :: rest)) := rfl
      rw [several, accepts, Option.all_some, holds, holdsAny_eq_any]
      rfl

theorem holds_and (document : Value) (left right : Predicate) :
    (left.and right).holds document = (left.holds document && right.holds document) := by
  rw [and, holds, holdsAll_append, holdsAll_conjuncts, holdsAll_conjuncts]

/-- A predicate and its negation split all values among them, also those in which the field is
missing, null or an array. -/
theorem holds_negate (document : Value) (predicate : Predicate) :
    predicate.negate.holds document = !predicate.holds document := by
  cases predicate with
  | not inner => exact (Bool.not_not _).symm
  | presence field present => cases present <;> simp [negate, holds]
  | unlike field pattern => exact (Bool.not_not _).symm
  | _ => rfl

theorem holds_equals_string (document : Document) {name : String}
    (single : segments name = [name]) (text : String) :
    (Predicate.equals name (.string text)).holds (.object document) =
      (Fields.get? document name).any (·.offers text) := by
  rw [holds, Value.candidates_field document single]
  cases Fields.get? document name with
  | none => rfl
  | some value =>
      cases value <;> simp [Value.agrees_string, Value.offers]

/-! Predicates that a document satisfies the sooner, the more values it has. -/

/-- Whether a predicate asks for one value of a field with some property. -/
def isPositive : Predicate → Bool
  | equals _ _ | compares _ _ _ | like _ _ | presence _ true => true
  | _ => false

theorem conjuncts_of_isPositive {predicate : Predicate} (positive : predicate.isPositive = true) :
    predicate.conjuncts = [predicate] := by
  cases predicate with
  | all parts => cases positive
  | _ => rfl

theorem holds_of_isPositive {predicate : Predicate} (positive : predicate.isPositive = true) :
    ∃ field meets, predicate.fields = [field] ∧
      ∀ document, predicate.holds document = (document.candidates field).any meets := by
  cases predicate with
  | equals field value => exact ⟨field, _, rfl, fun _ => rfl⟩
  | compares field comparison value => exact ⟨field, _, rfl, fun _ => rfl⟩
  | like field pattern => exact ⟨field, _, rfl, fun _ => rfl⟩
  | presence field present =>
      cases present with
      | true => exact ⟨field, (!·.isNull), rfl, fun _ => beq_true _⟩
      | false => cases positive
  | _ => cases positive

end Engagements.Predicate
