import Engagements.Predicate.Rendering
import Engagements.Proofs.Predicate.Scalar
import Engagements.Proofs.Search.Equality

/-!
Rendered predicates. A rendering tells which predicate it came from, if the values that the
predicate compares with are scalars.
-/
namespace Engagements

namespace Value

def isArray : Value → Bool
  | array _ => true
  | _ => false

theorem same_field_iff (name other : String) (value content : Value) :
    (field name value).same (field other content) = true ↔
      name = other ∧ value.same content = true := by
  by_cases named : other = name
  · simp [field, same, sameFields, Fields.get?, named]
  · simp [field, same, sameFields, Fields.get?, named, Ne.symm named]

variable {value other : Value}

theorem field?_of_isScalar (scalar : value.isScalar = true) (name : String) :
    value.field? name = none := by
  cases value <;> first | rfl | cases scalar

theorem isArray_of_isScalar (scalar : value.isScalar = true) : value.isArray = false := by
  cases value <;> first | rfl | cases scalar

theorem isScalar_of_same (alike : value.same other = true) : value.isScalar = other.isScalar := by
  cases value <;> cases other <;> first | rfl | simp [same] at alike

theorem isArray_of_same (alike : value.same other = true) : value.isArray = other.isArray := by
  cases value <;> cases other <;> first | rfl | simp [same] at alike

/-- What is the same has the same fields. -/
theorem isSome_field?_of_same (alike : value.same other = true) {name : String}
    (named : (value.field? name).isSome = true) : (other.field? name).isSome = true := by
  cases value with
  | object fields =>
      cases other with
      | object others =>
          obtain ⟨content, found⟩ := Option.isSome_iff_exists.mp named
          rw [same, Bool.and_eq_true, sameFields_iff] at alike
          obtain ⟨content', there, _⟩ := alike.2 _ (Fields.mem_of_get? found)
          rw [field?, there, Option.isSome_some]
      | _ => simp [same] at alike
  | _ => cases named

end Value

namespace Predicate

/-! A rendering is one field. -/

/-- The name under which a predicate is rendered. -/
def label : Predicate → String
  | equals field _ | compares field _ _ | like field _ | unlike field _ => field
  | presence field true => field
  | presence _ false | any _ => "$or"
  | all _ => "$and"
  | not _ => "$nor"

/-- What a predicate is rendered to under its name. -/
def content : Predicate → Value
  | equals _ value => value
  | compares _ comparison value => .field comparison.operator value
  | like _ pattern => pattern.render
  | unlike _ pattern => .field "$not" pattern.render
  | presence _ true => .object [("$exists", .bool true), ("$ne", .null)]
  | presence field false =>
    .array [.field field (.field "$exists" (.bool false)), .field field .null]
  | all parts | any parts => .array (renderAll parts)
  | not inner => .array [inner.render]

theorem render_eq (predicate : Predicate) :
    predicate.render = .field predicate.label predicate.content := by
  cases predicate with
  | presence field shown => cases shown <;> rfl
  | _ => rfl

/-- The operators that stand in what a predicate is rendered to. -/
def operators : Predicate → List String
  | compares _ comparison _ => [comparison.operator]
  | like _ _ => ["$regex", "$options"]
  | unlike _ _ => ["$not"]
  | presence _ true => ["$exists", "$ne"]
  | _ => []

variable {predicate : Predicate}

theorem isSome_content_iff (scalar : predicate.IsScalar) (name : String) :
    (predicate.content.field? name).isSome = true ↔ name ∈ predicate.operators := by
  cases predicate with
  | equals field value =>
      have plain : value.isScalar = true := scalar value List.mem_cons_self
      simp [content, operators, Value.field?_of_isScalar plain]
  | presence field shown =>
      cases shown <;>
        simp [content, operators, Value.field?, Fields.get?_isSome_iff, Fields.names]
  | compares | like | unlike | all | any | not =>
      simp [content, operators, Value.field?, Value.field, Pattern.render, Fields.get?_isSome_iff,
        Fields.names]

theorem isArray_content_iff (scalar : predicate.IsScalar) :
    predicate.content.isArray = true ↔
      (∃ field, predicate = presence field false) ∨ (∃ parts, predicate = all parts) ∨
        (∃ parts, predicate = any parts) ∨ ∃ inner, predicate = not inner := by
  cases predicate with
  | equals field value =>
      have plain : value.isScalar = true := scalar value List.mem_cons_self
      simp [content, Value.isArray_of_isScalar plain]
  | presence field shown => cases shown <;> simp [content, Value.isArray]
  | compares | like | unlike | all | any | not =>
      simp [content, Value.isArray, Value.field, Pattern.render]

theorem eq_equals_of_isScalar_content (scalar : predicate.content.isScalar = true) :
    ∃ field value, predicate = equals field value := by
  cases predicate with
  | equals field value => exact ⟨field, value, rfl⟩
  | presence field shown => cases shown <;> cases scalar
  | compares | like | unlike | all | any | not => cases scalar

/-! An operator tells what kind of predicate it stands in. -/

theorem operator_injective {comparison other : Comparison}
    (same : comparison.operator = other.operator) : comparison = other := by
  cases comparison <;> cases other <;> first | rfl | exact absurd same (by decide)

theorem eq_compares_of_operator {comparison : Comparison}
    (mark : comparison.operator ∈ predicate.operators) :
    ∃ field value, predicate = compares field comparison value := by
  cases predicate with
  | compares field other value =>
      exact ⟨field, value, by rw [operator_injective (List.mem_singleton.mp mark)]⟩
  | like | unlike =>
      cases comparison <;> exact absurd mark (by simp [operators, Comparison.operator])
  | presence field shown =>
      cases shown <;> cases comparison <;>
        exact absurd mark (by simp [operators, Comparison.operator])
  | equals | all | any | not => cases mark

theorem eq_like_of_operator (mark : "$regex" ∈ predicate.operators) :
    ∃ field pattern, predicate = like field pattern := by
  cases predicate with
  | like field pattern => exact ⟨field, pattern, rfl⟩
  | compares field comparison value =>
      cases comparison <;> exact absurd mark (by simp [operators, Comparison.operator])
  | presence field shown => cases shown <;> exact absurd mark (by simp [operators])
  | equals | unlike | all | any | not => exact absurd mark (by simp [operators])

theorem eq_unlike_of_operator (mark : "$not" ∈ predicate.operators) :
    ∃ field pattern, predicate = unlike field pattern := by
  cases predicate with
  | unlike field pattern => exact ⟨field, pattern, rfl⟩
  | compares field comparison value =>
      cases comparison <;> exact absurd mark (by simp [operators, Comparison.operator])
  | presence field shown => cases shown <;> exact absurd mark (by simp [operators])
  | equals | like | all | any | not => exact absurd mark (by simp [operators])

theorem eq_present_of_operator (mark : "$exists" ∈ predicate.operators) :
    ∃ field, predicate = present field := by
  cases predicate with
  | compares field comparison value =>
      cases comparison <;> exact absurd mark (by simp [operators, Comparison.operator])
  | presence field shown =>
      cases shown with
      | true => exact ⟨field, rfl⟩
      | false => cases mark
  | equals | like | unlike | all | any | not => exact absurd mark (by simp [operators])

theorem operators_of_same {other : Predicate} (scalar : predicate.IsScalar)
    (scalar' : other.IsScalar) (alike : predicate.content.same other.content = true) {name : String}
    (mark : name ∈ predicate.operators) : name ∈ other.operators := by
  rw [← isSome_content_iff scalar] at mark
  exact (isSome_content_iff scalar' name).mp (Value.isSome_field?_of_same alike mark)

/-! Predicates that are rendered to the same. -/

theorem same_render_pattern {pattern other : Pattern}
    (alike : pattern.render.same other.render = true) : pattern = other := by
  cases pattern
  cases other
  simpa [Pattern.render, Value.same, Value.sameFields, Fields.get?] using alike

/-- The mark of a missing field. -/
def missing : Value := .field "$exists" (.bool false)

/-- No predicate is rendered to the mark of a missing field alone. -/
theorem not_same_missing (scalar : predicate.IsScalar) :
    ¬predicate.content.same missing = true ∧ ¬missing.same predicate.content = true := by
  cases predicate with
  | equals field value =>
      have plain : value.isScalar = true := scalar value List.mem_cons_self
      constructor
      · intro alike
        cases plain.symm.trans (Value.isScalar_of_same alike)
      · intro alike
        cases plain.symm.trans (Value.isScalar_of_same alike).symm
  | compares field comparison value =>
      have other : comparison.operator ≠ "$exists" := by cases comparison <;> decide
      simp [missing, content, Value.same_field_iff, other, Ne.symm other]
  | unlike field pattern => simp [missing, content, Value.same_field_iff]
  | presence field shown => cases shown <;> simp [missing, content, Value.field, Value.same]
  | like | all | any | not =>
      simp [missing, content, Value.field, Pattern.render, Value.same]

/-- A choice is not rendered to what stands for a missing field. -/
theorem not_sameItems_missing {parts : List Predicate}
    (scalar : ∀ part ∈ parts, part.IsScalar) (field : String) (items : List Value) :
    ¬Value.sameItems (renderAll parts) (.field field missing :: items) = true ∧
      ¬Value.sameItems (.field field missing :: items) (renderAll parts) = true := by
  cases parts with
  | nil => simp [renderAll, Value.sameItems]
  | cons part parts =>
      obtain ⟨before, behind⟩ := not_same_missing (scalar part List.mem_cons_self)
      simp [renderAll, Value.sameItems, render_eq part, Value.same_field_iff, before, behind]

mutual
/-- The operators and the name of a rendering leave one kind of predicate only, except that a choice
stands under the same name as a missing field. -/
theorem same_of_render (p q : Predicate) (scalar : p.IsScalar) (scalar' : q.IsScalar)
    (alike : p.render.same q.render = true) : p.same q = true := by
  rw [render_eq, render_eq, Value.same_field_iff] at alike
  obtain ⟨labelled, alike⟩ := alike
  have marked : ∀ name ∈ p.operators, name ∈ q.operators :=
    fun name mark => operators_of_same scalar scalar' alike mark
  have listed : p.content.isArray = true → q.content.isArray = true :=
    fun list => (Value.isArray_of_same alike).symm.trans list
  cases p with
  | equals field value =>
      have plain : q.content.isScalar = true :=
        (Value.isScalar_of_same alike).symm.trans (scalar value List.mem_cons_self)
      obtain ⟨field', value', rfl⟩ := eq_equals_of_isScalar_content plain
      exact Bool.and_eq_true_iff.mpr ⟨beq_iff_eq.mpr labelled, alike⟩
  | compares field comparison value =>
      obtain ⟨field', value', rfl⟩ := eq_compares_of_operator (marked _ List.mem_cons_self)
      obtain ⟨_, alike⟩ := (Value.same_field_iff _ _ _ _).mp alike
      simpa [same] using ⟨labelled, alike⟩
  | like field pattern =>
      obtain ⟨field', pattern', rfl⟩ := eq_like_of_operator (marked _ List.mem_cons_self)
      simpa [same] using ⟨labelled, same_render_pattern alike⟩
  | unlike field pattern =>
      obtain ⟨field', pattern', rfl⟩ := eq_unlike_of_operator (marked _ List.mem_cons_self)
      obtain ⟨_, alike⟩ := (Value.same_field_iff _ _ _ _).mp alike
      simpa [same] using ⟨labelled, same_render_pattern alike⟩
  | presence field shown =>
      cases shown with
      | true =>
          obtain ⟨field', rfl⟩ := eq_present_of_operator (marked _ List.mem_cons_self)
          exact Bool.and_eq_true_iff.mpr ⟨beq_iff_eq.mpr labelled, rfl⟩
      | false =>
          rcases (isArray_content_iff scalar').mp (listed rfl) with
            ⟨field', rfl⟩ | ⟨others, rfl⟩ | ⟨others, rfl⟩ | ⟨inner, rfl⟩
          · simp only [content, Value.same, Value.sameItems, Bool.and_eq_true,
              Value.same_field_iff] at alike
            exact Bool.and_eq_true_iff.mpr ⟨beq_iff_eq.mpr alike.1.1, rfl⟩
          · simp [label] at labelled
          · have parts := (isScalar_any_iff others).mp scalar'
            exact absurd alike (not_sameItems_missing parts field _).2
          · simp [label] at labelled
  | all parts =>
      rcases (isArray_content_iff scalar').mp (listed rfl) with
        ⟨field', rfl⟩ | ⟨others, rfl⟩ | ⟨others, rfl⟩ | ⟨inner, rfl⟩
      · simp [label] at labelled
      · exact sameAll_of_render parts others ((isScalar_all_iff parts).mp scalar)
          ((isScalar_all_iff others).mp scalar') alike
      · simp [label] at labelled
      · simp [label] at labelled
  | any parts =>
      have scalars := (isScalar_any_iff parts).mp scalar
      rcases (isArray_content_iff scalar').mp (listed rfl) with
        ⟨field', rfl⟩ | ⟨others, rfl⟩ | ⟨others, rfl⟩ | ⟨inner, rfl⟩
      · exact absurd alike (not_sameItems_missing scalars field' _).1
      · simp [label] at labelled
      · exact sameAll_of_render parts others scalars ((isScalar_any_iff others).mp scalar') alike
      · simp [label] at labelled
  | not inner =>
      rcases (isArray_content_iff scalar').mp (listed rfl) with
        ⟨field', rfl⟩ | ⟨others, rfl⟩ | ⟨others, rfl⟩ | ⟨inner', rfl⟩
      · simp [label] at labelled
      · simp [label] at labelled
      · simp [label] at labelled
      · simp only [content, Value.same, Value.sameItems, Bool.and_true] at alike
        exact same_of_render inner inner' scalar scalar' alike
termination_by structural p

theorem sameAll_of_render (parts others : List Predicate) (scalar : ∀ part ∈ parts, part.IsScalar)
    (scalar' : ∀ part ∈ others, part.IsScalar)
    (alike : Value.sameItems (renderAll parts) (renderAll others) = true) :
    sameAll parts others = true := by
  cases parts with
  | nil =>
      cases others with
      | nil => rfl
      | cons other others => cases alike
  | cons part parts =>
      cases others with
      | nil => cases alike
      | cons other others =>
          obtain ⟨first, rest⟩ := List.forall_mem_cons.mp scalar
          obtain ⟨first', rest'⟩ := List.forall_mem_cons.mp scalar'
          rw [renderAll, renderAll, Value.sameItems, Bool.and_eq_true] at alike
          rw [sameAll, same_of_render part other first first' alike.1,
            sameAll_of_render parts others rest rest' alike.2]
          rfl
termination_by structural parts
end

/-- Predicates of any depth that compare with scalars and are rendered to the same are the same, and
hold of the same documents; what a search text asks for compares with scalars. -/
theorem renderings_tell_predicates_apart :
    (∀ p q : Predicate, p.IsScalar → q.IsScalar → p.render.same q.render = true →
      p.same q = true ∧ ∀ document, p.holds document = q.holds document) ∧
    ∀ today text expression, Search.read today text = .ok expression →
      ∀ predicate ∈ expression.predicate, predicate.IsScalar := by
  refine ⟨fun p q scalar scalar' alike => ?_, fun _ _ _ done => Search.isScalar_read done⟩
  have same := same_of_render p q scalar scalar' alike
  exact ⟨same, fun document => holds_of_same document p q scalar same⟩

/-- A choice between a field that is missing and one that is no zero, both under names of the
dialect. -/
def oddlyNamed (negative : Bool) : Predicate :=
  .any [.absent "$or",
    .not (.equals "$and" (.number (.double ⟨negative, Double.zero.rank, Double.zero.finite⟩)))]

theorem zeros_not_told_apart :
    (oddlyNamed false).IsScalar ∧ (oddlyNamed true).IsScalar ∧
      (oddlyNamed false).render.same (oddlyNamed true).render = true ∧
      (oddlyNamed false).same (oddlyNamed true) = true ∧
      (∀ document, (oddlyNamed false).holds document = (oddlyNamed true).holds document) ∧
      (∃ expression, Search.read ⟨2020, 6, 1⟩ "customerName=Acme" = .ok expression ∧
        ∀ predicate ∈ expression.predicate, predicate.IsScalar) := by
  obtain ⟨apart, scalars⟩ := renderings_tell_predicates_apart
  have kind : Search.kindOf? "customerName" = some .string := by decide
  have read : Search.read ⟨2020, 6, 1⟩ (Search.equality "customerName" "Acme") =
      .ok ⟨some (.equals "customerName" (.string "Acme")), []⟩ :=
    Search.read_equality _ kind (by decide) (Search.coerce_string kind _)
  have scalar : ∀ negative, (oddlyNamed negative).IsScalar := by decide
  have alike : (oddlyNamed false).render.same (oddlyNamed true).render = true := by decide
  obtain ⟨same, holds⟩ := apart _ _ (scalar false) (scalar true) alike
  exact ⟨scalar false, scalar true, alike, same, holds, _, read, scalars _ _ _ read⟩

/-- An object could be taken for an operator. -/
example : (Predicate.equals "categories.count" (.field "$gt" (.int 3))).render =
    (Predicate.compares "categories.count" .greater (.int 3)).render := rfl

end Predicate

end Engagements
