import Engagements.Proofs.Path.Values

/-!
Paths that go different ways, and what a write to one of them leaves at the other. A write replaces
every array that it meets by an object, so that only an array on the common front of both paths
carries it across.
-/
namespace Engagements

/-- Neither of two paths lies under the other. -/
def Diverge (path other : String) : Prop := isUnder path other = false ∧ isUnder other path = false

instance (path other : String) : Decidable (Diverge path other) :=
  inferInstanceAs (Decidable (_ ∧ _))

/-- After a common front the segments of two paths go on with different names. -/
inductive Parted : List String → List String → Prop where
  | here {name other : String} (different : name ≠ other) (rest rest' : List String) :
      Parted (name :: rest) (other :: rest')
  | later (name : String) {rest rest' : List String} (parted : Parted rest rest') :
      Parted (name :: rest) (name :: rest')

theorem Parted.symm {path other : List String} (parted : Parted path other) :
    Parted other path := by
  induction parted with
  | here different rest rest' => exact .here (Ne.symm different) rest' rest
  | later name parted ih => exact .later name ih

theorem Parted.ne_nil {path other : List String} (parted : Parted path other) : path ≠ [] := by
  cases parted <;> exact List.cons_ne_nil _ _

theorem parted_iff (path other : List String) :
    Parted path other ↔ ¬ path <+: other ∧ ¬ other <+: path := by
  constructor
  · intro parted
    induction parted with
    | here different rest rest' => simp [different, Ne.symm different]
    | later name parted ih => simpa using ih
  · intro apart
    induction path generalizing other with
    | nil => exact absurd other.nil_prefix apart.1
    | cons name rest ih =>
        cases other with
        | nil => exact absurd List.nil_prefix apart.2
        | cons name' rest' =>
            by_cases same : name = name'
            · subst same
              exact .later name (ih rest' (by simpa using apart))
            · exact .here same rest rest'

theorem diverge_iff (path other : String) :
    Diverge path other ↔ Parted (segments path) (segments other) := by
  rw [Diverge, parted_iff, ← isUnder_iff_segments, ← isUnder_iff_segments, Bool.not_eq_true,
    Bool.not_eq_true, and_comm]

namespace Value

theorem Leads.isObject {goal value : Value} {path : List String} (leads : Leads goal value path)
    (nonempty : path ≠ []) : ∃ fields, value = object fields := by
  cases leads with
  | goal => exact absurd rfl nonempty
  | field held leads => exact ⟨_, rfl⟩

/-- A write to a path does not lead another one astray. -/
theorem Leads.setSegments {path other : List String} (parted : Parted path other)
    {document : Document} {goal : Value} (leads : Leads goal (object document) other)
    (value : Value) : Leads goal (object (document.setSegments path value)) other := by
  induction parted generalizing document with
  | here different rest rest' =>
      cases leads with
      | field held leads =>
          rw [Document.setSegments_cons]
          exact .field (by rw [Fields.get?_insert, if_neg (Ne.symm different), held]) leads
  | later name parted ih =>
      cases leads with
      | field held leads =>
          obtain ⟨fields, rfl⟩ := leads.isObject parted.symm.ne_nil
          rw [Document.setSegments_cons, held, Document.placed_of_ne_nil parted.ne_nil]
          exact .field (Fields.get?_insert_self _ _ _) (ih leads)

/-- Two paths into a value pass one array before they part. -/
def SharesArray (value : Value) (path other : List String) : Prop :=
  ∃ way items, way <+: path ∧ way <+: other ∧ value.getSegments way = some (array items)

theorem getSegments_of_array_on {value : Value} {way : List String} {items : List Value}
    (reached : value.getSegments way = some (array items)) (rest : List String) :
    ∃ items, value.getSegments (way ++ rest) = some (array items) := by
  induction way generalizing value with
  | nil =>
      obtain rfl := Option.some.inj ((getSegments_nil value).symm.trans reached)
      cases rest with
      | nil => exact ⟨items, rfl⟩
      | cons segment rest => exact ⟨_, rfl⟩
  | cons segment way ih =>
      cases value with
      | array items => exact ⟨_, rfl⟩
      | object fields =>
          rw [getSegments, getField_eq, Option.bind_eq_some_iff] at reached
          obtain ⟨inner, held, reached⟩ := reached
          rw [List.cons_append, getSegments, getField_eq, held]
          exact ih reached
      | _ => cases reached

theorem SharesArray.symm {value : Value} {path other : List String}
    (shares : SharesArray value path other) : SharesArray value other path := by
  obtain ⟨way, items, first, second, reached⟩ := shares
  exact ⟨way, items, second, first, reached⟩

/-- A path that passes an array leads to one. -/
theorem SharesArray.getSegments {value : Value} {path other : List String}
    (shares : SharesArray value path other) :
    ∃ items, value.getSegments path = some (array items) := by
  obtain ⟨way, items, ⟨rest, rfl⟩, _, reached⟩ := shares
  exact getSegments_of_array_on reached rest

theorem not_sharesArray_of_ne {name other : String} (different : name ≠ other) (fields : Fields)
    (rest rest' : List String) : ¬ SharesArray (object fields) (name :: rest) (other :: rest') := by
  rintro ⟨way, items, first, second, reached⟩
  cases way with
  | nil => cases reached
  | cons segment way =>
      obtain ⟨here, _⟩ := List.cons_prefix_cons.mp first
      obtain ⟨there, _⟩ := List.cons_prefix_cons.mp second
      exact different (here.symm.trans there)

theorem sharesArray_below (fields : Fields) (name : String) (rest rest' : List String) :
    SharesArray (object fields) (name :: rest) (name :: rest') ↔
      ∃ inner, Fields.get? fields name = some inner ∧ SharesArray inner rest rest' := by
  constructor
  · rintro ⟨way, items, first, second, reached⟩
    cases way with
    | nil => cases reached
    | cons segment way =>
        obtain ⟨same, within⟩ := List.cons_prefix_cons.mp first
        obtain ⟨_, within'⟩ := List.cons_prefix_cons.mp second
        rw [same, getSegments, getField_eq, Option.bind_eq_some_iff] at reached
        obtain ⟨inner, held, reached⟩ := reached
        exact ⟨inner, held, way, items, within, within', reached⟩
  · rintro ⟨inner, held, way, items, first, second, reached⟩
    refine ⟨name :: way, items, List.cons_prefix_cons.mpr ⟨rfl, first⟩,
      List.cons_prefix_cons.mpr ⟨rfl, second⟩, ?_⟩
    rw [getSegments, getField_eq, held, Option.bind_some, reached]

theorem not_sharesArray_empty (path other : List String) :
    ¬ SharesArray (object []) path other := by
  rintro ⟨way, items, _, _, reached⟩
  cases way <;> cases reached

/-- A reader that goes along a path from field to field of objects, and finds nothing on in a value
that holds no others. -/
structure FollowsFields {α : Type} (read : Value → List String → α) (nothing : α) : Prop where
  inObject (fields : Fields) (name : String) (rest : List String) :
    read (object fields) (name :: rest) =
      ((Fields.get? fields name).map (read · rest)).getD nothing
  inScalar {value : Value} (plain : value.isScalar = true) (name : String) (rest : List String) :
    read value (name :: rest) = nothing

theorem valuesAt_followsFields : FollowsFields valuesAt [] where
  inObject fields name rest := by
    rw [valuesAt_object, valuesBelow, field?]
    cases Fields.get? fields name <;> simp
  inScalar {value} plain name rest := by
    refine valuesAt_of_step (fun name => ?_) (List.cons_ne_nil _ _)
    cases value with
    | array items => cases plain
    | object fields => cases plain
    | _ => rfl

theorem getSegments_followsFields : FollowsFields getSegments none where
  inObject fields name rest := by
    rw [getSegments, getField_eq]
    cases Fields.get? fields name <;> rfl
  inScalar {value} plain name rest := by
    cases value with
    | array items => cases plain
    | object fields => cases plain
    | _ => rfl

/-- A write to a path leaves what is read at another one, unless both pass one array: nothing is
read there then. -/
theorem FollowsFields.setSegments {α : Type} {read : Value → List String → α} {nothing : α}
    (follows : FollowsFields read nothing) {path other : List String} (parted : Parted path other)
    (document : Document) (value : Value) :
    (¬ SharesArray (object document) path other →
        read (object (document.setSegments path value)) other = read (object document) other) ∧
      (SharesArray (object document) path other →
        read (object (document.setSegments path value)) other = nothing) := by
  induction parted generalizing document with
  | here different rest rest' =>
      refine ⟨fun _ => ?_, fun shares => absurd shares (not_sharesArray_of_ne different _ _ _)⟩
      rw [Document.setSegments_cons, follows.inObject, follows.inObject, Fields.get?_insert,
        if_neg (Ne.symm different)]
  | @later name rest rest' parted ih =>
      obtain ⟨next, others, split⟩ := List.exists_cons_of_ne_nil parted.symm.ne_nil
      -- In place of anything but an object an empty one is made, in which the other path ends.
      have fresh : read (object (Document.setSegments [] rest value)) rest' = nothing := by
        rw [(ih []).1 (not_sharesArray_empty _ _), split, follows.inObject]
        rfl
      rw [Document.setSegments_cons, follows.inObject, follows.inObject, Fields.get?_insert_self,
        Document.placed_of_ne_nil parted.ne_nil, sharesArray_below]
      cases held : Fields.get? document name with
      | none => exact ⟨fun _ => fresh, fun _ => fresh⟩
      | some inner =>
          simp only [Option.some.injEq, exists_eq_left', Option.map_some, Option.getD_some]
          cases inner with
          | object fields => exact ih fields
          | array items =>
              have shares : SharesArray (array items) rest rest' :=
                ⟨[], items, List.nil_prefix, List.nil_prefix, rfl⟩
              exact ⟨fun apart => absurd shares apart, fun _ => fresh⟩
          | _ =>
              refine ⟨fun _ => fresh.trans ?_, fun _ => fresh⟩
              rw [split]
              exact (follows.inScalar rfl next others).symm

end Value

end Engagements
