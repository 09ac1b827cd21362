import Engagements.Proofs.Path.Values
import Engagements.Proofs.Projection.Merging

/-!
The values at a path, and values side by side along it: what one segment of the path tells about two
values merged, and from it what the whole path does.
-/
namespace Engagements.Value

/-- The part along a path has the values that are there. -/
theorem valuesAt_pickSegments (value : Value) (path : List String) :
    (value.pickSegments path).toList.flatMap (valuesAt · path) = value.valuesAt path := by
  induction path generalizing value with
  | nil =>
      rw [pickSegments_nil]
      exact List.append_nil _
  | cons name rest ih =>
      have inObject : ∀ fields : Fields,
          ((object fields).pickSegments (name :: rest)).toList.flatMap (valuesBelow name rest) =
            (object fields).valuesBelow name rest := by
        intro fields
        rw [pickSegments_object, valuesBelow, field?]
        cases held : Fields.get? fields name with
        | none => rfl
        | some inner =>
            rw [Option.bind_some, Option.toList_some, List.flatMap_singleton, ← ih inner]
            cases inner.pickSegments rest <;> simp [valuesBelow, field?, Fields.get?]
      cases value with
      | object fields =>
          rw [valuesAt_object, ← inObject fields]
          refine List.flatMap_congr fun part member => ?_
          rw [pickSegments_object, Option.mem_toList, Option.map_eq_some_iff] at member
          obtain ⟨inner, _, rfl⟩ := member
          exact valuesAt_object _ name rest
      | array items =>
          rw [pickSegments_array, Option.toList_some, List.flatMap_singleton, valuesAt_array,
            valuesAt_array]
          induction items with
          | nil => rfl
          | cons item items tail =>
              rw [List.flatMap_cons, ← tail, List.filterMap_cons]
              cases item with
              | object fields =>
                  rw [← inObject fields]
                  cases picked : (object fields).pickSegments (name :: rest) <;>
                    simp [pickItem, isObject, picked]
              | _ => rfl
      | _ =>
          rw [valuesAt_cons]
          rfl

/-! Two values side by side, one segment of a path after another. -/

/-- Two values are related, or they are arrays whose items are. -/
inductive Itemwise (P : Value → Value → Prop) : Value → Value → Prop where
  | one {value other : Value} (here : P value other) : Itemwise P value other
  | items {items others : List Value} (each : List.Forall₂ P items others) :
      Itemwise P (array items) (array others)

theorem Itemwise.imp {P Q : Value → Value → Prop} (weaken : ∀ value other, P value other →
    Q value other) {value other : Value} (related : Itemwise P value other) :
    Itemwise Q value other := by
  cases related with
  | one here => exact .one (weaken _ _ here)
  | items each => exact .items (each.imp weaken)

theorem Itemwise.flip {P : Value → Value → Prop} {value other : Value}
    (related : Itemwise (fun other value => P value other) other value) :
    Itemwise P value other := by
  cases related with
  | one here => exact .one here
  | items each => exact .items each.flip

/-- What two objects hold in a field. -/
def AtField (name : String) (R : Option Value → Option Value → Prop) (value other : Value) : Prop :=
  ∃ fields others, value = object fields ∧ other = object others ∧
    R (Fields.get? fields name) (Fields.get? others name)

/-- What two objects hold in a field, or the objects of two arrays of one length. -/
abbrev AtStep (name : String) (R : Option Value → Option Value → Prop) : Value → Value → Prop :=
  Itemwise (AtField name R)

section Merge

variable {name : String} {R S T : Option Value → Option Value → Prop}

theorem atField_merge
    (combine : ∀ a b c, (∀ part, b = some part → part.Distinct) → R a c → S b c →
      T (mergeField a b) c)
    {value part whole : Value} (distinct : part.Distinct) (one : AtField name R value whole)
    (two : AtField name S part whole) : AtField name T (value.merge part) whole := by
  obtain ⟨fields, wholes, rfl, rfl, first⟩ := one
  obtain ⟨parts, others, rfl, same, second⟩ := two
  cases same
  refine ⟨mergeFields fields parts, wholes, rfl, rfl, ?_⟩
  rw [get?_mergeFields fields distinct.names]
  exact combine _ _ _ (fun _ held => distinct.get? held) first second

/-- What holds of two values beside a third one holds of both merged, if it does so field by
field. -/
theorem atStep_merge
    (combine : ∀ a b c, (∀ part, b = some part → part.Distinct) → R a c → S b c →
      T (mergeField a b) c)
    {value part whole : Value} (distinct : part.Distinct) (one : AtStep name R value whole)
    (two : AtStep name S part whole) : AtStep name T (value.merge part) whole := by
  cases one with
  | one held =>
      cases two with
      | one held' => exact .one (atField_merge combine distinct held held')
      | items each =>
          obtain ⟨_, _, _, same, _⟩ := held
          cases same
  | items each =>
      rename_i items wholes
      cases two with
      | one held =>
          obtain ⟨_, _, _, same, _⟩ := held
          cases same
      | items each' =>
          rename_i parts
          rw [merge_array (each.length_eq.trans each'.length_eq.symm)]
          refine .items ?_
          replace distinct := distinct.items
          induction each generalizing parts with
          | nil =>
              cases each'
              exact .nil
          | cons here _ ih =>
              cases each' with
              | cons here' each' =>
                  obtain ⟨first, later⟩ := List.forall_mem_cons.mp distinct
                  exact .cons (atField_merge combine first here here') (ih each' later)

end Merge

/-- Both fields are there, and what they hold is related. -/
def Both (R : Value → Value → Prop) (held here : Option Value) : Prop :=
  ∃ old new, held = some old ∧ here = some new ∧ R old new

/-- The second field is there, and what the first one may hold is related to it. -/
def Beneath (R : Value → Value → Prop) (held here : Option Value) : Prop :=
  ∃ new, here = some new ∧ ∀ old, held = some old → R old new

/-- A value agrees with another one along a path. -/
def Along : List String → Value → Value → Prop
  | [], value, whole => value = whole
  | name :: rest, value, whole => AtStep name (Both (Along rest)) value whole

/-- As far as a value goes along a path on which another one lies, both are related at its end. -/
def Beside (R : Value → Value → Prop) : List String → Value → Value → Prop
  | [], value, whole => R value whole
  | name :: rest, value, whole => AtStep name (Beneath (Beside R rest)) value whole

/-- A part that makes no difference to a value. -/
def AbsorbedBy (part value : Value) : Prop := value.merge part = value

/-- A part that is merged in along a path is there whole if nothing else was. -/
theorem along_merge_of_beside {path : List String} {value part whole : Value}
    (distinct : part.Distinct) (before : Beside Eq path value whole)
    (added : Along path part whole) : Along path (value.merge part) whole := by
  induction path generalizing value part whole with
  | nil =>
      obtain rfl : value = whole := before
      obtain rfl : part = value := added
      exact merge_self distinct
  | cons name rest ih =>
      refine atStep_merge (fun a b c distinct before added => ?_) distinct before added
      obtain ⟨old, new, rfl, rfl, along⟩ := added
      obtain ⟨new', same, beside⟩ := before
      cases same
      cases a with
      | none => exact ⟨old, new, rfl, rfl, along⟩
      | some first =>
          exact ⟨_, new, rfl, rfl, ih (distinct old rfl) (beside first rfl) along⟩

/-- What is there along a path stays if what is merged in is absorbed at its end. -/
theorem along_merge_of_absorbed {path : List String} {value part whole : Value}
    (distinct : part.Distinct) (before : Along path value whole)
    (added : Beside AbsorbedBy path part whole) : Along path (value.merge part) whole := by
  induction path generalizing value part whole with
  | nil =>
      obtain rfl : value = whole := before
      exact added
  | cons name rest ih =>
      refine atStep_merge (fun a b c distinct before added => ?_) distinct before added
      obtain ⟨old, new, rfl, rfl, along⟩ := before
      obtain ⟨new', same, beside⟩ := added
      cases same
      cases b with
      | none => exact ⟨old, new, rfl, rfl, along⟩
      | some part =>
          exact ⟨_, new, rfl, rfl, ih (distinct part rfl) along (beside part rfl)⟩

theorem beside_merge {path : List String} {value part whole : Value} (distinct : part.Distinct)
    (before : Beside Eq path value whole) (added : Beside Eq path part whole) :
    Beside Eq path (value.merge part) whole := by
  induction path generalizing value part whole with
  | nil =>
      obtain rfl : value = whole := before
      obtain rfl : part = value := added
      exact merge_self distinct
  | cons name rest ih =>
      refine atStep_merge (fun a b c distinct before added => ?_) distinct before added
      obtain ⟨new, rfl, beside⟩ := before
      obtain ⟨new', same, beside'⟩ := added
      cases same
      refine ⟨new, rfl, fun old held => ?_⟩
      cases a with
      | none =>
          cases b with
          | none => cases held
          | some part => exact beside' old held
      | some first =>
          cases b with
          | none => exact beside old held
          | some part =>
              cases held
              exact ih (distinct part rfl) (beside first rfl) (beside' part rfl)

theorem valuesBelow_of_atField {name : String} {rest : List String} {value whole : Value}
    (ih : ∀ {value whole : Value}, Along rest value whole →
      value.valuesAt rest = whole.valuesAt rest)
    (held : AtField name (Both (Along rest)) value whole) :
    value.valuesBelow name rest = whole.valuesBelow name rest := by
  obtain ⟨fields, wholes, rfl, rfl, old, new, first, second, along⟩ := held
  simp only [valuesBelow, field?, first, second, Option.toList_some, List.flatMap_singleton]
  exact ih along

theorem valuesAt_of_along {path : List String} {value whole : Value}
    (along : Along path value whole) : value.valuesAt path = whole.valuesAt path := by
  induction path generalizing value whole with
  | nil =>
      obtain rfl : value = whole := along
      rfl
  | cons name rest ih =>
      cases along with
      | one held =>
          have same := valuesBelow_of_atField ih held
          obtain ⟨fields, wholes, rfl, rfl, _⟩ := held
          rw [valuesAt_object, valuesAt_object, same]
      | items each =>
          rw [valuesAt_array, valuesAt_array]
          induction each with
          | nil => rfl
          | cons here _ tail =>
              rw [List.flatMap_cons, List.flatMap_cons, valuesBelow_of_atField ih here, tail]

end Engagements.Value
