import Engagements.Proofs.Fields
import Mathlib.Data.List.Perm.Subperm

/-!
Equality of values up to the order of fields. Two objects are the same when they hold the same
values under the same names.
-/
namespace Engagements.Value

/-- A value that holds no others. -/
def isScalar : Value → Bool
  | array _ | object _ => false
  | _ => true

/-- The objects inside a value have names of their own. -/
inductive Distinct : Value → Prop where
  | null : Distinct null
  | bool (b : Bool) : Distinct (bool b)
  | number (n : Number) : Distinct (number n)
  | string (s : String) : Distinct (string s)
  | array {items : List Value} (each : ∀ item ∈ items, Distinct item) : Distinct (array items)
  | object {fields : Fields} (names : fields.names.Nodup)
      (each : ∀ field ∈ fields, Distinct field.2) : Distinct (object fields)

theorem Distinct.items {items : List Value} (distinct : (Value.array items).Distinct) :
    ∀ item ∈ items, item.Distinct := by
  cases distinct with
  | array each => exact each

theorem Distinct.names {fields : Fields} (distinct : (Value.object fields).Distinct) :
    fields.names.Nodup := by
  cases distinct with
  | object names each => exact names

theorem Distinct.get? {fields : Fields} (distinct : (Value.object fields).Distinct) {name : String}
    {value : Value} (found : Fields.get? fields name = some value) : value.Distinct := by
  cases distinct with
  | object names each => exact each (name, value) (Fields.mem_of_get? found)

attribute [simp] Distinct.null Distinct.bool Distinct.number Distinct.string

@[simp] theorem distinct_array_iff (items : List Value) :
    (array items).Distinct ↔ ∀ item ∈ items, item.Distinct :=
  ⟨Distinct.items, .array⟩

@[simp] theorem distinct_object_iff (fields : Fields) :
    (object fields).Distinct ↔ fields.names.Nodup ∧ ∀ field ∈ fields, field.2.Distinct := by
  constructor
  · intro distinct
    cases distinct with
    | object names each => exact ⟨names, each⟩
  · rintro ⟨names, each⟩
    exact .object names each

theorem sameFields_iff (fields others : Fields) :
    sameFields fields others = true ↔
      ∀ field ∈ fields, ∃ other, Fields.get? others field.1 = some other ∧
        same field.2 other = true := by
  induction fields with
  | nil => simp [sameFields]
  | cons field fields ih =>
      obtain ⟨name, value⟩ := field
      rw [sameFields, Bool.and_eq_true, ih, List.forall_mem_cons]
      cases Fields.get? others name <;> simp

theorem same_array_map_iff (f : Value → Value) (items : List Value) :
    same (array (items.map f)) (array items) = true ↔
      ∀ item ∈ items, same (f item) item = true := by
  rw [same]
  induction items with
  | nil => simp [sameItems]
  | cons item items ih =>
      rw [List.map_cons, sameItems, Bool.and_eq_true, ih, List.forall_mem_cons]

theorem same_refl {value : Value} (distinct : value.Distinct) : same value value = true := by
  induction distinct with
  | null => rfl
  | bool b => simp [same]
  | number n => cases n <;> simp [same, Number.same]
  | string s => simp [same]
  | array each ih =>
      have mapped := (same_array_map_iff id _).mpr ih
      rwa [List.map_id] at mapped
  | object names each ih =>
      rw [same, beq_self_eq_true, Bool.true_and, sameFields_iff]
      intro field member
      exact ⟨field.2, Fields.get?_of_mem names member, ih field member⟩

/-- Two fields are both missing or hold the same. -/
abbrev SameField : Option Value → Option Value → Prop := Option.Rel fun a b => same a b = true

theorem SameField.isSome {first second : Option Value} (alike : SameField first second) :
    first.isSome = second.isSome := by
  cases alike <;> rfl

theorem sameField_refl {fields : Fields} (distinct : (object fields).Distinct) (name : String) :
    SameField (Fields.get? fields name) (Fields.get? fields name) := by
  cases found : Fields.get? fields name with
  | none => exact Option.Rel.none
  | some value => exact Option.Rel.some (same_refl (distinct.get? found))

theorem same_object_iff {fields others : Fields} (names : fields.names.Nodup)
    (names' : others.names.Nodup) :
    same (object fields) (object others) = true ↔
      ∀ name, SameField (Fields.get? fields name) (Fields.get? others name) := by
  rw [same, Bool.and_eq_true, beq_iff_eq, sameFields_iff]
  constructor
  · rintro ⟨length, found⟩ name
    have within : fields.names ⊆ others.names := by
      intro known member
      obtain ⟨field, inside, named⟩ := List.mem_map.mp member
      obtain ⟨other, here, _⟩ := found field inside
      exact named ▸ List.mem_map.mpr ⟨_, Fields.mem_of_get? here, rfl⟩
    have permuted : fields.names.Perm others.names :=
      (names.subperm within).perm_of_length_le (by simp [Fields.names, length])
    cases here : Fields.get? fields name with
    | some value =>
        obtain ⟨other, there, alike⟩ := found (name, value) (Fields.mem_of_get? here)
        rw [there]
        exact Option.Rel.some alike
    | none =>
        have missing : Fields.get? others name = none := by
          rw [Fields.get?_eq_none_iff] at here ⊢
          exact fun member => here (permuted.mem_iff.mpr member)
        rw [missing]
        exact Option.Rel.none
  · intro each
    have permuted : fields.names.Perm others.names := by
      refine (List.perm_ext_iff_of_nodup names names').mpr fun name => ?_
      rw [← Fields.get?_isSome_iff, ← Fields.get?_isSome_iff, (each name).isSome]
    refine ⟨by simpa [Fields.names] using permuted.length_eq, fun field member => ?_⟩
    have alike := each field.1
    rw [Fields.get?_of_mem names member] at alike
    cases there : Fields.get? others field.1 with
    | none =>
        rw [there] at alike
        cases alike
    | some other =>
        rw [there] at alike
        cases alike with
        | some same => exact ⟨other, rfl, same⟩

end Engagements.Value
