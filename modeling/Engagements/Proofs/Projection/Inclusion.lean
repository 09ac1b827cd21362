import Engagements.Proofs.Projection
import Mathlib.Data.List.Induction

/-!
Projections that include some paths: the parts of a document along these paths, put into one.
-/
namespace Engagements

namespace Value

/-- The part of an item of an array that holds only a path; only objects have one. -/
def pickItem (path : List String) (item : Value) : Option Value :=
  if item.isObject then item.pickSegments path else none

theorem pickField_eq (fields : Fields) (segment : String) (rest : List String) :
    pickField fields segment rest =
      ((Fields.get? fields segment).bind (·.pickSegments rest)).map fun part =>
        object [(segment, part)] := by
  induction fields with
  | nil => rfl
  | cons field fields ih =>
      obtain ⟨name, value⟩ := field
      rw [pickField, Fields.get?]
      split
      · rfl
      · exact ih

theorem pickItems_eq (items : List Value) (path : List String) :
    pickItems items path = items.filterMap (pickItem path) := by
  induction items with
  | nil => rfl
  | cons item items ih =>
      rw [pickItems, ih, List.filterMap_cons, pickItem]
      cases (if item.isObject then item.pickSegments path else none) <;> rfl

theorem pickSegments_nil (value : Value) : value.pickSegments [] = some value := by
  cases value <;> rfl

theorem pickSegments_object (fields : Fields) (segment : String) (rest : List String) :
    (object fields).pickSegments (segment :: rest) =
      ((Fields.get? fields segment).bind (·.pickSegments rest)).map fun part =>
        object [(segment, part)] := by
  rw [pickSegments, pickField_eq]

theorem pickSegments_array (items : List Value) (segment : String) (rest : List String) :
    (array items).pickSegments (segment :: rest) =
      some (array (items.filterMap (pickItem (segment :: rest)))) := by
  rw [pickSegments, pickItems_eq]

/-- The part of an object along a path holds one field, with the part of what the object has there. -/
def PicksField (name : String) (rest : List String) (value part : Value) : Prop :=
  ∃ fields held inner, value = object fields ∧ Fields.get? fields name = some held ∧
    held.pickSegments rest = some inner ∧ part = object [(name, inner)]

theorem picksField_of_object {fields : Fields} {name : String} {rest : List String} {part : Value}
    (picked : (object fields).pickSegments (name :: rest) = some part) :
    PicksField name rest (object fields) part := by
  rw [pickSegments_object, Option.map_eq_some_iff] at picked
  obtain ⟨inner, found, rfl⟩ := picked
  obtain ⟨held, here, picked⟩ := Option.bind_eq_some_iff.mp found
  exact ⟨fields, held, inner, rfl, here, picked, rfl⟩

theorem picksField_of_item {name : String} {rest : List String} {item part : Value}
    (picked : pickItem (name :: rest) item = some part) : PicksField name rest item part := by
  cases item with
  | object fields => exact picksField_of_object picked
  | _ => cases picked

/-- A part is picked from a field of an object, or from the objects in an array. -/
theorem pickSegments_cons {name : String} {rest : List String} {value part : Value}
    (picked : value.pickSegments (name :: rest) = some part) :
    PicksField name rest value part ∨
      ∃ items, value = array items ∧ part = array (items.filterMap (pickItem (name :: rest))) := by
  cases value with
  | object fields => exact Or.inl (picksField_of_object picked)
  | array items =>
      rw [pickSegments_array, Option.some_inj] at picked
      exact Or.inr ⟨items, rfl, picked.symm⟩
  | _ => cases picked

end Value

namespace Projection

/-- Shows some paths, and the identifying field only where it is one of them. -/
def including (names : List String) : Projection := names.foldl keep (drop [] idField)

theorem including_concat (names : List String) (name : String) :
    including (names ++ [name]) = (including names).keep name := by
  rw [including, List.foldl_append]
  rfl

theorem mem_including (names : List String) (selection : String × Selection) :
    selection ∈ including names ↔
      (selection.2 = .kept ∧ selection.1 ∈ names) ∨
        (selection = (idField, .dropped) ∧ idField ∉ names) := by
  induction names using List.reverseRecOn with
  | nil => simp [including, drop, add]
  | append_singleton names name ih =>
      obtain ⟨path, kind⟩ := selection
      rw [including_concat, keep, add, List.mem_append, List.mem_filter, ih]
      simp only [List.mem_append, List.mem_singleton, Prod.mk.injEq, bne_iff_ne, not_or]
      constructor
      · rintro (⟨⟨kept, inside⟩ | ⟨⟨rfl, dropped⟩, absent⟩, other⟩ | ⟨rfl, kept⟩)
        · exact Or.inl ⟨kept, Or.inl inside⟩
        · exact Or.inr ⟨⟨rfl, dropped⟩, absent, other⟩
        · exact Or.inl ⟨kept, Or.inr rfl⟩
      · rintro (⟨kept, inside⟩ | ⟨⟨rfl, dropped⟩, absent, other⟩)
        · by_cases same : path = name
          · exact Or.inr ⟨same, kept⟩
          · exact Or.inl ⟨Or.inl ⟨kept, inside.resolve_right same⟩, same⟩
        · exact Or.inl ⟨Or.inr ⟨⟨rfl, dropped⟩, absent⟩, other⟩

theorem isInclusive_including (names : List String) :
    (including names).isInclusive = true ↔ names ≠ [] := by
  rw [isInclusive, List.any_eq_true]
  constructor
  · rintro ⟨selection, member, shown⟩ rfl
    rcases (mem_including [] selection).mp member with ⟨_, inside⟩ | ⟨rfl, _⟩
    · cases inside
    · cases shown
  · intro some
    obtain ⟨name, inside⟩ := List.exists_mem_of_ne_nil names some
    exact ⟨(name, .kept), (mem_including names _).mpr (Or.inl ⟨rfl, inside⟩), rfl⟩

theorem dropsId_including (names : List String) :
    (including names).dropsId = true ↔ idField ∉ names := by
  rw [dropsId, List.any_eq_true]
  constructor
  · rintro ⟨selection, member, identifying⟩
    simp only [Bool.and_eq_true, beq_iff_eq] at identifying
    rcases (mem_including names selection).mp member with ⟨kept, _⟩ | ⟨_, absent⟩
    · rw [kept] at identifying
      cases identifying.2
    · exact absent
  · intro absent
    exact ⟨(idField, .dropped), (mem_including names _).mpr (Or.inr ⟨rfl, absent⟩), rfl⟩

/-- The identifying field comes first where it is included. -/
theorem selectedId_including (names : List String) (document : Document) :
    (including names).selectedId document =
      if idField ∈ names then select document [] idField .kept else [] := by
  rw [selectedId]
  by_cases known : idField ∈ names
  · have shown : ¬(including names).dropsId = true :=
      fun drops => (dropsId_including names).mp drops known
    have single : segments idField = [idField] := by decide
    rw [if_neg shown, if_pos known, select, Value.pick, single, Value.pickSegments_object]
    cases Fields.get? document idField with
    | none => rfl
    | some id =>
        rw [Option.bind_some, Value.pickSegments_nil]
        rfl
  · rw [if_pos ((dropsId_including names).mpr known), if_neg known]

/-- Where nothing is included only the identifying field is left out. -/
theorem apply_including_nil (document : Document) :
    (including []).apply document = document.remove idField := rfl

end Projection

end Engagements
