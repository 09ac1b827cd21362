import Engagements.Proofs.Path
import Engagements.Proofs.Value

/-!
The values at a path, segment by segment.
-/
namespace Engagements.Value

/-- The values that a path reaches, by its segments. -/
def valuesAt (value : Value) (path : List String) : List Value := resolveSegments [value] path

theorem resolveSegments_eq (values : List Value) (path : List String) :
    resolveSegments values path = values.flatMap (valuesAt · path) := by
  induction path generalizing values with
  | nil => exact (List.flatMap_singleton' values).symm
  | cons name rest ih =>
      rw [resolveSegments, ih, List.flatMap_assoc]
      refine List.flatMap_congr fun value _ => ?_
      rw [valuesAt, resolveSegments, List.flatMap_singleton, ih]

theorem valuesAt_cons (value : Value) (name : String) (rest : List String) :
    value.valuesAt (name :: rest) = (value.step name).flatMap (valuesAt · rest) := by
  rw [valuesAt, resolveSegments, List.flatMap_singleton, resolveSegments_eq]

theorem valuesAt_of_step {value : Value} (ends : ∀ name, value.step name = [])
    {path : List String} (nonempty : path ≠ []) : value.valuesAt path = [] := by
  cases path with
  | nil => exact absurd rfl nonempty
  | cons name rest => rw [valuesAt_cons, ends, List.flatMap_nil]

theorem Distinct.field? {value inner : Value} (distinct : value.Distinct) {name : String}
    (held : value.field? name = some inner) : inner.Distinct := by
  cases value with
  | object fields => exact distinct.get? held
  | _ => cases held

theorem Distinct.step {value : Value} (distinct : value.Distinct) (name : String) :
    ∀ inner ∈ value.step name, inner.Distinct := by
  intro inner member
  cases value with
  | array items =>
      obtain ⟨item, inside, held⟩ := List.mem_filterMap.mp member
      exact (distinct.items item inside).field? held
  | object fields =>
      have held : (Value.object fields).field? name = some inner := Option.mem_toList.mp member
      exact distinct.field? held
  | _ => cases member

/-- The values that a path reaches below a field of a value. -/
def valuesBelow (name : String) (rest : List String) (value : Value) : List Value :=
  (value.field? name).toList.flatMap (valuesAt · rest)

theorem valuesAt_object (fields : Fields) (name : String) (rest : List String) :
    (object fields).valuesAt (name :: rest) = (object fields).valuesBelow name rest := by
  rw [valuesAt_cons]
  rfl

theorem valuesAt_array (items : List Value) (name : String) (rest : List String) :
    (array items).valuesAt (name :: rest) = items.flatMap (valuesBelow name rest) := by
  rw [valuesAt_cons, step]
  induction items with
  | nil => rfl
  | cons item items ih =>
      rw [List.flatMap_cons, ← ih, valuesBelow, List.filterMap_cons]
      cases item.field? name <;> simp

end Engagements.Value
