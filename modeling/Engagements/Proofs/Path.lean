import Engagements.Predicate
import Engagements.Proofs.Fields
import Engagements.Proofs.Text

/-!
What a dotted path reaches and changes, seen from the first field on it.
-/
namespace Engagements

theorem segments_ne_nil (path : String) : segments path ≠ [] := Text.split_ne_nil '.' path

theorem segments_injective {path other : String} (same : segments path = segments other) :
    path = other := Text.split_injective same

theorem segments_eq_cons {path name : String} (begins : (segments path).head? = some name) :
    segments path = name :: (segments path).tail := List.eq_cons_of_mem_head? begins

theorem segments_of_dotless {name : String} (dotless : '.' ∉ name.toList) :
    segments name = [name] := by
  rw [segments, Text.split, Text.splitChars_of_absent dotless, List.map_singleton,
    String.ofList_toList]

theorem segments_below {name : String} (dotless : '.' ∉ name.toList) (rest : String) :
    segments (name ++ "." ++ rest) = name :: segments rest := by
  have chars : (name ++ "." ++ rest).toList = name.toList ++ '.' :: rest.toList := by simp
  rw [segments, Text.split, chars, Text.splitChars_append dotless, List.map_cons,
    String.ofList_toList]
  rfl

theorem dotless_of_mem_segments {path segment : String} (inside : segment ∈ segments path) :
    '.' ∉ segment.toList := by
  obtain ⟨piece, member, rfl⟩ := List.mem_map.mp inside
  rw [String.toList_ofList]
  exact Text.not_mem_of_mem_splitChars member

/-- What a path begins with, segment by segment, is a path. -/
theorem exists_segments_eq {path : String} {front : List String} (nonempty : front ≠ [])
    (leads : front <+: segments path) : ∃ above, segments above = front := by
  have dotless : ∀ piece ∈ front.map String.toList, '.' ∉ piece := by
    intro piece member
    obtain ⟨segment, inside, rfl⟩ := List.mem_map.mp member
    exact dotless_of_mem_segments (leads.subset inside)
  refine ⟨String.ofList (['.'].intercalate (front.map String.toList)), ?_⟩
  rw [segments, Text.split, String.toList_ofList, Text.splitChars_eq_splitOn,
    List.splitOn_intercalate '.' dotless (by simpa using nonempty), List.map_map]
  simp

/-- A path lies under another one if its segments begin with those of the other. -/
theorem isUnder_iff_segments (path container : String) :
    isUnder path container = true ↔ segments container <+: segments path := by
  rw [segments, segments, Text.split, Text.split,
    List.prefix_map_iff_of_injective fun _ _ => String.ofList_inj.mp, Text.splitChars_prefix_iff,
    isUnder, Bool.or_eq_true, beq_iff_eq, List.isPrefixOf_iff_prefix, String.toList_inj]

/-- A path lies under a name if it begins with it as a segment. -/
theorem isUnder_iff {name : String} (dotless : '.' ∉ name.toList) (path : String) :
    isUnder path name = true ↔ (segments path).head? = some name := by
  obtain ⟨first, rest, split⟩ := List.exists_cons_of_ne_nil (segments_ne_nil path)
  rw [isUnder_iff_segments, segments_of_dotless dotless, split]
  simp [eq_comm]

namespace Document

/-- What stands in a field once a value is set below it at the given segments. -/
def placed (old : Option Value) (below : List String) (value : Value) : Value :=
  match below with
  | [] => value
  | below => .object (setSegments (fieldsOrEmpty old) below value)

theorem placed_of_ne_nil {below : List String} (nonempty : below ≠ []) (old : Option Value)
    (value : Value) :
    placed old below value = .object (setSegments (fieldsOrEmpty old) below value) := by
  cases below with
  | nil => exact absurd rfl nonempty
  | cons name below => rfl

theorem setSegments_cons (document : Document) (name : String) (below : List String)
    (value : Value) :
    setSegments document (name :: below) value =
      Fields.insert document name (placed (Fields.get? document name) below value) := by
  cases below <;> rfl

/-- Setting a path changes the first field on it and no other. -/
theorem get?_set (document : Document) (path name : String) (value : Value) :
    Fields.get? (document.set path value) name =
      if (segments path).head? = some name then
        some (placed (Fields.get? document name) (segments path).tail value)
      else Fields.get? document name := by
  rw [set]
  cases split : segments path with
  | nil => exact absurd split (segments_ne_nil path)
  | cons first below =>
      rw [setSegments_cons, Fields.get?_insert]
      by_cases same : name = first
      · simp [same]
      · simp [same, Ne.symm same]

theorem nodup_setSegments {document : Document} (distinct : (Fields.names document).Nodup)
    (path : List String) (value : Value) :
    (Fields.names (setSegments document path value)).Nodup := by
  cases path with
  | nil => exact distinct
  | cons name below =>
      rw [setSegments_cons]
      exact Fields.nodup_insert distinct name _

/-- Of two values that a path is set to one after the other only the second is left. -/
theorem setSegments_again (document : Document) (path : List String) (value other : Value) :
    setSegments (setSegments document path value) path other = setSegments document path other := by
  induction path generalizing document with
  | nil => rfl
  | cons name rest ih =>
      rw [setSegments_cons, setSegments_cons, setSegments_cons, Fields.get?_insert_self,
        Fields.insert_insert]
      cases rest with
      | nil => rfl
      | cons next rest =>
          -- Below the first field the second value meets the object that the first one made.
          exact congrArg (fun below => Fields.insert document name (.object below)) (ih _)

end Document

namespace Value

theorem getField_eq (fields : Fields) (segment : String) (rest : List String) :
    getField fields segment rest = (Fields.get? fields segment).bind (·.getSegments rest) := by
  induction fields with
  | nil => rfl
  | cons field fields ih =>
      obtain ⟨name, value⟩ := field
      rw [getField, Fields.get?]
      split
      · rfl
      · exact ih

/-- Whether a condition of equality finds a text in a field: as its value or among its items. -/
def offers (text : String) : Value → Bool
  | string s => s == text
  | array items => items.any (· == .string text)
  | _ => false

theorem agrees_string (value : Value) (text : String) :
    value.agrees (.string text) = (value == .string text) := by
  cases value <;> simp [agrees, same, BEq.beq]

theorem candidates_field (document : Document) {name : String} (single : segments name = [name]) :
    (Value.object document).candidates name =
      (Fields.get? document name).toList.flatMap fun
        | array items => items ++ [array items]
        | other => [other] := by
  have reached : (Value.object document).resolve name = (Fields.get? document name).toList := by
    simp [resolve, single, resolveSegments, step, field?]
  exact congrArg (List.flatMap _) reached

theorem get?_field (document : Document) {name : String} (single : segments name = [name]) :
    (Value.object document).get? name = Fields.get? document name := by
  rw [get?, single, getSegments, getField_eq]
  cases Fields.get? document name with
  | none => rfl
  | some value => cases value <;> rfl

theorem getSegments_nil (value : Value) : value.getSegments [] = some value := by
  cases value <;> rfl

/-- Objects lie on a path into a value, and a given value at its end. -/
inductive Leads (goal : Value) : Value → List String → Prop where
  | goal : Leads goal goal []
  | field {fields : Fields} {name : String} {inner : Value} {rest : List String}
      (held : Fields.get? fields name = some inner) (leads : Leads goal inner rest) :
      Leads goal (object fields) (name :: rest)

theorem Leads.getSegments {goal value : Value} {path : List String}
    (leads : Leads goal value path) : value.getSegments path = some goal := by
  induction leads with
  | goal => exact getSegments_nil goal
  | field held leads ih => rw [Value.getSegments, getField_eq, held, Option.bind_some, ih]

theorem leads_setSegments (document : Document) {path : List String} (nonempty : path ≠ [])
    (goal : Value) : Leads goal (object (document.setSegments path goal)) path := by
  induction path generalizing document with
  | nil => exact absurd rfl nonempty
  | cons name rest ih =>
      rw [Document.setSegments_cons]
      refine .field (Fields.get?_insert_self _ _ _) ?_
      cases rest with
      | nil => exact .goal
      | cons next rest => exact ih _ (List.cons_ne_nil _ _)

/-- A path that was set reads as what it was set to. -/
theorem get?_set_self (document : Document) (path : String) (value : Value) :
    (object (document.set path value)).get? path = some value :=
  (leads_setSegments document (segments_ne_nil path) value).getSegments

theorem resolveSegments_nil (below : List String) : resolveSegments [] below = [] := by
  induction below with
  | nil => rfl
  | cons segment below ih => exact ih

/-- Where no array is passed, a path reaches what it leads to and nothing else. -/
theorem resolveSegments_of_getSegments {value : Value} {below : List String}
    (flat : ∀ items, value.getSegments below ≠ some (array items)) :
    resolveSegments [value] below = (value.getSegments below).toList := by
  induction below generalizing value with
  | nil =>
      rw [getSegments_nil]
      rfl
  | cons segment below ih =>
      rw [resolveSegments, List.flatMap_singleton]
      cases value with
      | array items => exact absurd rfl (flat _)
      | object fields =>
          rw [getSegments, getField_eq] at flat ⊢
          rw [step, field?]
          cases held : Fields.get? fields segment with
          | none => exact resolveSegments_nil below
          | some value =>
              rw [held] at flat
              exact ih flat
          all_goals exact nofun
      | _ => exact resolveSegments_nil below

theorem candidates_of_get? {value : Value} {path : String}
    (flat : ∀ items, value.get? path ≠ some (array items)) :
    value.candidates path = (value.get? path).toList := by
  rw [candidates, resolve, resolveSegments_of_getSegments flat, ← get?]
  cases found : value.get? path with
  | none => rfl
  | some reached =>
      cases reached with
      | array items => exact absurd found (flat items)
      | _ => rfl

/-! A path into a document looks at one of its fields only. -/

theorem get?_object (document : Document) (path : String) :
    (object document).get? path =
      ((segments path).head?.bind (Fields.get? document)).bind
        (·.getSegments (segments path).tail) := by
  obtain ⟨name, below, split⟩ := List.exists_cons_of_ne_nil (segments_ne_nil path)
  rw [get?, split, getSegments, getField_eq]
  rfl

/-- A value as a predicate looks at it: an array by its items and as it stands. -/
def spread : Value → List Value
  | array items => items ++ [array items]
  | other => [other]

/-- What a predicate looks at below the value of a field. -/
def candidatesBelow (value : Option Value) (below : List String) : List Value :=
  (resolveSegments value.toList below).flatMap spread

theorem candidates_object (document : Document) {path name : String}
    (begins : (segments path).head? = some name) :
    (object document).candidates path =
      candidatesBelow (Fields.get? document name) (segments path).tail := by
  have split := segments_eq_cons begins
  have first : [object document].flatMap (·.step name) = (Fields.get? document name).toList := by
    simp [step, field?]
  rw [candidates, resolve, split, resolveSegments, first, List.tail_cons, candidatesBelow]
  rfl

theorem flatMap_subset {α β : Type} (f : α → List β) {some more : List α} (within : some ⊆ more) :
    some.flatMap f ⊆ more.flatMap f := by
  intro made inside
  obtain ⟨source, member, here⟩ := List.mem_flatMap.mp inside
  exact List.mem_flatMap.mpr ⟨source, within member, here⟩

theorem resolveSegments_subset {values others : List Value} (within : values ⊆ others)
    (below : List String) : resolveSegments values below ⊆ resolveSegments others below := by
  induction below generalizing values others with
  | nil => exact within
  | cons segment below ih =>
      exact ih (flatMap_subset _ within)

/-- What is looked at below an item is looked at below its array. -/
theorem candidatesBelow_item {items : List Value} {item : Value} (member : item ∈ items)
    (flat : ∀ nested, item ≠ array nested) (below : List String) :
    candidatesBelow (some item) below ⊆ candidatesBelow (some (array items)) below := by
  cases below with
  | nil =>
      have alone : item.spread = [item] := by
        cases item with
        | array nested => exact absurd rfl (flat nested)
        | _ => rfl
      intro value inside
      have same : value = item := by simpa [candidatesBelow, resolveSegments, alone] using inside
      simp [candidatesBelow, resolveSegments, spread, same, member]
  | cons segment below =>
      have step : [item].flatMap (·.step segment) ⊆ [array items].flatMap (·.step segment) := by
        have single : item.step segment = (item.field? segment).toList := by
          cases item with
          | array nested => exact absurd rfl (flat nested)
          | _ => rfl
        intro value inside
        simp only [List.flatMap_singleton, single, Option.mem_toList] at inside
        simp only [List.flatMap_singleton, Value.step, List.mem_filterMap]
        exact ⟨item, member, inside⟩
      exact flatMap_subset _ (resolveSegments_subset step below)

end Value

end Engagements
