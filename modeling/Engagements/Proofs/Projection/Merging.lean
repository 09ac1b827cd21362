import Engagements.Proofs.Projection.Inclusion
import Engagements.Proofs.Value
import Mathlib.Data.List.Forall2

/-!
Merging one part into another, field by field and item by item. Two parts fit where the merge comes
upon no two arrays of different lengths and upon no two values of different kinds.
-/
namespace Engagements.Value

/-- What a field holds once a part is merged into it. -/
def mergeField : Option Value → Option Value → Option Value
  | old, none => old
  | none, some value => some value
  | some old, some value => some (old.merge value)

theorem get?_mergeFields (fields : Fields) {others : Fields} (distinct : others.names.Nodup)
    (name : String) :
    Fields.get? (mergeFields fields others) name =
      mergeField (Fields.get? fields name) (Fields.get? others name) := by
  induction others generalizing fields with
  | nil => rfl
  | cons field others ih =>
      obtain ⟨key, value⟩ := field
      simp only [Fields.names, List.map_cons, List.nodup_cons] at distinct
      rw [mergeFields, ih _ distinct.2, Fields.get?_insert, Fields.get?]
      by_cases same : key = name
      · subst same
        have absent : Fields.get? others key = none :=
          (Fields.get?_eq_none_iff others key).mpr distinct.1
        rw [absent, if_pos rfl, if_pos rfl]
        cases Fields.get? fields key <;> rfl
      · rw [if_neg (Ne.symm same), if_neg same]

theorem mergeItems_eq (items others : List Value) :
    mergeItems items others = List.zipWith merge items others := by
  induction items generalizing others with
  | nil => cases others <;> rfl
  | cons item items ih =>
      cases others with
      | nil => rfl
      | cons other others => rw [mergeItems, ih, List.zipWith_cons_cons]

theorem merge_array {items others : List Value} (same : items.length = others.length) :
    (array items).merge (array others) = array (List.zipWith merge items others) := by
  rw [merge, if_pos same, mergeItems_eq]

/-- A part of which every field is absorbed changes nothing. -/
theorem mergeFields_of_absorbed {fields part : Fields}
    (absorbed : ∀ field ∈ part, ∃ old, Fields.get? fields field.1 = some old ∧
      old.merge field.2 = old) : mergeFields fields part = fields := by
  induction part with
  | nil => rfl
  | cons field part ih =>
      obtain ⟨name, value⟩ := field
      obtain ⟨⟨old, held, same⟩, later⟩ := List.forall_mem_cons.mp absorbed
      simp only [mergeFields, held, same]
      rw [Fields.insert_of_get? held]
      exact ih later

theorem zipWith_merge_of_absorbed {items others : List Value}
    (absorbed : List.Forall₂ (fun item other => item.merge other = item) items others) :
    List.zipWith merge items others = items := by
  induction absorbed with
  | nil => rfl
  | cons here _ ih => rw [List.zipWith_cons_cons, here, ih]

theorem merge_self {value : Value} (distinct : value.Distinct) : value.merge value = value := by
  induction distinct with
  | null | bool _ | number _ | string _ => rfl
  | array each ih =>
      rw [merge_array rfl, zipWith_merge_of_absorbed (List.forall₂_same.mpr ih)]
  | object names each ih =>
      refine congrArg object (mergeFields_of_absorbed fun field member => ?_)
      exact ⟨field.2, Fields.get?_of_mem names member, ih field member⟩

mutual
/-- Whether a part fits another one: arrays of one length, item by item; objects by the fields that
both have; anything else only if it is the same. -/
def fits : Value → Value → Bool
  | object fields, object others => fitsFields fields others
  | array items, array others => fitsItems items others
  | value, other => value == other
termination_by structural _ other => other

def fitsFields (fields : Fields) : Fields → Bool
  | [] => true
  | (name, value) :: others =>
    (match fields.get? name with
      | some existing => fits existing value
      | none => true) && fitsFields fields others
termination_by structural others => others

def fitsItems : List Value → List Value → Bool
  | [], [] => true
  | item :: items, other :: others => fits item other && fitsItems items others
  | _, _ => false
termination_by structural _ others => others
end

theorem fits_object_iff (fields others : Fields) :
    fits (object fields) (object others) = true ↔
      ∀ field ∈ others, ∀ old, Fields.get? fields field.1 = some old →
        fits old field.2 = true := by
  rw [fits]
  induction others with
  | nil => simp [fitsFields]
  | cons field others ih =>
      obtain ⟨name, value⟩ := field
      rw [fitsFields, Bool.and_eq_true, ih, List.forall_mem_cons]
      cases Fields.get? fields name <;> simp

theorem fits_array_iff (items others : List Value) :
    fits (array items) (array others) = true ↔
      List.Forall₂ (fun item other => fits item other = true) items others := by
  rw [fits]
  induction items generalizing others with
  | nil => cases others <;> simp [fitsItems]
  | cons item items ih =>
      cases others with
      | nil => simp [fitsItems]
      | cons other others => rw [fitsItems, Bool.and_eq_true, ih, List.forall₂_cons]

theorem fits_self {value : Value} (distinct : value.Distinct) : fits value value = true := by
  induction distinct with
  | null | bool _ | number _ | string _ => exact beq_self_eq_true _
  | array each ih => exact (fits_array_iff _ _).mpr (List.forall₂_same.mpr ih)
  | object names each ih =>
      refine (fits_object_iff _ _).mpr fun field member old held => ?_
      rw [Fields.get?_of_mem names member, Option.some_inj] at held
      rw [← held]
      exact ih field member

end Engagements.Value
