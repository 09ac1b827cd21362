import Engagements.Value
import Mathlib.Data.List.Nodup
import Mathlib.Tactic.Tauto

/-!
Looking up, adding and overwriting the fields of an object.
-/
namespace Engagements.Fields

theorem get?_insert (fields : Fields) (name other : String) (value : Value) :
    get? (insert fields name value) other =
      if other = name then some value else get? fields other := by
  induction fields with
  | nil => by_cases same : name = other <;> simp [insert, get?, same, eq_comm]
  | cons head tail ih =>
      obtain ⟨key, old⟩ := head
      by_cases here : key = name
      · subst here
        by_cases same : key = other
        · simp [insert, get?, same]
        · simp [insert, get?, same, Ne.symm same]
      · by_cases same : key = other
        · subst same
          simp [insert, get?, here]
        · simp [insert, get?, here, same, ih]

@[simp] theorem get?_insert_self (fields : Fields) (name : String) (value : Value) :
    get? (insert fields name value) name = some value := by
  simp [get?_insert]

theorem mem_of_get? {fields : Fields} {name : String} {value : Value}
    (found : get? fields name = some value) : (name, value) ∈ fields := by
  induction fields with
  | nil => cases found
  | cons head tail ih =>
      obtain ⟨key, old⟩ := head
      by_cases same : key = name
      · simp only [get?, same, if_true, Option.some.injEq] at found
        simp [same, found]
      · simp only [get?, same, if_false] at found
        exact List.mem_cons_of_mem _ (ih found)

theorem get?_isSome_iff (fields : Fields) (name : String) :
    (get? fields name).isSome ↔ name ∈ names fields := by
  induction fields with
  | nil => simp [get?, names]
  | cons head tail ih =>
      obtain ⟨key, old⟩ := head
      by_cases same : key = name
      · simp [get?, names, same]
      · simpa [get?, names, same, Ne.symm same] using ih

theorem get?_eq_none_iff (fields : Fields) (name : String) :
    get? fields name = none ↔ name ∉ names fields := by
  rw [← get?_isSome_iff]
  simp

theorem get?_of_mem {fields : Fields} (distinct : fields.names.Nodup) {name : String}
    {value : Value} (member : (name, value) ∈ fields) : get? fields name = some value := by
  induction fields with
  | nil => cases member
  | cons head tail ih =>
      obtain ⟨key, old⟩ := head
      simp only [names, List.map_cons, List.nodup_cons] at distinct
      rcases List.mem_cons.mp member with here | later
      · cases here
        simp [get?]
      · have different : key ≠ name := by
          intro same
          subst same
          exact distinct.1 (List.mem_map.mpr ⟨_, later, rfl⟩)
        simpa [get?, different] using ih distinct.2 later

theorem names_insert (fields : Fields) (name : String) (value : Value) :
    names (insert fields name value) =
      if name ∈ names fields then names fields else names fields ++ [name] := by
  induction fields with
  | nil => simp [insert, names]
  | cons head tail ih =>
      obtain ⟨key, old⟩ := head
      by_cases same : key = name
      · simp [insert, names, same]
      · simp only [insert, same, if_false, names, List.map_cons, List.mem_cons, Ne.symm same,
          false_or]
        simp only [names] at ih
        by_cases member : name ∈ tail.map Prod.fst <;> simp [ih, member]

theorem nodup_insert {fields : Fields} (distinct : fields.names.Nodup) (name : String)
    (value : Value) : (insert fields name value).names.Nodup := by
  rw [names_insert]
  split
  · exact distinct
  · rename_i absent
    exact List.nodup_append.mpr ⟨distinct, List.nodup_singleton name, by
      intro old member new single same
      rw [List.mem_singleton] at single
      exact absent (single ▸ same ▸ member)⟩

theorem mem_of_mem_insert {fields : Fields} {name : String} {value : Value}
    {entry : String × Value} (member : entry ∈ insert fields name value) :
    entry = (name, value) ∨ entry ∈ fields := by
  induction fields with
  | nil => simpa [insert] using member
  | cons head tail ih =>
      obtain ⟨key, old⟩ := head
      by_cases same : key = name
      · simp only [insert, same, if_true, List.mem_cons] at member
        rcases member with here | later
        · exact Or.inl here
        · exact Or.inr (List.mem_cons_of_mem _ later)
      · simp only [insert, same, if_false, List.mem_cons] at member
        rcases member with here | later
        · exact Or.inr (here ▸ List.mem_cons_self)
        · exact (ih later).imp_right (List.mem_cons_of_mem _)

theorem mem_names_insert (fields : Fields) (name other : String) (value : Value) :
    other ∈ names (insert fields name value) ↔ other = name ∨ other ∈ names fields := by
  rw [names_insert]
  split
  · rename_i member
    constructor
    · exact Or.inr
    · rintro (same | known)
      · exact same ▸ member
      · exact known
  · rw [List.mem_append, List.mem_singleton, or_comm]

theorem insert_of_absent {fields : Fields} {name : String} (absent : name ∉ names fields)
    (value : Value) : insert fields name value = fields ++ [(name, value)] := by
  induction fields with
  | nil => rfl
  | cons head tail ih =>
      obtain ⟨key, old⟩ := head
      simp only [names, List.map_cons, List.mem_cons, not_or] at absent
      rw [insert, if_neg (Ne.symm absent.1), ih absent.2, List.cons_append]

/-- A field that gets what it holds stays as it is. -/
theorem insert_of_get? {fields : Fields} {name : String} {value : Value}
    (held : get? fields name = some value) : insert fields name value = fields := by
  induction fields with
  | nil => cases held
  | cons head tail ih =>
      obtain ⟨key, old⟩ := head
      by_cases same : key = name
      · simp only [get?, same, if_true, Option.some.injEq] at held
        simp [insert, same, held]
      · simp only [get?, same, if_false] at held
        simp [insert, same, ih held]

/-- A field that is set twice holds what it was set to last. -/
theorem insert_insert (fields : Fields) (name : String) (value other : Value) :
    insert (insert fields name value) name other = insert fields name other := by
  induction fields with
  | nil => simp [insert]
  | cons head tail ih =>
      obtain ⟨key, old⟩ := head
      by_cases same : key = name <;> simp [insert, same, ih]

theorem insert_append {fields : Fields} {name : String} (present : name ∈ names fields)
    (value : Value) (others : Fields) :
    insert (fields ++ others) name value = insert fields name value ++ others := by
  induction fields with
  | nil => cases present
  | cons head tail ih =>
      obtain ⟨key, old⟩ := head
      by_cases same : key = name
      · simp [insert, same]
      · have later : name ∈ names tail := by
          rcases List.mem_cons.mp present with here | later
          · exact absurd here.symm same
          · exact later
        simp only [List.cons_append, insert, same, if_false, ih later]

theorem get?_insertAll (fields : Fields) {others : Fields} (distinct : others.names.Nodup)
    (name : String) :
    get? (insertAll fields others) name = (get? others name).or (get? fields name) := by
  induction others generalizing fields with
  | nil => rfl
  | cons head tail ih =>
      obtain ⟨key, value⟩ := head
      simp only [names, List.map_cons, List.nodup_cons] at distinct
      change get? (insertAll (insert fields key value) tail) name = _
      rw [ih _ distinct.2, get?_insert, get?]
      by_cases same : key = name
      · subst same
        have absent : get? tail key = none := (get?_eq_none_iff tail key).mpr distinct.1
        simp [absent]
      · simp [same, Ne.symm same]

theorem get?_insertAll_of_absent (fields : Fields) {others : Fields} {name : String}
    (absent : name ∉ names others) : get? (insertAll fields others) name = get? fields name := by
  induction others generalizing fields with
  | nil => rfl
  | cons head tail ih =>
      obtain ⟨key, value⟩ := head
      simp only [names, List.map_cons, List.mem_cons, not_or] at absent
      change get? (insertAll (insert fields key value) tail) name = _
      rw [ih _ absent.2, get?_insert, if_neg absent.1]

theorem nodup_insertAll {fields : Fields} (distinct : fields.names.Nodup) (others : Fields) :
    (insertAll fields others).names.Nodup := by
  induction others generalizing fields with
  | nil => exact distinct
  | cons head tail ih =>
      obtain ⟨key, value⟩ := head
      exact ih (nodup_insert distinct key value)

theorem mem_of_mem_insertAll {fields others : Fields} {entry : String × Value}
    (member : entry ∈ insertAll fields others) : entry ∈ fields ∨ entry ∈ others := by
  induction others generalizing fields with
  | nil => exact Or.inl member
  | cons head tail ih =>
      obtain ⟨key, value⟩ := head
      rcases ih member with early | late
      · rcases mem_of_mem_insert early with here | before
        · exact Or.inr (here ▸ List.mem_cons_self)
        · exact Or.inl before
      · exact Or.inr (List.mem_cons_of_mem _ late)

theorem mem_names_insertAll (fields others : Fields) (name : String) :
    name ∈ names (insertAll fields others) ↔ name ∈ names fields ∨ name ∈ names others := by
  induction others generalizing fields with
  | nil => simp [insertAll, names]
  | cons head tail ih =>
      obtain ⟨key, value⟩ := head
      change name ∈ names (insertAll (insert fields key value) tail) ↔ _
      rw [ih, mem_names_insert]
      simp only [names, List.map_cons, List.mem_cons]
      tauto

/-- Fields with names of their own are added in the order in which they come. -/
theorem insertAll_of_nodup {fields others : Fields} (distinct : (names (fields ++ others)).Nodup) :
    insertAll fields others = fields ++ others := by
  induction others generalizing fields with
  | nil => simp [insertAll]
  | cons head tail ih =>
      obtain ⟨key, value⟩ := head
      have absent : key ∉ names fields := by
        intro member
        simp only [names, List.map_append, List.map_cons] at distinct member
        exact (List.nodup_append.mp distinct).2.2 key member key List.mem_cons_self rfl
      change insertAll (insert fields key value) tail = _
      rw [insert_of_absent absent, ih (by simpa using distinct), List.append_assoc]
      rfl

theorem nodup_filter {fields : Fields} (distinct : fields.names.Nodup)
    (keep : String × Value → Bool) : Fields.names (fields.filter keep) |>.Nodup :=
  distinct.sublist (List.filter_sublist.map _)

theorem get?_filter (fields : Fields) (keep : String → Bool) (name : String) :
    get? (fields.filter fun field => keep field.1) name =
      if keep name then get? fields name else none := by
  induction fields with
  | nil => simp [get?]
  | cons head tail ih =>
      obtain ⟨key, value⟩ := head
      rw [List.filter_cons]
      by_cases same : key = name
      · subst same
        cases kept : keep key <;> simp [get?, kept, ih]
      · cases keep key <;> simp [get?, same, ih]

theorem get?_perm {fields others : Fields} (distinct : fields.names.Nodup)
    (permuted : fields.Perm others) (name : String) : get? others name = get? fields name := by
  cases found : get? fields name with
  | some value =>
      have distinct' : others.names.Nodup := (permuted.map Prod.fst).nodup_iff.mp distinct
      exact get?_of_mem distinct' (permuted.mem_iff.mp (mem_of_get? found))
  | none =>
      rw [get?_eq_none_iff] at found ⊢
      exact fun member => found ((permuted.map Prod.fst).mem_iff.mpr member)

theorem lastToFront_perm (fields : Fields) : (lastToFront fields).Perm fields := by
  unfold lastToFront
  cases found : fields.getLast? with
  | none => rw [List.getLast?_eq_none_iff.mp found]
  | some last =>
      have split := List.dropLast_append_getLast? last found
      calc (last :: fields.dropLast).Perm (fields.dropLast ++ [last]) :=
            (List.perm_append_singleton last fields.dropLast).symm
        _ = fields := split

/-- The other fields stay, in some order. -/
theorem erase_perm {fields : Fields} (distinct : fields.names.Nodup) (name : String) :
    (erase fields name).Perm (fields.filter fun field => field.1 != name) := by
  induction fields with
  | nil => rfl
  | cons head tail ih =>
      obtain ⟨key, value⟩ := head
      simp only [names, List.map_cons, List.nodup_cons] at distinct
      rw [erase, List.filter_cons]
      by_cases same : key = name
      · subst same
        have others : tail.filter (fun field => field.1 != key) = tail := by
          refine List.filter_eq_self.mpr fun field member => ?_
          have different : field.1 ≠ key := by
            intro again
            exact distinct.1 (List.mem_map.mpr ⟨field, member, again⟩)
          simpa using different
        simpa [others] using lastToFront_perm tail
      · simpa [same] using ih distinct.2

theorem nodup_erase {fields : Fields} (distinct : fields.names.Nodup) (name : String) :
    (erase fields name).names.Nodup :=
  ((erase_perm distinct name).map Prod.fst).nodup_iff.mpr (nodup_filter distinct _)

theorem get?_erase {fields : Fields} (distinct : fields.names.Nodup) (name other : String) :
    get? (erase fields name) other = if other = name then none else get? fields other := by
  rw [get?_perm (nodup_filter distinct _) (erase_perm distinct name).symm,
    get?_filter fields (· != name)]
  by_cases same : other = name <;> simp [same]

end Engagements.Fields
