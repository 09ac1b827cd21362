import Engagements.Proofs.Projection.Inclusion
import Engagements.Proofs.Value

/-!
What an inclusion leaves out: every scalar that it shows lies at or under an included path.
-/
namespace Engagements

namespace Value

/-- A scalar is reached from a value by the names of fields, whatever its places in arrays are. -/
inductive Reaches : Value → List String → Value → Prop where
  | scalar {value : Value} (plain : value.isScalar = true) : Reaches value [] value
  | item {items : List Value} {item : Value} {keys : List String} {scalar : Value}
      (member : item ∈ items) (below : Reaches item keys scalar) : Reaches (array items) keys scalar
  | field {fields : Fields} {name : String} {value : Value} {keys : List String} {scalar : Value}
      (member : (name, value) ∈ fields) (below : Reaches value keys scalar) :
      Reaches (object fields) (name :: keys) scalar

@[simp] theorem reaches_array_iff {items : List Value} {keys : List String} {scalar : Value} :
    (array items).Reaches keys scalar ↔ ∃ item ∈ items, item.Reaches keys scalar := by
  constructor
  · intro reached
    cases reached with
    | scalar plain => cases plain
    | item member below => exact ⟨_, member, below⟩
  · rintro ⟨item, member, below⟩
    exact .item member below

@[simp] theorem reaches_object_iff {fields : Fields} {keys : List String} {scalar : Value} :
    (object fields).Reaches keys scalar ↔
      ∃ name value rest, (name, value) ∈ fields ∧ keys = name :: rest ∧
        value.Reaches rest scalar := by
  constructor
  · intro reached
    cases reached with
    | scalar plain => cases plain
    | field member below => exact ⟨_, _, _, member, rfl, below⟩
  · rintro ⟨name, value, rest, member, rfl, below⟩
    exact .field member below

theorem reaches_singleton_iff {name : String} {value : Value} {keys : List String}
    {scalar : Value} :
    (object [(name, value)]).Reaches keys scalar ↔
      ∃ rest, keys = name :: rest ∧ value.Reaches rest scalar := by
  simp

/-- Every scalar in a value lies at or under one of some paths. -/
def Within (names : List String) (value : Value) : Prop :=
  ∀ keys scalar, value.Reaches keys scalar → ∃ name ∈ names, segments name <+: keys

theorem within_object_nil (names : List String) : Within names (object []) := by
  intro keys scalar reached
  simp at reached

theorem reaches_pickSegments {path : List String} {value part : Value}
    (picked : value.pickSegments path = some part) {keys : List String} {scalar : Value}
    (reached : part.Reaches keys scalar) : path <+: keys := by
  induction path generalizing value part keys with
  | nil => exact List.nil_prefix
  | cons name rest ih =>
      have inField : ∀ {value part : Value}, PicksField name rest value part →
          part.Reaches keys scalar → name :: rest <+: keys := by
        rintro value part ⟨fields, held, inner, rfl, _, picked, rfl⟩ reached
        obtain ⟨keys, rfl, below⟩ := reaches_singleton_iff.mp reached
        exact List.cons_prefix_cons.mpr ⟨rfl, ih picked below⟩
      rcases pickSegments_cons picked with field | ⟨items, rfl, rfl⟩
      · exact inField field reached
      · obtain ⟨part, member, below⟩ := reaches_array_iff.mp reached
        obtain ⟨item, _, picked⟩ := List.mem_filterMap.mp member
        exact inField (picksField_of_item picked) below

/-- Nothing is reached in a value that is not reached in one of two others. -/
def Joins (whole first second : Value) : Prop :=
  ∀ keys scalar, whole.Reaches keys scalar →
    first.Reaches keys scalar ∨ second.Reaches keys scalar

theorem joins_insert {fields : Fields} {name : String} {value old : Value}
    (joins : ∀ existing, Fields.get? fields name = some existing → Joins value existing old)
    (fresh : Fields.get? fields name = none → value = old) :
    Joins (object (Fields.insert fields name value)) (object fields) (object [(name, old)]) := by
  intro keys scalar reached
  obtain ⟨key, held, rest, member, rfl, below⟩ := reaches_object_iff.mp reached
  rcases Fields.mem_of_mem_insert member with here | before
  · cases here
    rw [reaches_singleton_iff]
    cases found : Fields.get? fields name with
    | none =>
        rw [fresh found] at below
        exact Or.inr ⟨rest, rfl, below⟩
    | some existing =>
        rcases joins existing found rest scalar below with first | second
        · exact Or.inl (.field (Fields.mem_of_get? found) first)
        · exact Or.inr ⟨rest, rfl, second⟩
  · exact Or.inl (.field before below)

theorem joins_mergeFields_cons {fields others : Fields} {name : String} {value merged : Value}
    (first : Joins (object (Fields.insert fields name merged)) (object fields)
      (object [(name, value)]))
    (rest : Joins (object (mergeFields (Fields.insert fields name merged) others))
      (object (Fields.insert fields name merged)) (object others)) :
    Joins (object (mergeFields (Fields.insert fields name merged) others)) (object fields)
      (object ((name, value) :: others)) := by
  have split : ∀ keys scalar, (object ((name, value) :: others)).Reaches keys scalar ↔
      (object [(name, value)]).Reaches keys scalar ∨ (object others).Reaches keys scalar := by
    intro keys scalar
    simp only [reaches_object_iff, List.mem_cons, List.not_mem_nil, or_false, or_and_right,
      exists_or]
  intro keys scalar reached
  rw [split]
  rcases rest keys scalar reached with early | late
  · exact (first keys scalar early).imp_right Or.inl
  · exact Or.inr (Or.inr late)

theorem joins_mergeItems_cons {item other : Value} {items others : List Value}
    (first : Joins (item.merge other) item other)
    (rest : Joins (array (mergeItems items others)) (array items) (array others)) :
    Joins (array (item.merge other :: mergeItems items others)) (array (item :: items))
      (array (other :: others)) := by
  intro keys scalar reached
  simp only [Joins, reaches_array_iff] at rest
  simp only [reaches_array_iff, List.exists_mem_cons_iff] at reached ⊢
  rcases reached with here | later
  · exact (first keys scalar here).imp Or.inl Or.inl
  · exact (rest keys scalar later).imp Or.inr Or.inr

/-- Merging adds nothing of its own. -/
theorem joins_merge (value part : Value) : Joins (value.merge part) value part := by
  refine merge.induct (fun value part => Joins (value.merge part) value part)
    (fun items others => Joins (array (mergeItems items others)) (array items) (array others))
    (fun fields others => Joins (object (mergeFields fields others)) (object fields)
      (object others)) ?objects ?arrays ?lengths ?others ?items ?ends ?nothing ?fields value part
  case objects =>
    intro fields others joins
    exact joins
  case arrays =>
    intro items others same joins
    rw [merge, if_pos same]
    exact joins
  case lengths =>
    intro items others different keys scalar reached
    rw [merge, if_neg different] at reached
    exact Or.inr reached
  case others =>
    intro value part noObjects noArrays keys scalar reached
    rw [merge] at reached
    · exact Or.inr reached
    · exact noObjects
    · exact noArrays
  case items =>
    intro item items other others first rest
    exact joins_mergeItems_cons first rest
  case ends =>
    intro others items ended keys scalar reached
    rw [mergeItems] at reached
    · simp at reached
    · exact ended
  case nothing =>
    intro fields keys scalar reached
    exact Or.inl reached
  case fields =>
    intro fields name value others merged joins rest
    refine joins_mergeFields_cons (joins_insert (fun existing found => ?_) fun missing => ?_) rest
    · simp only [found]
      exact joins existing
    · simp only [missing]

theorem within_of_joins {names : List String} {whole first second : Value}
    (joins : Joins whole first second) (one : Within names first) (two : Within names second) :
    Within names whole := by
  intro keys scalar reached
  rcases joins keys scalar reached with early | late
  · exact one keys scalar early
  · exact two keys scalar late

theorem within_pick {names : List String} {name : String} (included : name ∈ names)
    {value part : Value} (picked : value.pick name = some part) : Within names part := by
  intro keys scalar reached
  exact ⟨name, included, reaches_pickSegments picked reached⟩

end Value

namespace Projection

open Value

theorem within_select {names : List String} {selected : Document}
    (before : Within names (object selected)) {path : String} {selection : Selection}
    (shown : selection = .kept ∧ path ∈ names ∨ selection = .dropped) (document : Document) :
    Within names (object (select document selected path selection)) := by
  rcases shown with ⟨rfl, included⟩ | rfl
  · rw [select]
    cases picked : (object document).pick path with
    | none => exact before
    | some part =>
        cases part with
        | object fields =>
            exact within_of_joins (joins_merge (object selected) (object fields)) before
              (within_pick included picked)
        | _ => exact before
  · exact before

theorem within_selectAll {names : List String} {projection : Projection}
    (shown : ∀ selection ∈ projection,
      selection.2 = .kept ∧ selection.1 ∈ names ∨ selection.2 = .dropped)
    {selected : Document} (before : Within names (object selected)) (document : Document) :
    Within names (object (selectAll document selected projection)) := by
  induction projection generalizing selected with
  | nil => exact before
  | cons selection projection ih =>
      obtain ⟨here, later⟩ := List.forall_mem_cons.mp shown
      exact ih later (within_select before here document)

theorem within_selectedId (names : List String) (document : Document) :
    Within names (object ((including names).selectedId document)) := by
  have nothing := within_object_nil names
  rw [selectedId_including]
  split
  · rename_i included
    exact within_select nothing (Or.inl ⟨rfl, included⟩) document
  · exact nothing

/-- An inclusion shows nothing but what lies at or under the included paths. -/
theorem within_apply_including {names : List String} (some : names ≠ []) (document : Document) :
    Within names (object ((including names).apply document)) := by
  rw [apply, if_pos ((isInclusive_including names).mpr some)]
  refine within_selectAll (fun selection member => ?_) (within_selectedId names document) document
  rcases (mem_including names selection).mp member with shown | ⟨rfl, _⟩
  · exact Or.inl shown
  · exact Or.inr rfl

end Projection

end Engagements
