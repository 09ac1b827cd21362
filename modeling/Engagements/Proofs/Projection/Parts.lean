import Engagements.Proofs.Projection.Alignment

/-!
The parts of a value along paths, and how two of them stand to each other where they fit: one goes
on where the other ends, or they part before either ends.
-/
namespace Engagements.Value

theorem distinct_pickSegments {path : List String} {value part : Value} (distinct : value.Distinct)
    (picked : value.pickSegments path = some part) : part.Distinct := by
  induction path generalizing value part with
  | nil =>
      rw [pickSegments_nil, Option.some_inj] at picked
      rwa [← picked]
  | cons name rest ih =>
      have inField : ∀ {value part : Value}, value.Distinct → PicksField name rest value part →
          part.Distinct := by
        rintro value part distinct ⟨fields, held, inner, rfl, here, picked, rfl⟩
        refine .object (List.nodup_singleton name) fun field member => ?_
        rw [List.mem_singleton.mp member]
        exact ih (distinct.get? here) picked
      rcases pickSegments_cons picked with field | ⟨items, rfl, rfl⟩
      · exact inField distinct field
      · refine .array fun item member => ?_
        obtain ⟨source, inside, picked⟩ := List.mem_filterMap.mp member
        exact inField (distinct.items _ inside) (picksField_of_item picked)

/-- Picking again along a longer path finds what the longer path alone finds. -/
theorem pickSegments_again (value : Value) (path more : List String) :
    (value.pickSegments path).bind (·.pickSegments (path ++ more)) =
      value.pickSegments (path ++ more) := by
  induction path generalizing value with
  | nil => rw [pickSegments_nil, Option.bind_some, List.nil_append]
  | cons name rest ih =>
      have inObject : ∀ fields : Fields,
          ((object fields).pickSegments (name :: rest)).bind
              (·.pickSegments (name :: (rest ++ more))) =
            (object fields).pickSegments (name :: (rest ++ more)) := by
        intro fields
        rw [pickSegments_object, pickSegments_object]
        cases held : Fields.get? fields name with
        | none => rfl
        | some inner =>
            rw [Option.bind_some, Option.bind_some, ← ih inner]
            cases inner.pickSegments rest with
            | none => rfl
            | some part =>
                rw [Option.map_some, Option.bind_some, Option.bind_some, pickSegments_object,
                  Fields.get?, if_pos rfl, Option.bind_some]
      rw [List.cons_append]
      cases value with
      | object fields => exact inObject fields
      | array items =>
          rw [pickSegments_array, Option.bind_some, pickSegments_array, pickSegments_array,
            List.filterMap_filterMap]
          refine congrArg (some ∘ array) (List.filterMap_congr fun item _ => ?_)
          cases item with
          | object fields =>
              have again := inObject fields
              cases picked : (object fields).pickSegments (name :: rest) with
              | none =>
                  rw [picked] at again
                  simpa [pickItem, isObject, picked] using again
              | some part =>
                  obtain ⟨_, _, inner, _, _, _, rfl⟩ := picksField_of_object picked
                  rw [picked] at again
                  simpa [pickItem, isObject, picked] using again
          | _ => rfl
      | _ => rfl

/-- A part that is missing from a value is missing from every other part of it. -/
theorem pickSegments_eq_none {path other : List String} {value part : Value}
    (missing : value.pickSegments path = none) (picked : value.pickSegments other = some part) :
    part.pickSegments path = none := by
  induction other generalizing path value part with
  | nil =>
      rw [pickSegments_nil, Option.some_inj] at picked
      rwa [← picked]
  | cons name rest ih =>
      cases path with
      | nil =>
          rw [pickSegments_nil] at missing
          cases missing
      | cons first below =>
          rcases pickSegments_cons picked with
            ⟨fields, held, inner, rfl, here, below, rfl⟩ | ⟨items, rfl, rfl⟩
          · rw [pickSegments_object, Option.map_eq_none_iff] at missing ⊢
            rw [Fields.get?]
            by_cases same : name = first
            · rw [← same, here, Option.bind_some] at missing
              rw [if_pos same, Option.bind_some, ih missing below]
            · rw [if_neg same]
              rfl
          · rw [pickSegments_array] at missing
            cases missing

/-- A merge adds no part that is in neither value. -/
theorem pickSegments_merge_eq_none {path : List String} {value part : Value}
    (distinct : part.Distinct) (missing : value.pickSegments path = none)
    (missing' : part.pickSegments path = none) : (value.merge part).pickSegments path = none := by
  induction path generalizing value part with
  | nil =>
      rw [pickSegments_nil] at missing
      cases missing
  | cons name rest ih =>
      cases part with
      | object parts =>
          cases value with
          | object fields =>
              rw [merge, pickSegments_object, Option.map_eq_none_iff,
                get?_mergeFields fields distinct.names]
              rw [pickSegments_object, Option.map_eq_none_iff] at missing missing'
              cases here : Fields.get? parts name with
              | none => exact missing
              | some new =>
                  rw [here] at missing'
                  cases there : Fields.get? fields name with
                  | none => exact missing'
                  | some old =>
                      rw [there] at missing
                      exact ih (distinct.get? here) missing missing'
          | _ => exact missing'
      | array items =>
          rw [pickSegments_array] at missing'
          cases missing'
      | _ => cases value <;> rfl

/-- A part of the field of an object, where both parts fit. -/
def FitsField (name : String) (rest : List String) (value part : Value) : Prop :=
  ∃ fields held inner, value = object fields ∧ Fields.get? fields name = some held ∧
    held.pickSegments rest = some inner ∧ part = object [(name, inner)] ∧ held.Distinct ∧
      held.fits inner = true

theorem fitsField_of_fits {name : String} {rest : List String} {value part : Value}
    (distinct : value.Distinct) (picked : PicksField name rest value part)
    (fit : value.fits part = true) : FitsField name rest value part := by
  obtain ⟨fields, held, inner, rfl, here, picked, rfl⟩ := picked
  exact ⟨fields, held, inner, rfl, here, picked, rfl, distinct.get? here,
    (fits_object_iff _ _).mp fit (name, inner) List.mem_cons_self held here⟩

/-- Parts that are as many as the items are the parts of all items. -/
theorem forall₂_filterMap {α β : Type} {f : α → Option β} {items : List α}
    (all : (items.filterMap f).length = items.length) :
    List.Forall₂ (fun item part => f item = some part) items (items.filterMap f) := by
  induction items with
  | nil => exact .nil
  | cons item items ih =>
      rw [List.filterMap_cons] at all ⊢
      cases made : f item with
      | none =>
          have fewer : (items.filterMap f).length ≤ items.length := List.length_filterMap_le f items
          rw [made, List.length_cons] at all
          dsimp only at all
          omega
      | some part =>
          rw [made] at all
          exact .cons made (ih (Nat.succ.inj all))

/-- Where a part fits the value that it is from, it is from all items of an array. -/
theorem fitsField_of_pickSegments {name : String} {rest : List String} {value part : Value}
    (distinct : value.Distinct) (picked : value.pickSegments (name :: rest) = some part)
    (fit : value.fits part = true) : Itemwise (FitsField name rest) value part := by
  rcases pickSegments_cons picked with field | ⟨items, rfl, rfl⟩
  · exact .one (fitsField_of_fits distinct field fit)
  · replace fit := (fits_array_iff _ _).mp fit
    replace picked := forall₂_filterMap fit.length_eq.symm
    replace distinct := distinct.items
    refine .items ?_
    generalize items.filterMap (pickItem (name :: rest)) = parts at fit picked
    induction fit with
    | nil => exact .nil
    | cons here _ ih =>
        cases picked with
        | cons first picked =>
            obtain ⟨one, others⟩ := List.forall_mem_cons.mp distinct
            exact .cons (fitsField_of_fits one (picksField_of_item first) here) (ih others picked)

/-- A part that fits the value that it is from is absorbed by it. -/
theorem absorbedBy_of_fits {path : List String} {value part : Value} (distinct : value.Distinct)
    (picked : value.pickSegments path = some part) (fit : value.fits part = true) :
    AbsorbedBy part value := by
  induction path generalizing value part with
  | nil =>
      rw [pickSegments_nil, Option.some_inj] at picked
      rw [← picked]
      exact merge_self distinct
  | cons name rest ih =>
      have inField : ∀ {value part : Value}, FitsField name rest value part →
          value.merge part = value := by
        rintro value part ⟨fields, held, inner, rfl, here, picked, rfl, distinct, fit⟩
        refine congrArg object (mergeFields_of_absorbed fun field member => ?_)
        rw [List.mem_singleton.mp member]
        exact ⟨held, here, ih distinct picked fit⟩
      cases fitsField_of_pickSegments distinct picked fit with
      | one field => exact inField field
      | items each =>
          rw [AbsorbedBy, merge_array each.length_eq,
            zipWith_merge_of_absorbed (each.imp fun _ _ => inField)]

/-- A value goes along the path of a part of it no further than the part does. -/
theorem beside_of_fits {path : List String} {value part : Value} (distinct : value.Distinct)
    (picked : value.pickSegments path = some part) (fit : value.fits part = true) :
    Beside Eq path value part := by
  induction path generalizing value part with
  | nil =>
      rw [pickSegments_nil, Option.some_inj] at picked
      exact picked
  | cons name rest ih =>
      refine (fitsField_of_pickSegments distinct picked fit).imp fun value part field => ?_
      obtain ⟨fields, held, inner, rfl, here, picked, rfl, distinct, fit⟩ := field
      refine ⟨fields, _, rfl, rfl, inner, ?_, fun old there => ?_⟩
      · rw [Fields.get?, if_pos rfl]
      · rw [here, Option.some_inj] at there
        rw [← there]
        exact ih distinct picked fit

/-- The part of a value along a longer path is absorbed where the shorter path ends. -/
theorem beside_of_longer {path more : List String} {value part : Value} (distinct : value.Distinct)
    (picked : value.pickSegments (path ++ more) = some part) (fit : value.fits part = true) :
    Beside AbsorbedBy path part value := by
  induction path generalizing value part with
  | nil => exact absorbedBy_of_fits distinct picked fit
  | cons name rest ih =>
      refine ((fitsField_of_pickSegments distinct picked fit).imp fun value part field => ?_).flip
      obtain ⟨fields, held, inner, rfl, here, picked, rfl, distinct, fit⟩ := field
      refine ⟨_, fields, rfl, rfl, held, here, fun new there => ?_⟩
      rw [Fields.get?, if_pos rfl, Option.some_inj] at there
      rw [← there]
      exact ih distinct picked fit

/-- An object with a field of one name only. -/
def IsField (name : String) (P : Value → Prop) (value : Value) : Prop :=
  ∃ inner, value = object [(name, inner)] ∧ P inner

/-- A value in which nothing leads off a path. -/
def Spine : List String → Value → Prop
  | [], _ => True
  | name :: rest, value =>
    IsField name (Spine rest) value ∨
      ∃ items, value = array items ∧ ∀ item ∈ items, IsField name (Spine rest) item

theorem spine_pickSegments {path : List String} {value part : Value}
    (picked : value.pickSegments path = some part) : Spine path part := by
  induction path generalizing value part with
  | nil => trivial
  | cons name rest ih =>
      have inField : ∀ {value part : Value}, PicksField name rest value part →
          IsField name (Spine rest) part := by
        rintro value part ⟨fields, held, inner, rfl, here, picked, rfl⟩
        exact ⟨inner, rfl, ih picked⟩
      rcases pickSegments_cons picked with field | ⟨items, rfl, rfl⟩
      · exact Or.inl (inField field)
      · refine Or.inr ⟨_, rfl, fun item member => ?_⟩
        obtain ⟨source, _, picked⟩ := List.mem_filterMap.mp member
        exact inField (picksField_of_item picked)

theorem forall₂_of_forall {P Q : Value → Prop} {R : Value → Value → Prop}
    {items others : List Value} (left : ∀ item ∈ items, P item) (right : ∀ other ∈ others, Q other)
    (each : List.Forall₂ R items others) :
    List.Forall₂ (fun item other => P item ∧ Q other ∧ R item other) items others := by
  induction each with
  | nil => exact .nil
  | cons here _ ih =>
      obtain ⟨first, left⟩ := List.forall_mem_cons.mp left
      obtain ⟨second, right⟩ := List.forall_mem_cons.mp right
      exact .cons ⟨first, second, here⟩ (ih left right)

/-- Two parts that fit go side by side up to the place where their paths part. -/
theorem itemwise_of_spines {name first : String} {rest below : List String} {part part' : Value}
    (spine : Spine (name :: rest) part) (spine' : Spine (first :: below) part')
    (fit : part.fits part' = true) :
    Itemwise (fun part part' => IsField name (Spine rest) part ∧ IsField first (Spine below) part' ∧
      part.fits part' = true) part part' := by
  rcases spine with field | ⟨items, rfl, each⟩
  · rcases spine' with field' | ⟨others, rfl, each'⟩
    · exact .one ⟨field, field', fit⟩
    · obtain ⟨inner, rfl, _⟩ := field
      simp [fits] at fit
  · rcases spine' with field' | ⟨others, rfl, each'⟩
    · obtain ⟨inner, rfl, _⟩ := field'
      simp [fits] at fit
    · exact .items (forall₂_of_forall each each' ((fits_array_iff _ _).mp fit))

/-- An object of one field goes further along the path of another one if its field is the same. -/
theorem atField_singleton {R : Value → Value → Prop} {name first : String} {inner inner' : Value}
    (related : name = first → R inner' inner) :
    AtField name (Beneath R) (object [(first, inner')]) (object [(name, inner)]) := by
  refine ⟨_, _, rfl, rfl, inner, by rw [Fields.get?, if_pos rfl], fun old held => ?_⟩
  rw [Fields.get?] at held
  by_cases same : first = name
  · rw [if_pos same, Option.some_inj] at held
    rw [← held]
    exact related same.symm
  · rw [if_neg same] at held
    cases held

/-- Where neither path leads to the other, nothing of one part is at the end of the path of the
other. -/
theorem beside_of_diverging {R S : Value → Value → Prop} {path other : List String}
    {part part' : Value} (spine : Spine path part) (spine' : Spine other part')
    (fit : part.fits part' = true) (apart : ¬path <+: other) (apart' : ¬other <+: path) :
    Beside R path part' part ∧ Beside S other part part' := by
  induction path generalizing other part part' with
  | nil => exact absurd List.nil_prefix apart
  | cons name rest ih =>
      cases other with
      | nil => exact absurd List.nil_prefix apart'
      | cons first below =>
          have inField : ∀ {inner inner' : Value}, Spine rest inner → Spine below inner' →
              (object [(name, inner)]).fits (object [(first, inner')]) = true → name = first →
                Beside R rest inner' inner ∧ Beside S below inner inner' := by
            rintro inner inner' along along' fitting rfl
            refine ih along along' ?_ (fun leads => ?_) fun leads => ?_
            · exact (fits_object_iff _ _).mp fitting (name, inner') List.mem_cons_self inner
                (by rw [Fields.get?, if_pos rfl])
            · exact apart (List.cons_prefix_cons.mpr ⟨rfl, leads⟩)
            · exact apart' (List.cons_prefix_cons.mpr ⟨rfl, leads⟩)
          have aligned := itemwise_of_spines spine spine' fit
          constructor
          · refine (aligned.imp fun _ _ fields => ?_).flip
            obtain ⟨⟨inner, rfl, along⟩, ⟨inner', rfl, along'⟩, fitting⟩ := fields
            exact atField_singleton fun same => (inField along along' fitting same).1
          · refine aligned.imp fun _ _ fields => ?_
            obtain ⟨⟨inner, rfl, along⟩, ⟨inner', rfl, along'⟩, fitting⟩ := fields
            exact atField_singleton fun same => (inField along along' fitting same.symm).2

theorem along_of_spine {path : List String} {part : Value} (spine : Spine path part) :
    Along path part part := by
  induction path generalizing part with
  | nil => rfl
  | cons name rest ih =>
      have inField : ∀ {part : Value}, IsField name (Spine rest) part →
          AtField name (Both (Along rest)) part part := by
        rintro part ⟨inner, rfl, spine⟩
        have here : Fields.get? [(name, inner)] name = some inner := by rw [Fields.get?, if_pos rfl]
        exact ⟨_, _, rfl, rfl, inner, inner, here, here, ih spine⟩
      rcases spine with field | ⟨items, rfl, each⟩
      · exact .one (inField field)
      · exact .items (List.forall₂_same.mpr fun item inside => inField (each item inside))

/-- The part along a path stays as it is when the part along another one follows, and does not
stand in the way of that. -/
def Settled (value : Value) (path other : List String) : Prop :=
  ∀ part part', value.pickSegments path = some part → value.pickSegments other = some part' →
    Beside AbsorbedBy path part' part ∧ Beside Eq other part part'

theorem settled_of_fits {value : Value} (distinct : value.Distinct) {path other : List String}
    (order : other <+: path → other = path)
    (fit : ∀ part part', value.pickSegments path = some part →
      value.pickSegments other = some part' → part.fits part' = true) :
    Settled value path other := by
  intro part part' picked picked'
  have fitting := fit part part' picked picked'
  by_cases leads : path <+: other
  · obtain ⟨more, rfl⟩ := leads
    have again : part.pickSegments (path ++ more) = some part' := by
      rw [← picked', ← pickSegments_again value path more, picked, Option.bind_some]
    have distinct := distinct_pickSegments distinct picked
    exact ⟨beside_of_longer distinct again fitting, beside_of_fits distinct again fitting⟩
  · have apart : ¬other <+: path := fun back => leads (order back ▸ List.prefix_rfl)
    exact beside_of_diverging (spine_pickSegments picked) (spine_pickSegments picked') fitting
      leads apart

end Engagements.Value
