import Engagements.Proofs.Planner

/-!
Rows that are flattened: members of the unwound field stand at the top, and the field itself is
gone.
-/
namespace Engagements

theorem trailingSegment_mem (path : String) : trailingSegment path ∈ segments path := by
  rw [trailingSegment, List.getLast?_eq_some_getLast (segments_ne_nil path), Option.getD_some]
  exact List.getLast_mem _

theorem segments_trailingSegment (path : String) :
    segments (trailingSegment path) = [trailingSegment path] :=
  segments_of_dotless (dotless_of_mem_segments (trailingSegment_mem path))

theorem segments_of_dotted {path : String} (dotted : '.' ∈ path.toList) :
    ∃ first second rest, segments path = first :: second :: rest := by
  obtain ⟨first, others, split, dotless⟩ := List.eq_append_cons_of_mem dotted
  have below : segments path = String.ofList first :: segments (String.ofList others) := by
    rw [← segments_below (by rwa [String.toList_ofList])]
    refine congrArg segments (String.toList_inj.mp ?_)
    simp [split]
  obtain ⟨second, rest, more⟩ := List.exists_cons_of_ne_nil (segments_ne_nil (String.ofList others))
  exact ⟨_, second, rest, more ▸ below⟩

namespace Projection

/-- What no selection sets stays as it is. -/
theorem get?_selectAll_of_unset {document : Document} {name : String} {projection : Projection}
    (unset : ∀ selection ∈ projection, selection.2 = .dropped ∨ ∃ expr,
      selection.2 = .computed expr ∧
        ((segments selection.1).head? = some name → expr.eval document = none))
    (selected : Document) :
    Fields.get? (selectAll document selected projection) name = Fields.get? selected name := by
  induction projection generalizing selected with
  | nil => rfl
  | cons selection projection ih =>
      obtain ⟨path, selection⟩ := selection
      obtain ⟨here, later⟩ := List.forall_mem_cons.mp unset
      refine (ih later _).trans ?_
      rcases here with dropped | ⟨expr, computed, misses⟩
      · obtain rfl : selection = .dropped := dropped
        rfl
      · obtain rfl : selection = .computed expr := computed
        rw [select]
        cases found : expr.eval document with
        | none => rfl
        | some value =>
            have other : (segments path).head? ≠ some name := fun same => by
              cases found.symm.trans (misses same)
            exact (Document.get?_set selected path name value).trans (if_neg other)

theorem get?_selectedId (projection : Projection) (document : Document) {name : String}
    (other : name ≠ idField) : Fields.get? (projection.selectedId document) name = none := by
  rw [selectedId]
  cases projection.dropsId with
  | true => rfl
  | false =>
      cases Fields.get? document idField with
      | none => rfl
      | some id => exact if_neg (Ne.symm other)

theorem mem_add {projection : Projection} {path : String} {selection : Selection}
    {entry : String × Selection} (inside : entry ∈ projection.add path selection) :
    entry ∈ projection ∨ entry = (path, selection) := by
  rcases List.mem_append.mp inside with before | last
  · exact Or.inl (List.mem_of_mem_filter before)
  · exact Or.inr (List.mem_singleton.mp last)

end Projection

namespace FilterSpec

/-- A filter that does not flatten. -/
def unflattened (spec : FilterSpec) : FilterSpec := { spec with unwindProjectFields := none }

theorem flattenedFields_unflattened (spec : FilterSpec) : spec.unflattened.flattenedFields = [] := by
  change Text.nameList "" = []
  decide

end FilterSpec

namespace Planner

/-- Without grouping, flattening comes last. -/
theorem sharedStages_flattened {spec : FilterSpec} {path : String}
    (unwound : spec.unwindField = some path) (listed : spec.flattenedFields ≠ [])
    (ungrouped : spec.groupByField = none) (predicate : Option Predicate) :
    sharedStages spec predicate = sharedStages spec.unflattened predicate ++
      [.project (unwindProjection path spec.flattenedFields)] := by
  have unwound' : spec.unflattened.unwindField = some path := unwound
  have ungrouped' : spec.unflattened.groupByField = none := ungrouped
  obtain ⟨name, names, split⟩ := List.exists_cons_of_ne_nil listed
  simp [sharedStages, unwindStages, unwound, unwound', ungrouped, ungrouped', split,
    spec.flattenedFields_unflattened]

theorem flattened_of_mem_rows {planner : Planner} {spec : FilterSpec} {path : String}
    (unwound : spec.unwindField = some path) (listed : spec.flattenedFields ≠ [])
    (ungrouped : spec.groupByField = none) {base : Option Predicate}
    {documents rows : List Document} (selected : planner.rows spec base documents = .ok rows) :
    ∀ row ∈ rows, ∃ source, row = (unwindProjection path spec.flattenedFields).apply source := by
  obtain ⟨predicate, ignored, conditions, _⟩ := run_shared selected
  obtain ⟨sources, done⟩ := sure_sharedStages spec.unflattened predicate documents
  rw [Planner.rows, conditions] at selected
  change Stage.runAll documents (sharedStages spec predicate) = .ok rows at selected
  rw [sharedStages_flattened unwound listed ungrouped, Stage.runAll_append_ok done,
    Stage.runAll_singleton, Stage.run] at selected
  obtain rfl := Except.ok.inj selected
  intro row member
  obtain ⟨source, _, rfl⟩ := List.mem_map.mp member
  exact ⟨source, rfl⟩

theorem segments_fullPath (unwound name : String) :
    ∃ first second rest, segments (fullPath unwound name) = first :: second :: rest := by
  refine segments_of_dotted ?_
  rw [fullPath]
  split_ifs with dotted
  · simpa using dotted
  · simp

theorem mem_unwindProjection {path : String} {names : List String} {entry : String × Selection}
    (inside : entry ∈ unwindProjection path names) :
    entry.2 = .dropped ∨ entry = (engagementUuidField, .computed (.field "uuid")) ∨
      ∃ name ∈ names, entry = (trailingSegment (fullPath path name),
        .computed (.field (fullPath path name))) := by
  have among : ∀ (names : List String) (before : Projection),
      entry ∈ names.foldl (fun projection name =>
        Projection.compute projection (trailingSegment (fullPath path name))
          (.field (fullPath path name))) before →
        entry ∈ before ∨ ∃ name ∈ names, entry = (trailingSegment (fullPath path name),
          .computed (.field (fullPath path name))) := by
    intro names
    induction names with
    | nil => exact fun before member => Or.inl member
    | cons name names ih =>
        intro before member
        rcases ih _ member with earlier | ⟨other, later, same⟩
        · rcases Projection.mem_add earlier with earlier | same
          · exact Or.inl earlier
          · exact Or.inr ⟨name, List.mem_cons_self, same⟩
        · exact Or.inr ⟨other, List.mem_cons_of_mem _ later, same⟩
  rcases Projection.mem_add inside with earlier | same
  · rcases among names _ earlier with first | listed
    · exact Or.inl (congrArg Prod.snd (List.mem_singleton.mp first))
    · exact Or.inr (Or.inr listed)
  · exact Or.inr (Or.inl same)

/-- A flattened row has no field but the trailing segments of what is listed, and these only where
the row leads to a value. -/
theorem get?_flattened {path : String} {names : List String} {row : Document} {field : String}
    (plain : field ≠ idField) (plain' : field ≠ engagementUuidField)
    (misses : ∀ name ∈ names, trailingSegment (fullPath path name) = field →
      (Value.object row).get? (fullPath path name) = none) :
    Fields.get? ((unwindProjection path names).apply row) field = none := by
  have inclusive : (unwindProjection path names).isInclusive = true := by
    simp [unwindProjection, Projection.isInclusive, Projection.compute, Projection.add,
      Selection.isDropped]
  rw [Projection.apply, if_pos inclusive, Projection.get?_selectAll_of_unset ?_,
    Projection.get?_selectedId _ _ plain]
  intro selection member
  rcases mem_unwindProjection member with dropped | rfl | ⟨name, listed, rfl⟩
  · exact Or.inl dropped
  · refine Or.inr ⟨_, rfl, fun same => ?_⟩
    have single : segments engagementUuidField = [engagementUuidField] := by decide
    rw [single] at same
    exact absurd (Option.some.inj same).symm plain'
  · refine Or.inr ⟨_, rfl, fun same => ?_⟩
    rw [segments_trailingSegment] at same
    exact misses name listed (Option.some.inj same)

end Planner

end Engagements
