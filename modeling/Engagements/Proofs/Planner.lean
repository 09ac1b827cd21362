import Engagements.Planner
import Engagements.Proofs.Path
import Engagements.Proofs.Pipeline
import Engagements.Proofs.Predicate
import Engagements.Proofs.Projection

/-!
What the stages of a plan make of the documents in a store: rows, which one branch shows in pages
and the other ones count.
-/
namespace Engagements

namespace FilterSpec

theorem validate_ok_iff (spec : FilterSpec) :
    spec.validate = .ok () ↔
      ¬(spec.included.isSome && spec.excluded.isSome) = true ∧ spec.page ≠ some 0 ∧
        spec.perPage ≠ some 0 ∧ ¬spec.unwindField.any Text.isBlank = true ∧
          ¬spec.groupByField.any Text.isBlank = true := by
  unfold validate
  split_ifs <;> simp [*]

theorem validate_withPage {spec : FilterSpec} (valid : spec.validate = .ok ()) {page perPage : Nat}
    (first : 1 ≤ page) (some : 1 ≤ perPage) : (spec.withPage page perPage).validate = .ok () := by
  obtain ⟨shown, _, _, unwound, grouped⟩ := spec.validate_ok_iff.mp valid
  refine (validate_ok_iff _).mpr ⟨shown, ?_, ?_, unwound, grouped⟩
  · exact fun zero => Nat.ne_of_gt first (Option.some.inj zero)
  · exact fun zero => Nat.ne_of_gt some (Option.some.inj zero)

/-- A filter that asks for no page. -/
def unpaged (spec : FilterSpec) : FilterSpec := { spec with page := none }

theorem validate_unpaged {spec : FilterSpec} (valid : spec.validate = .ok ()) :
    spec.unpaged.validate = .ok () := by
  obtain ⟨shown, _, sized, unwound, grouped⟩ := spec.validate_ok_iff.mp valid
  exact (validate_ok_iff _).mpr ⟨shown, nofun, sized, unwound, grouped⟩

end FilterSpec

namespace Planner

theorem valid_of_conditions {planner : Planner} {spec : FilterSpec} {base : Option Predicate}
    {found : Option Predicate × List String} (accepted : planner.conditions spec base = .ok found) :
    spec.validate = .ok () ∧ planner.checkSize spec = .ok () := by
  rw [conditions] at accepted
  cases valid : spec.validate with
  | error problem =>
      rw [valid] at accepted
      cases accepted
  | ok _ =>
      cases fits : planner.checkSize spec with
      | error problem =>
          rw [valid, fits] at accepted
          cases accepted
      | ok _ => exact ⟨rfl, rfl⟩

theorem read_of_conditions {planner : Planner} {spec : FilterSpec}
    {base predicate : Option Predicate} {ignored : List String}
    (accepted : planner.conditions spec base = .ok (predicate, ignored)) :
    ∃ expression, Search.read planner.today spec.searchText = .ok expression ∧
      predicate = Predicate.allOf (base.toList ++ expression.predicate.toList) ∧
        ignored = expression.ignored := by
  obtain ⟨valid, fits⟩ := valid_of_conditions accepted
  rw [conditions, valid, fits] at accepted
  cases read : Search.read planner.today spec.searchText with
  | error error =>
      rw [read] at accepted
      cases accepted
  | ok expression =>
      rw [read] at accepted
      obtain ⟨rfl, rfl⟩ := Prod.mk.inj (Except.ok.inj accepted)
      exact ⟨expression, rfl, rfl, rfl⟩

/-- Of a filter that is accepted only the search text decides on the conditions. -/
theorem conditions_congr {planner : Planner} {spec other : FilterSpec}
    (valid : spec.validate = .ok () ∧ planner.checkSize spec = .ok ())
    (valid' : other.validate = .ok () ∧ planner.checkSize other = .ok ())
    (same : other.search = spec.search) (base : Option Predicate) :
    planner.conditions other base = planner.conditions spec base := by
  simp only [conditions, valid, valid', FilterSpec.searchText, same]

/-- A filter without a search text sets no condition of its own. -/
theorem conditions_unsearched {planner : Planner} {spec : FilterSpec}
    (valid : spec.validate = .ok ()) (fits : planner.checkSize spec = .ok ())
    (unsearched : spec.search = none) : planner.conditions spec none = .ok (none, []) := by
  rw [conditions, valid, fits, FilterSpec.searchText, unsearched]
  rfl

theorem checkSize_of_unsized (planner : Planner) {spec : FilterSpec}
    (unsized : spec.perPage = none) : planner.checkSize spec = .ok () := by
  rw [checkSize, unsized]
  cases planner.maxPerPage <;> rfl

theorem checkSize_withPage {planner : Planner} {perPage : Nat}
    (fits : ∀ most ∈ planner.maxPerPage, perPage ≤ most) (spec : FilterSpec) (page : Nat) :
    planner.checkSize (spec.withPage page perPage) = .ok () := by
  rw [checkSize]
  cases limit : planner.maxPerPage with
  | none => rfl
  | some most => exact if_neg (Nat.not_lt.mpr (fits most limit))

theorem conditions_of_plan {planner : Planner} {spec : FilterSpec} {base : Option Predicate}
    (accepted : (planner.plan spec base).isOk = true) :
    ∃ predicate ignored, planner.conditions spec base = .ok (predicate, ignored) := by
  rw [plan] at accepted
  cases found : planner.conditions spec base with
  | error error =>
      rw [found] at accepted
      cases accepted
  | ok conditions => exact ⟨conditions.1, conditions.2, rfl⟩

/-! The stages before a page is taken. -/

theorem sure_unwindStages (spec : FilterSpec) (predicate : Option Predicate) (path : String) :
    Stage.Sure (unwindStages spec predicate path) := by
  refine Stage.sure_append (Stage.sure_append ?_ ?_) ?_
  · exact Stage.sure_cons (fun _ => ⟨_, rfl⟩) Stage.sure_nil
  · cases predicate.bind (·.scopedTo path) with
    | none => exact Stage.sure_nil
    | some within => exact Stage.sure_cons (fun _ => ⟨_, rfl⟩) Stage.sure_nil
  · cases spec.flattenedFields with
    | nil => exact Stage.sure_nil
    | cons name names => exact Stage.sure_cons (fun _ => ⟨_, rfl⟩) Stage.sure_nil

theorem sure_groupStages (field : String) : Stage.Sure (groupStages field) :=
  Stage.sure_cons (fun _ => ⟨_, rfl⟩) <| Stage.sure_cons (fun _ => ⟨_, rfl⟩) <|
    Stage.sure_cons (fun documents => ⟨_, Stage.run_replaceRoot_merged _ documents⟩) Stage.sure_nil

theorem sure_sharedStages (spec : FilterSpec) (predicate : Option Predicate) :
    Stage.Sure (sharedStages spec predicate) := by
  refine Stage.sure_append (Stage.sure_append ?_ ?_) ?_
  · cases predicate with
    | none => exact Stage.sure_nil
    | some predicate => exact Stage.sure_cons (fun _ => ⟨_, rfl⟩) Stage.sure_nil
  · cases spec.unwindField with
    | none => exact Stage.sure_nil
    | some path => exact sure_unwindStages spec predicate path
  · cases spec.groupByField with
    | none => exact Stage.sure_nil
    | some field => exact sure_groupStages field

/-- The documents that a filter selects: pages show them, and counts count them. -/
def rows (planner : Planner) (spec : FilterSpec) (base : Option Predicate)
    (documents : List Document) : Result (List Document) := do
  let (predicate, _) ← planner.conditions spec base
  Pipeline.run (sharedStages spec predicate) documents

theorem rows_ok {planner : Planner} {spec : FilterSpec} {base : Option Predicate}
    (accepted : (planner.plan spec base).isOk = true) (documents : List Document) :
    ∃ rows, planner.rows spec base documents = .ok rows := by
  obtain ⟨predicate, ignored, conditions⟩ := conditions_of_plan accepted
  obtain ⟨found, done⟩ := sure_sharedStages spec predicate documents
  exact ⟨found, by rw [rows, conditions]; exact done⟩

/-- Which page is asked for makes no difference to the rows. -/
theorem rows_repaged {planner : Planner} {spec : FilterSpec} {page perPage : Option Nat}
    (valid : spec.validate = .ok () ∧ planner.checkSize spec = .ok ())
    (valid' : FilterSpec.validate { spec with page := page, perPage := perPage } = .ok () ∧
      planner.checkSize { spec with page := page, perPage := perPage } = .ok ())
    (base : Option Predicate) (documents : List Document) :
    planner.rows { spec with page := page, perPage := perPage } base documents =
      planner.rows spec base documents := by
  rw [rows, rows, conditions_congr valid valid' rfl]
  rfl

/-- A pipeline of the shared stages and some more passes the rows on to these. -/
theorem run_shared {planner : Planner} {spec : FilterSpec} {base : Option Predicate}
    {documents found : List Document} (selected : planner.rows spec base documents = .ok found) :
    ∃ predicate ignored, planner.conditions spec base = .ok (predicate, ignored) ∧
      ∀ stages, Pipeline.run (sharedStages spec predicate ++ stages) documents =
        Stage.runAll found stages := by
  rw [rows] at selected
  cases found : planner.conditions spec base with
  | error error =>
      rw [found] at selected
      cases selected
  | ok conditions =>
      rw [found] at selected
      exact ⟨conditions.1, conditions.2, rfl, fun stages => Stage.runAll_append_ok selected stages⟩

/-! The results on a page. -/

def sorted (keys : List SortKey) (rows : List Document) : List Document :=
  match keys with
  | [] => rows
  | keys => rows.mergeSort fun left right => Document.orderBy keys left right != .gt

/-- The part of a list that is on a page. -/
def onPage {α : Type} : Option Paging → List α → List α
  | none, all => all
  | some paging, all => (all.drop paging.skip).take paging.limit

theorem map_onPage {α β : Type} (f : α → β) (paging : Option Paging) (all : List α) :
    (onPage paging all).map f = onPage paging (all.map f) := by
  cases paging with
  | none => rfl
  | some paging => rw [onPage, onPage, List.map_take, List.map_drop]

def results (spec : FilterSpec) (rows : List Document) : List Document :=
  (sorted spec.sortKeys rows).map (resultProjection spec).apply

theorem length_results (spec : FilterSpec) (rows : List Document) :
    (results spec rows).length = rows.length := by
  rw [results, List.length_map]
  cases spec.sortKeys with
  | nil => rfl
  | cons key keys => exact List.length_mergeSort rows

theorem runAll_resultStages (spec : FilterSpec) (paging : Option Paging) (rows : List Document) :
    Stage.runAll rows (resultStages spec paging) = .ok (onPage paging (results spec rows)) := by
  have order : Stage.runAll rows (match spec.sortKeys with
      | [] => []
      | keys => [.sort keys]) = .ok (sorted spec.sortKeys rows) := by
    cases spec.sortKeys <;> rfl
  have page : Stage.runAll (sorted spec.sortKeys rows) (pageStages paging) =
      .ok (onPage paging (sorted spec.sortKeys rows)) := by
    cases paging <;> rfl
  rw [resultStages, List.append_assoc]
  refine (Stage.runAll_append_ok order _).trans ?_
  rw [Stage.runAll_append_ok page, Stage.runAll_singleton, Stage.run, map_onPage]
  rfl

theorem skip_lt {page perPage : Nat} (first : page < Width.size 32)
    (second : perPage < Width.size 32) : (Paging.mk page perPage).skip < Width.size 64 := by
  have before : page - 1 < Width.size 32 := Nat.lt_of_le_of_lt (Nat.sub_le page 1) first
  calc perPage * (page - 1) < Width.size 32 * Width.size 32 := Nat.mul_lt_mul'' second before
    _ = Width.size 64 := by decide

/-! The counts of branches. -/

theorem eval_firstCount {facets : Document} {branch : String} (dotless : '.' ∉ branch.toList)
    {n : Nat} (found : Fields.get? facets branch =
      some (.array ((Stage.counted countField n).map .object))) :
    (firstCount branch).eval facets = if n = 0 then none else some (.int n) := by
  have below : segments (branch ++ "." ++ countField) = [branch, countField] := by
    rw [segments_below dotless]
    rfl
  rw [firstCount, Expr.eval, Expr.eval, Value.get?, below, Value.getSegments, Value.getField_eq,
    found, Option.bind_some, Stage.counted]
  split
  · rfl
  · rfl

/-- The document of a page: the results on it, and the number of rows. -/
def envelope (shown : List Document) (total : Nat) : Document :=
  [(resultsField, .array (shown.map .object)), (totalCountField, .int total)]

/-- What the branches of a page hold. -/
def pageFacets (shown : List Document) (total : Nat) : Document :=
  [(resultsField, .array (shown.map .object)),
    (totalCountField, .array ((Stage.counted countField total).map .object))]

theorem run_pageFacet (spec : FilterSpec) (paging : Option Paging) (rows : List Document) :
    Stage.run rows (.facet [(resultsField, resultStages spec paging),
      (totalCountField, [.count countField])]) =
        .ok [pageFacets (onPage paging (results spec rows)) rows.length] := by
  simp only [Stage.run, Stage.runBranches, runAll_resultStages, Stage.runAll_count]
  rfl

/-- The count of no rows is missing, and is taken for zero. -/
theorem eval_totalCount (shown : List Document) (total : Nat) :
    (Expr.orElse (firstCount totalCountField) (.literal (.int 0))).eval (pageFacets shown total) =
      some (.int total) := by
  have found : Fields.get? (pageFacets shown total) totalCountField =
      some (.array ((Stage.counted countField total).map .object)) := by
    simp [pageFacets, Fields.get?, resultsField, totalCountField]
  rw [Expr.eval, eval_firstCount (by decide) found]
  by_cases none : total = 0
  · rw [if_pos none, none]
    rfl
  · rw [if_neg none]
    rfl

theorem apply_pageFacets (shown : List Document) (total : Nat) :
    ((Projection.keep [] resultsField).compute totalCountField
      (.orElse (firstCount totalCountField) (.literal (.int 0)))).apply (pageFacets shown total) =
        envelope shown total := by
  have selections : (Projection.keep [] resultsField).compute totalCountField
      (.orElse (firstCount totalCountField) (.literal (.int 0))) =
        [(resultsField, .kept), (totalCountField, .computed
          (.orElse (firstCount totalCountField) (.literal (.int 0))))] := by
    simp [Projection.keep, Projection.compute, Projection.add, resultsField, totalCountField]
  have picked : (Value.object (pageFacets shown total)).pick resultsField =
      some (.object [(resultsField, .array (shown.map .object))]) := by
    have single : segments resultsField = [resultsField] := by decide
    rw [Value.pick, single, pageFacets, Value.pickSegments, Value.pickField, if_pos rfl,
      Value.pickSegments]
    rfl
  have nameless : ∀ selections : Projection,
      selections.selectedId (pageFacets shown total) = [] := by
    intro selections
    simp [Projection.selectedId, pageFacets, Fields.get?, idField, resultsField, totalCountField]
  have single : segments totalCountField = [totalCountField] := by decide
  rw [selections, Projection.apply, if_pos (by simp [Projection.isInclusive, Selection.isDropped])]
  simp only [Projection.selectAll, Projection.select, eval_totalCount, picked, nameless,
    Projection.mergePart, Document.set, single, Document.setSegments]
  simp [Value.mergeFields, Fields.get?, Fields.insert, envelope, resultsField, totalCountField]

theorem runAll_envelopeStages (spec : FilterSpec) (paging : Option Paging) (rows : List Document) :
    Stage.runAll rows (envelopeStages spec paging) =
      .ok [envelope (onPage paging (results spec rows)) rows.length] := by
  rw [envelopeStages, Stage.runAll, run_pageFacet]
  simp only [Stage.runAll_singleton, Stage.run, List.map_singleton, apply_pageFacets]

/-! The counts of a partition. -/

def branchNames (partition : Partition) : List String :=
  [totalCountField, partition.name, partition.complementName]

/-- How many rows the branch of a name counts. -/
def branchSize (partition : Partition) (rows : List Document) (name : String) : Nat :=
  if name = totalCountField then rows.length
  else if name = partition.name then
    rows.countP fun row => partition.predicate.holds (.object row)
  else rows.countP fun row => !partition.predicate.holds (.object row)

theorem branchSize_le (partition : Partition) (rows : List Document) (name : String) :
    branchSize partition rows name ≤ rows.length := by
  unfold branchSize
  split
  · exact Nat.le_refl _
  split
  · exact List.countP_le_length
  · exact List.countP_le_length

theorem branchSizes {partition : Partition} (distinct : (branchNames partition).Nodup)
    (rows : List Document) :
    branchSize partition rows totalCountField = rows.length ∧
      branchSize partition rows partition.name =
        rows.countP (fun row => partition.predicate.holds (.object row)) ∧
      branchSize partition rows partition.complementName =
        rows.countP (fun row => !partition.predicate.holds (.object row)) := by
  simp only [branchNames, List.nodup_cons, List.mem_cons, List.not_mem_nil, or_false, not_or]
    at distinct
  obtain ⟨⟨first, second⟩, third, _⟩ := distinct
  refine ⟨if_pos rfl, ?_, ?_⟩
  · rw [branchSize, if_neg (Ne.symm first), if_pos rfl]
  · rw [branchSize, if_neg (Ne.symm second), if_neg (Ne.symm third)]

/-- Each branch of a partition holds what comes out of its count. -/
theorem run_partitionFacet {partition : Partition} (distinct : (branchNames partition).Nodup)
    (rows : List Document) :
    ∃ facets, Stage.run rows (.facet (partitionBranches partition)) = .ok [facets] ∧
      ∀ name ∈ branchNames partition, Fields.get? facets name = some (.array
        ((Stage.counted countField (branchSize partition rows name)).map .object)) := by
  obtain ⟨total, matching, complement⟩ := branchSizes distinct rows
  simp only [Stage.run, partitionBranches, Stage.runBranches, Stage.runAll_count,
    Stage.runAll_filter_count, Predicate.holds_negate, ← total, ← matching, ← complement]
  refine ⟨_, rfl, ?_⟩
  simp only [branchNames, List.nodup_cons, List.mem_cons, List.not_mem_nil, or_false, not_or]
    at distinct
  obtain ⟨⟨first, second⟩, third, _⟩ := distinct
  simp only [branchNames, List.forall_mem_cons, Fields.get?_insert]
  exact ⟨by simp [first, second], by simp [third], by simp, List.forall_mem_nil _⟩

/-- The counts of a partition, each in the field of its branch. A branch that counts nothing leaves
the field without a number. -/
theorem runAll_partitionStages {partition : Partition}
    (distinct : (branchNames partition).Nodup)
    (dotless : ∀ name ∈ branchNames partition, '.' ∉ name.toList) (rows : List Document) :
    ∃ envelope, Stage.runAll rows (partitionStages partition) = .ok [envelope] ∧
      ∀ name ∈ branchNames partition,
        if branchSize partition rows name = 0 then
          ∀ n, Fields.get? envelope name ≠ some (.number n)
        else Fields.get? envelope name = some (.int (branchSize partition rows name)) := by
  obtain ⟨facets, ran, held⟩ := run_partitionFacet distinct rows
  have selections : (partitionBranches partition).foldl (fun projection branch =>
      Projection.compute projection branch.1 (firstCount branch.1)) [] =
        Projection.computing (branchNames partition) firstCount :=
    Projection.foldl_compute (branchNames partition) firstCount distinct
  refine ⟨(Projection.computing (branchNames partition) firstCount).apply facets, ?_, ?_⟩
  · rw [partitionStages, Stage.runAll, ran]
    simp only [Stage.runAll_singleton, Stage.run, List.map_singleton, selections]
  · intro name inside
    have present : branchNames partition ≠ [] := List.cons_ne_nil _ _
    rw [Projection.get?_apply_computing present distinct
      (fun name inside => segments_of_dotless (dotless name inside)) firstCount facets inside,
      eval_firstCount (dotless name inside) (held name inside)]
    by_cases nothing : branchSize partition rows name = 0
    · rw [if_pos nothing, if_pos nothing, Option.none_or]
      -- The identifying field is not replaced where nothing is counted, but holds the empty branch.
      split
      · rename_i identifying
        rw [← identifying, held name inside]
        simp
      · simp
    · rw [if_neg nothing, if_neg nothing, Option.some_or]

end Planner

end Engagements
