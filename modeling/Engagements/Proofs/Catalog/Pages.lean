import Engagements.Proofs.Planner
import Engagements.Proofs.Store

/-!
The pages of a filter cut its results into consecutive parts, and each of them tells how many
results there are.
-/
namespace Engagements.Catalog

open Planner

theorem perform_aggregate {store : Store} (struck : store.outage = none) (pipeline : Pipeline) :
    store.perform (Store.aggregate pipeline) = (pipeline.run store.documents, store) := by
  rw [Store.aggregate, Store.perform_call, struck]

/-- A count in a document is a number of 64 bits. -/
theorem count?_of_int {envelope : Document} {field : String} {n : Nat}
    (held : Fields.get? envelope field = some (.int n)) (bound : n < Width.size 64) :
    count? envelope field = some n := by
  have fits : Width.isUnsigned 64 n = true := by
    simp only [Width.isUnsigned, Bool.and_eq_true, decide_eq_true_eq]
    exact ⟨Int.natCast_nonneg n, Int.ofNat_lt.mpr bound⟩
  rw [count?, held]
  exact if_pos fits

theorem count?_of_none {envelope : Document} {field : String}
    (unnumbered : ∀ n, Fields.get? envelope field ≠ some (.number n)) :
    count? envelope field = none := by
  rw [count?]
  split
  · rename_i n held
    exact absurd held (unnumbered _)
  · rfl

theorem documentsIn_map {envelope : Document} {field : String} {documents : List Document}
    (held : Fields.get? envelope field = some (.array (documents.map .object))) :
    documentsIn envelope field = documents := by
  rw [documentsIn, held]
  simp only [List.filterMap_map]
  exact List.filterMap_some

theorem results_pageOf (shown : List Document) (total : Nat) (paging : Option Paging) :
    (pageOf (envelope shown total) paging).results = shown := by
  have held : Fields.get? (envelope shown total) resultsField =
      some (.array (shown.map .object)) := by
    rw [envelope, Fields.get?, if_pos rfl]
  cases paging <;> exact documentsIn_map held

theorem totalCount_pageOf (shown : List Document) {total : Nat} (bound : total < Width.size 64)
    (paging : Option Paging) : (pageOf (envelope shown total) paging).totalCount = total := by
  have held : Fields.get? (envelope shown total) totalCountField = some (.int total) := by
    rw [envelope, Fields.get?, if_neg (by decide), Fields.get?, if_pos rfl]
  have counted : (count? (envelope shown total) totalCountField).getD 0 = total := by
    rw [count?_of_int held bound, Option.getD_some]
  cases paging <;> simp only [pageOf, counted]

/-- A page is found wherever its filter is accepted: it shows a part of the results, and counts all
rows. -/
theorem perform_findPage {planner : Planner} {spec : FilterSpec} {base : Option Predicate}
    {store : Store} (struck : store.outage = none) {rows : List Document}
    (selected : planner.rows spec base store.documents = .ok rows) :
    store.perform (findPage planner spec base) =
      (.ok (pageOf (envelope (onPage (spec.paging planner.defaultPerPage) (results spec rows))
        rows.length) (spec.paging planner.defaultPerPage)), store) := by
  obtain ⟨predicate, ignored, conditions, passed⟩ := run_shared selected
  have planned : planner.plan spec base = .ok ⟨sharedStages spec predicate ++
      envelopeStages spec (spec.paging planner.defaultPerPage),
      spec.paging planner.defaultPerPage, ignored⟩ := by
    rw [plan, conditions]
    rfl
  have ran := passed (envelopeStages spec (spec.paging planner.defaultPerPage))
  rw [runAll_envelopeStages] at ran
  rw [findPage, Store.perform_bind, Store.perform_lift, planned]
  simp only [Store.perform_bind, perform_aggregate struck, ran, Store.perform_pure]
  rfl

/-- Each page of a filter holds the results from its own place on, as many as fit on it, and the
number of all results; where it begins is a number of 64 bits, as is the length of any list of
results in memory. -/
theorem pages_tile_results (planner : Planner) (spec : FilterSpec) (base : Option Predicate)
    (store : Store) (struck : store.outage = none)
    (accepted : (planner.plan spec base).isOk = true) :
    ∃ all, store.perform (findPage planner spec.unpaged base) = (.ok all, store) ∧
      ∀ page perPage : Nat, 1 ≤ page → 1 ≤ perPage →
        (∀ most ∈ planner.maxPerPage, perPage ≤ most) →
          ∃ part, store.perform (findPage planner (spec.withPage page perPage) base) =
              (.ok part, store) ∧
            part.results = (all.results.drop ((page - 1) * perPage)).take perPage ∧
            (all.results.length < Width.size 64 → part.totalCount = all.results.length) ∧
            (page < Width.size 32 → perPage < Width.size 32 →
              (Paging.mk page perPage).skip < Width.size 64) := by
  obtain ⟨rows, selected⟩ := rows_ok accepted store.documents
  obtain ⟨predicate, ignored, conditions⟩ := conditions_of_plan accepted
  have valid := valid_of_conditions conditions
  have unpaged : planner.rows spec.unpaged base store.documents = .ok rows :=
    (rows_repaged valid ⟨FilterSpec.validate_unpaged valid.1, valid.2⟩ base _).trans selected
  refine ⟨_, perform_findPage struck unpaged, fun page perPage first some fits => ?_⟩
  have paged : planner.rows (spec.withPage page perPage) base store.documents = .ok rows :=
    (rows_repaged valid ⟨FilterSpec.validate_withPage valid.1 first some,
      checkSize_withPage fits spec page⟩ base _).trans selected
  refine ⟨_, perform_findPage struck paged, ?_, ?_, fun narrow narrow' => skip_lt narrow narrow'⟩
  · rw [results_pageOf, results_pageOf, Nat.mul_comm]
    rfl
  · intro bound
    rw [results_pageOf] at bound ⊢
    have length : (onPage (spec.unpaged.paging planner.defaultPerPage)
        (results spec.unpaged rows)).length = rows.length := length_results spec rows
    rw [length] at bound ⊢
    exact totalCount_pageOf _ bound _

/-- Two documents with three tags between them. -/
def taggedStore : Store :=
  ⟨[[("_id", .string "a"), ("name", .string "one"), ("tags", .array [.string "x", .string "y"])],
    [("_id", .string "b"), ("name", .string "two"), ("tags", .array [.string "z"])]], 0, ⟨0, 0⟩,
    5000, none⟩

def tagPlanner : Planner := ⟨⟨2024, 1, 1⟩, 20, some 100⟩

def tags : FilterSpec := { FilterSpec.empty with unwindField := some "tags" }

theorem conditions_tags : tagPlanner.conditions tags none = .ok (none, []) := by
  have valid : tags.validate = .ok () := by
    refine (FilterSpec.validate_ok_iff tags).mpr ⟨by decide, by decide, by decide, ?_, by decide⟩
    simp only [tags, Option.any_some, Text.isBlank_eq]
    decide
  rw [conditions, valid]
  rfl

theorem accepted_tags : (tagPlanner.plan tags none).isOk = true := by
  rw [plan, conditions_tags]
  rfl

def taggedRows : List Document :=
  [[("_id", .string "a"), ("name", .string "one"), ("tags", .string "x")],
    [("_id", .string "a"), ("name", .string "one"), ("tags", .string "y")],
    [("_id", .string "b"), ("name", .string "two"), ("tags", .string "z")]]

theorem rows_tags : tagPlanner.rows tags none taggedStore.documents = .ok taggedRows := by
  rw [rows, conditions_tags]
  decide +kernel

theorem second_page_of_tags :
    ∃ part, taggedStore.perform (findPage tagPlanner (tags.withPage 2 2) none) =
        (.ok part, taggedStore) ∧
      part.results = [[("tags", .string "z"), ("name", .string "two")]] ∧ part.totalCount = 3 ∧
      (Paging.mk 2 2).skip < Width.size 64 := by
  obtain ⟨all, found, pages⟩ :=
    pages_tile_results tagPlanner tags none taggedStore rfl accepted_tags
  obtain ⟨part, paged, shown, counted, begins⟩ := pages 2 2 (by decide) (by decide) (by decide)
  have same : tags.unpaged = tags := rfl
  rw [same, perform_findPage rfl rows_tags] at found
  obtain rfl := Except.ok.inj (Prod.mk.inj found).1
  rw [results_pageOf] at shown counted
  refine ⟨part, paged, shown.trans ?_, counted (by decide +kernel), begins (by decide) (by decide)⟩
  decide +kernel

end Engagements.Catalog
