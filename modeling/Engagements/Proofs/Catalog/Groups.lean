import Engagements.Proofs.Catalog.Pages
import Engagements.Proofs.Planner.Grouping

/-!
The results of a filter that groups: each text of the grouping field has one, and every row is
counted in one of them.
-/
namespace Engagements.Catalog

open Planner

/-- What shows a group has the number of its documents. -/
theorem get?_count_groupRow {spec : FilterSpec} {field : String}
    (grouped : spec.groupByField = some field) (whole : spec.included = none)
    (whole' : spec.excluded = none) (documents : List Document) (text : String) :
    Fields.get? ((resultProjection spec).apply (groupRow field documents text)) countField =
      some (.int (groupMembers field documents text).length) := by
  have single : segments countField = [countField] := by decide
  have shown : resultProjection spec =
      ((Projection.drop [] idField).compute (trailingSegment field) (.field field)).compute
        countField (.field countField) := by
    rw [resultProjection, whole, whole', grouped]
  have held : (Expr.field countField).eval (groupRow field documents text) =
      some (.int (groupMembers field documents text).length) := by
    rw [Expr.eval, Value.get?_field _ single, groupRow, Fields.get?_insert_self]
  rw [shown]
  exact Projection.get?_apply_compute single _ held

theorem count?_groupRow {spec : FilterSpec} {field : String}
    (grouped : spec.groupByField = some field) (whole : spec.included = none)
    (whole' : spec.excluded = none) {documents : List Document}
    (bound : documents.length < Width.size 63) (text : String) :
    count? ((resultProjection spec).apply (groupRow field documents text)) countField =
      some (groupMembers field documents text).length := by
  have part : (groupMembers field documents text).length ≤ documents.length :=
    List.length_filter_le _ _
  have wider : Width.size 63 ≤ Width.size 64 := by decide
  exact count?_of_int (get?_count_groupRow grouped whole whole' documents text) (by omega)

theorem results_unsorted {spec : FilterSpec} (unsorted : spec.sortKeys = [])
    (rows : List Document) : results spec rows = rows.map (resultProjection spec).apply := by
  rw [results, unsorted, sorted]

/-- Where a filter groups and neither pages nor sorts nor chooses fields, its results are the groups
of its rows by the lowercase text of the grouping field, in the order in which the texts first
occur. Each shows the number of its rows, these numbers come to the number of all rows, and the
groups are counted. No list of rows in memory is longer than a signed number of 64 bits. -/
theorem groups_count_each_row_once (planner : Planner) (spec : FilterSpec)
    (base : Option Predicate) (store : Store) (field : String) (struck : store.outage = none)
    (accepted : (planner.plan spec base).isOk = true) (grouped : spec.groupByField = some field)
    (unpaged : spec.page = none) (unsorted : spec.sortKeys = []) (whole : spec.included = none)
    (whole' : spec.excluded = none) :
    ∃ upstream page, planner.rows spec.ungrouped base store.documents = .ok upstream ∧
      store.perform (findPage planner spec base) = (.ok page, store) ∧
      (upstream.length < Width.size 63 →
        (groupTexts field upstream).Nodup ∧
        page.results = (groupTexts field upstream).map (fun text =>
          (resultProjection spec).apply (groupRow field upstream text)) ∧
        page.results.map (count? · countField) = (groupTexts field upstream).map (fun text =>
          some (upstream.filter fun row => groupText field row = text).length) ∧
        (page.results.map fun result => (count? result countField).getD 0).sum =
          upstream.length ∧
        page.totalCount = (groupTexts field upstream).length) := by
  obtain ⟨predicate, ignored, conditions⟩ := conditions_of_plan accepted
  have valid := valid_of_conditions conditions
  have same : planner.conditions spec.ungrouped base = planner.conditions spec base :=
    conditions_congr valid ⟨FilterSpec.validate_ungrouped valid.1, valid.2⟩ rfl base
  obtain ⟨upstream, done⟩ := sure_sharedStages spec.ungrouped predicate store.documents
  have selected : planner.rows spec.ungrouped base store.documents = .ok upstream := by
    rw [rows, same, conditions]
    exact done
  obtain ⟨rows, made⟩ := rows_ok accepted store.documents
  refine ⟨upstream, _, selected, perform_findPage struck made, fun bound => ?_⟩
  have split : rows = (groupTexts field upstream).map (groupRow field upstream) :=
    Except.ok.inj (made.symm.trans (rows_grouped valid grouped selected bound))
  have all : spec.paging planner.defaultPerPage = none := by
    rw [FilterSpec.paging, unpaged, Option.map_none]
  have shown : onPage (spec.paging planner.defaultPerPage) (results spec rows) =
      (groupTexts field upstream).map fun text =>
        (resultProjection spec).apply (groupRow field upstream text) := by
    rw [all, onPage, results_unsorted unsorted, split, List.map_map]
    rfl
  have counts := count?_groupRow grouped whole whole' bound
  have groups := length_groupTexts_le field upstream
  refine ⟨Occurrence.nodup_eraseDups _, ?_, ?_, ?_, ?_⟩
  · rw [results_pageOf, shown]
  · rw [results_pageOf, shown, List.map_map]
    exact List.map_congr_left fun text _ => counts text
  · rw [results_pageOf, shown, List.map_map, ← sum_groupMembers field upstream]
    refine congrArg List.sum (List.map_congr_left fun text _ => ?_)
    rw [Function.comp_apply, counts, Option.getD_some]
  · have wider : Width.size 63 ≤ Width.size 64 := by decide
    rw [totalCount_pageOf, split, List.length_map]
    rw [split, List.length_map]
    omega

/-- A customer twice, the second time beside a number of its own, and a document without one. -/
def customerStore : Store :=
  ⟨[[("_id", .string "a"), ("customerName", .string "Acme")],
    [("_id", .string "b"), ("customerName", .string "Acme"), ("count", .int 7)],
    [("_id", .string "c"), ("doc", .null)]], 0, ⟨0, 0⟩, 5000, none⟩

def byCustomer : FilterSpec := FilterSpec.empty.groupedBy "customerName"

theorem conditions_byCustomer : tagPlanner.conditions byCustomer none = .ok (none, []) := by
  have valid : byCustomer.validate = .ok () := by
    refine (FilterSpec.validate_ok_iff byCustomer).mpr
      ⟨by decide, by decide, by decide, by decide, ?_⟩
    simp only [byCustomer, FilterSpec.groupedBy, Option.any_some, Text.isBlank_eq]
    decide
  rw [conditions, valid]
  rfl

theorem customers_count_once :
    ∃ page, customerStore.perform (findPage tagPlanner byCustomer none) =
        (.ok page, customerStore) ∧
      page.results = [[("customerName", .string "Acme"), ("count", .int 2)], [("count", .int 1)]] ∧
      (page.results.map fun result => (count? result countField).getD 0).sum = 3 ∧
      page.totalCount = 2 := by
  have accepted : (tagPlanner.plan byCustomer none).isOk = true := by
    rw [plan, conditions_byCustomer]
    rfl
  obtain ⟨upstream, page, selected, found, counted⟩ :=
    groups_count_each_row_once tagPlanner byCustomer none customerStore "customerName" rfl accepted
      rfl rfl (by decide) rfl rfl
  have same : tagPlanner.conditions byCustomer.ungrouped none = .ok (none, []) := by
    have valid := valid_of_conditions conditions_byCustomer
    rw [conditions_congr valid ⟨FilterSpec.validate_ungrouped valid.1, valid.2⟩ rfl,
      conditions_byCustomer]
  have all : upstream = customerStore.documents := by
    rw [rows, same] at selected
    exact (Except.ok.inj selected).symm
  subst all
  obtain ⟨_, shown, _, sum, total⟩ := counted (by decide)
  have texts : customerStore.documents.map (groupText "customerName") =
      [Unicode.lowercase "Acme", Unicode.lowercase "Acme", ""] := rfl
  have distinct : Unicode.lowercase "Acme" ≠ "" :=
    fun empty => absurd ((Unicode.lowercase_eq_empty_iff _).mp empty) (by decide)
  have groups : groupTexts "customerName" customerStore.documents =
      [Unicode.lowercase "Acme", ""] := by
    rw [groupTexts, texts]
    simp [List.eraseDups_cons, Ne.symm distinct]
  obtain ⟨first, rest⟩ := List.cons.inj texts
  obtain ⟨second, rest⟩ := List.cons.inj rest
  obtain ⟨third, _⟩ := List.cons.inj rest
  have members : groupMembers "customerName" customerStore.documents (Unicode.lowercase "Acme") =
      customerStore.documents.take 2 := by
    simp only [groupMembers, customerStore] at first second third ⊢
    simp [first, second, third, Ne.symm distinct]
  have others : groupMembers "customerName" customerStore.documents "" =
      customerStore.documents.drop 2 := by
    simp only [groupMembers, customerStore] at first second third ⊢
    simp [first, second, third, distinct]
  refine ⟨page, found, shown.trans ?_, sum, total.trans ?_⟩
  · rw [groups, List.map_cons, List.map_singleton, groupRow, groupRow, members, others]
    rfl
  · rw [groups]
    rfl

end Engagements.Catalog
