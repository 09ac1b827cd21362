import Engagements.Proofs.Catalog.Groups
import Engagements.Proofs.Planner.Flattening
import Engagements.Proofs.Planner.Naming
import Mathlib.Data.List.Forall2

/-!
The value that the row of a group shows. It is that of the first document of the group, and tells
the group from the others; but the label and the count of a group stand in fields of documents, and
replace the value of a path that leads through these.
-/
namespace Engagements

namespace Projection

/-- Beside what is dropped, a field that is computed holds the value of its expression, even if
another one is computed after it; without a value, only the identifying field can stand there. -/
theorem get?_apply_compute_before {path later : String} (single : segments path = [path])
    (single' : segments later = [later]) (different : path ≠ later) {projection : Projection}
    (dropping : ∀ selection ∈ projection, selection.2 = .dropped) (expr last : Expr)
    (document : Document) :
    Fields.get? (((projection.compute path expr).compute later last).apply document) path =
      (expr.eval document).or (Fields.get?
        (((projection.compute path expr).compute later last).selectedId document) path) := by
  have inclusive : ((projection.compute path expr).compute later last).isInclusive = true := by
    simp [isInclusive, compute, add, Selection.isDropped]
  have kept : (projection.compute path expr).filter (·.1 != later) =
      (projection.filter (·.1 != path)).filter (·.1 != later) ++ [(path, .computed expr)] := by
    simp [compute, add, different]
  rw [apply, if_pos inclusive]
  generalize ((projection.compute path expr).compute later last).selectedId document = selected
  rw [compute, add, kept, selectAll_append, selectAll, selectAll,
    get?_select_computed single', if_neg (Ne.symm different), selectAll_append, selectAll,
    selectAll, get?_select_computed single, if_pos rfl, get?_selectAll_of_unset]
  intro selection member
  exact Or.inl (dropping selection (List.mem_of_mem_filter (List.mem_of_mem_filter member)))

end Projection

namespace Planner

/-- Rows are sorted as what they are made of is. -/
theorem sorted_map {α : Type} (keys : List SortKey) (row : α → Document) (all : List α) :
    ∃ arranged : List α, arranged.Perm all ∧ sorted keys (all.map row) = arranged.map row := by
  cases keys with
  | nil => exact ⟨all, List.Perm.refl all, rfl⟩
  | cons key keys =>
      refine ⟨all.mergeSort fun left right =>
        Document.orderBy (key :: keys) (row left) (row right) != .gt, List.mergeSort_perm _ _, ?_⟩
      exact Eq.symm (List.map_mergeSort (f := row) fun _ _ _ _ => rfl)

theorem nodup_onPage {α : Type} (paging : Option Paging) {all : List α} (distinct : all.Nodup) :
    (onPage paging all).Nodup := by
  cases paging with
  | none => exact distinct
  | some paging => exact distinct.sublist ((List.take_sublist _ _).trans (List.drop_sublist _ _))

theorem mem_of_mem_onPage {α : Type} {paging : Option Paging} {all : List α} {item : α}
    (inside : item ∈ onPage paging all) : item ∈ all := by
  cases paging with
  | none => exact inside
  | some paging => exact List.mem_of_mem_drop (List.mem_of_mem_take inside)

end Planner

namespace Catalog

open Planner

/-- A path through none of the fields in which a group is labelled and counted, and whose last
segment is not the name of the count. -/
structure Identifiable (field : String) : Prop where
  unlabelled : (segments field).head? ≠ some groupKeyField
  uncounted : (segments field).head? ≠ some countField
  unreplaced : trailingSegment field ≠ countField

/-- A row shows, under the last segment of a field, the value that the field has in the first
document of a group, and the text of the group is its lowercase text. -/
def Shows (field : String) (documents : List Document) (text : String) (row : Document) : Prop :=
  ∃ first shown, (groupMembers field documents text).head? = some first ∧
    (Value.object first).get? field = some shown ∧
    Fields.get? row (trailingSegment field) = some shown ∧ Expr.lowerText (some shown) = text

/-- The lowercase text of what a row shows of a field. -/
def shownText (field : String) (row : Document) : String :=
  Expr.lowerText (Fields.get? row (trailingSegment field))

/-- The rows on a page are those of the groups, in some order. But for the group of the empty text,
each shows the value of its group, and no two of them show values with one lowercase text. -/
structure Identifies (planner : Planner) (spec : FilterSpec) (base : Option Predicate)
    (store : Store) (field : String) (upstream : List Document) (page : Page)
    (texts : List String) : Prop where
  selected : planner.rows spec.ungrouped base store.documents = .ok upstream
  found : store.perform (findPage planner spec base) = (.ok page, store)
  groups : texts.Perm (groupTexts field upstream)
  shown : List.Forall₂ (fun text row => text ≠ "" → Shows field upstream text row)
    (onPage (spec.paging planner.defaultPerPage) texts) page.results
  apart : ((onPage (spec.paging planner.defaultPerPage) texts).zip page.results).Pairwise
    fun entry other => entry.1 ≠ "" → other.1 ≠ "" →
      shownText field entry.2 ≠ shownText field other.2

theorem Shows.shownText_eq {field text : String} {documents : List Document} {row : Document}
    (shows : Shows field documents text row) : shownText field row = text := by
  obtain ⟨first, shown, _, _, held, lower⟩ := shows
  rw [shownText, held, lower]

/-- Unless it gives way to the count, the value of the grouping field is shown under the last
segment of the field. -/
theorem get?_trailing {spec : FilterSpec} {field : String}
    (grouped : spec.groupByField = some field) (whole : spec.included = none)
    (whole' : spec.excluded = none) (unreplaced : trailingSegment field ≠ countField)
    (row : Document) :
    Fields.get? ((resultProjection spec).apply row) (trailingSegment field) =
      ((Value.object row).get? field).or
        (Fields.get? ((resultProjection spec).selectedId row) (trailingSegment field)) := by
  have single : segments countField = [countField] := by decide
  rw [resultProjection, whole, whole', grouped]
  refine Projection.get?_apply_compute_before (segments_trailingSegment field) single unreplaced ?_
    (.field field) (.field countField) row
  intro selection member
  rw [List.mem_singleton.mp member]

/-! Paths that are free. -/

theorem shows_countedRow {spec : FilterSpec} {field : String} (free : Identifiable field)
    (grouped : spec.groupByField = some field) (whole : spec.included = none)
    (whole' : spec.excluded = none) {documents : List Document} (named : Named documents)
    {text : String} (member : text ∈ groupTexts field documents) (filled : text ≠ "") :
    Shows field documents text
      ((resultProjection spec).apply (countedRow field documents text)) := by
  obtain ⟨first, others, split, inside, title⟩ := exists_first_of_mem_groupTexts member
  obtain ⟨shown, held⟩ : ∃ shown, (Value.object first).get? field = some shown := by
    cases held : (Value.object first).get? field with
    | some shown => exact ⟨shown, rfl⟩
    | none =>
        rw [groupText, held] at title
        exact absurd title.symm filled
  have kept : (Value.object (countedRow field documents text)).get? field = some shown := by
    rw [countedRow, split, List.headD_cons,
      get?_counted_labelled (named first inside) free.unlabelled free.uncounted, held]
  refine ⟨first, shown, by rw [split, List.head?_cons], held, ?_, ?_⟩
  · rw [get?_trailing grouped whole whole' free.unreplaced, kept, Option.some_or]
  · rw [← held]
    exact title

/-- The page of a filter that groups is made text by text, so that a text and its row have one
place. -/
theorem perform_grouped {planner : Planner} {spec : FilterSpec} {base : Option Predicate}
    {store : Store} {field : String} (struck : store.outage = none)
    (accepted : (planner.plan spec base).isOk = true) (grouped : spec.groupByField = some field) :
    ∃ upstream page texts, planner.rows spec.ungrouped base store.documents = .ok upstream ∧
      store.perform (findPage planner spec base) = (.ok page, store) ∧
      texts.Perm (groupTexts field upstream) ∧
      page.results = (onPage (spec.paging planner.defaultPerPage) texts).map fun text =>
        (resultProjection spec).apply (countedRow field upstream text) := by
  obtain ⟨predicate, ignored, conditions⟩ := conditions_of_plan accepted
  have valid := valid_of_conditions conditions
  obtain ⟨upstream, done⟩ := sure_sharedStages spec.ungrouped predicate store.documents
  have selected : planner.rows spec.ungrouped base store.documents = .ok upstream := by
    rw [rows, conditions_ungrouped valid, conditions]
    exact done
  have made := rows_counted valid grouped selected
  obtain ⟨texts, groups, arranged⟩ :=
    sorted_map spec.sortKeys (countedRow field upstream) (groupTexts field upstream)
  refine ⟨upstream, _, texts, selected, perform_findPage struck made, groups, ?_⟩
  rw [results_pageOf, results, arranged, List.map_map, map_onPage]
  rfl

theorem identifies_of_identifiable {planner : Planner} {spec : FilterSpec}
    {base : Option Predicate} {store : Store} {field : String} (free : Identifiable field)
    (struck : store.outage = none) (named : Named store.documents)
    (accepted : (planner.plan spec base).isOk = true) (grouped : spec.groupByField = some field)
    (whole : spec.included = none) (whole' : spec.excluded = none) :
    ∃ upstream page texts, Identifies planner spec base store field upstream page texts := by
  obtain ⟨upstream, page, texts, selected, found, groups, results⟩ :=
    perform_grouped struck accepted grouped
  have named : Named upstream := named_rows rfl selected named
  let row := fun text => (resultProjection spec).apply (countedRow field upstream text)
  have shows : ∀ text ∈ onPage (spec.paging planner.defaultPerPage) texts, text ≠ "" →
      Shows field upstream text (row text) := by
    intro text member filled
    have within : text ∈ groupTexts field upstream := groups.mem_iff.mp (mem_of_mem_onPage member)
    exact shows_countedRow free grouped whole whole' named within filled
  have distinct : (onPage (spec.paging planner.defaultPerPage) texts).Nodup :=
    nodup_onPage _ (groups.nodup_iff.mpr (Occurrence.nodup_eraseDups _))
  refine ⟨upstream, page, texts, selected, found, groups, ?_, ?_⟩
  · rw [results, List.forall₂_map_right_iff, List.forall₂_same]
    exact shows
  · rw [results, ← List.map_prod_left_eq_zip, List.pairwise_map]
    apply distinct.imp_of_mem
    intro text other member member' different filled filled'
    change shownText field (row text) ≠ shownText field (row other)
    rw [(shows text member filled).shownText_eq, (shows other member' filled').shownText_eq]
    exact different

/-! Paths that are taken. -/

/-- A store of one document. -/
def loneStore (document : Document) : Store := ⟨[document], 0, ⟨0, 0⟩, 5000, none⟩

theorem groupTexts_singleton (field : String) (document : Document) :
    groupTexts field [document] = [groupText field document] := by
  simp [groupTexts, List.eraseDups_cons]

theorem groupMembers_singleton (field : String) (document : Document) :
    groupMembers field [document] (groupText field document) = [document] := by
  simp [groupMembers]

/-- The row of a document that is a group of its own. -/
def loneRow (field : String) (document : Document) : Document :=
  Fields.insert
    (Fields.ofList (document.set groupKeyField (.string (groupText field document)))) countField
    (.int 1)

/-- One row makes one group. -/
theorem perform_lone {planner : Planner} {spec : FilterSpec} {base : Option Predicate}
    {store : Store} {field : String} (struck : store.outage = none)
    (valid : spec.validate = .ok () ∧ planner.checkSize spec = .ok ())
    (grouped : spec.groupByField = some field) (unpaged : spec.page = none)
    (unsorted : spec.sortKeys = []) {document : Document}
    (selected : planner.rows spec.ungrouped base store.documents = .ok [document]) :
    ∃ page, store.perform (findPage planner spec base) = (.ok page, store) ∧
      page.results = [(resultProjection spec).apply (loneRow field document)] := by
  have made := rows_grouped valid grouped selected (by decide : 1 < Width.size 63)
  have alone : (groupTexts field [document]).map (groupRow field [document]) =
      [loneRow field document] := by
    rw [groupTexts_singleton, List.map_singleton, groupRow, groupMembers_singleton]
    rfl
  have all : spec.paging planner.defaultPerPage = none := by
    rw [FilterSpec.paging, unpaged, Option.map_none]
  refine ⟨_, perform_findPage struck made, ?_⟩
  rw [results_pageOf, all, onPage, results_unsorted unsorted, alone, List.map_singleton]

/-- Where a path begins in a field that is replaced by a value without parts, it leads to this value
or nowhere. -/
theorem get?_ne_of_replaced {row : Document} {path name : String} {value goal : Value}
    (begins : (segments path).head? = some name) (held : Fields.get? row name = some value)
    (ends : ∀ segment rest, value.getSegments (segment :: rest) = none) (other : value ≠ goal) :
    (Value.object row).get? path ≠ some goal := by
  rw [Value.get?_object, begins, Option.bind_some, held, Option.bind_some]
  cases below : (segments path).tail with
  | nil =>
      rw [Value.getSegments_nil]
      exact fun same => other (Option.some.inj same)
  | cons segment rest =>
      rw [ends]
      exact nofun

theorem get?_count_loneRow (field : String) (document : Document) :
    Fields.get? (loneRow field document) countField = some (.int 1) := by
  rw [loneRow, Fields.get?_insert_self]

theorem get?_label_loneRow (field : String) {document : Document}
    (distinct : (Fields.names document).Nodup) :
    Fields.get? (loneRow field document) groupKeyField =
      some (.string (groupText field document)) := by
  have single : segments groupKeyField = [groupKeyField] := by decide
  rw [loneRow, Fields.get?_insert, if_neg (by decide), Fields.ofList,
    Fields.insertAll_of_nodup (Document.nodup_setSegments distinct _ _), List.nil_append,
    Document.get?_set, single, List.head?_cons, if_pos rfl]
  rfl

/-- A document that holds nothing but a flag at a path. -/
def flagged (field : String) : Document := Document.set [] field (.bool true)

theorem nodup_flagged (field : String) : (Fields.names (flagged field)).Nodup := by
  have none : (Fields.names []).Nodup := List.nodup_nil
  exact Document.nodup_setSegments none (segments field) (.bool true)

/-- Where a group is labelled or counted, a flag is lost. -/
theorem get?_loneRow_flagged_ne {field name : String} (begins : (segments field).head? = some name)
    (reserved : name = groupKeyField ∨ name = countField) :
    (Value.object (loneRow field (flagged field))).get? field ≠ some (.bool true) := by
  rcases reserved with rfl | rfl
  · have labelled := get?_label_loneRow field (nodup_flagged field)
    exact get?_ne_of_replaced begins labelled (fun _ _ => rfl) nofun
  · have counted := get?_count_loneRow field (flagged field)
    exact get?_ne_of_replaced begins counted (fun _ _ => rfl) (by decide)

/-- A path that is taken but does not end in the count begins at the label or at the count. -/
theorem begins_of_taken {field : String} (taken : ¬ Identifiable field)
    (last : trailingSegment field ≠ countField) :
    ∃ name, (segments field).head? = some name ∧ (name = groupKeyField ∨ name = countField) := by
  by_contra free
  refine taken ⟨fun begins => free ?_, fun begins => free ?_, last⟩
  · exact ⟨groupKeyField, begins, Or.inl rfl⟩
  · exact ⟨countField, begins, Or.inr rfl⟩

/-- The flag is all that its document holds, so the row has no identifier. -/
theorem get?_id_loneRow {field name : String} (begins : (segments field).head? = some name)
    (reserved : name = groupKeyField ∨ name = countField) :
    Fields.get? (loneRow field (flagged field)) idField = none := by
  have single : segments idField = [idField] := by decide
  have other : (segments field).head? ≠ some idField := by
    rw [begins]
    rcases reserved with rfl | rfl <;> decide
  rw [← Value.get?_field _ single, loneRow, get?_counted_labelled (nodup_flagged field)
    (by decide) (by decide), Value.get?_field _ single, flagged, Document.get?_set, if_neg other]
  rfl

/-- Where the last segment of the field is the name of the count, the row of a group is its count
and nothing else. -/
theorem apply_loneRow_of_replaced {spec : FilterSpec} {field : String}
    (grouped : spec.groupByField = some field) (whole : spec.included = none)
    (whole' : spec.excluded = none) (replaced : trailingSegment field = countField)
    (document : Document) :
    (resultProjection spec).apply (loneRow field document) = [(countField, .int 1)] := by
  have single : segments countField = [countField] := by decide
  have plain : idField ≠ countField := by decide
  have projected : resultProjection spec =
      [(idField, .dropped), (countField, .computed (.field countField))] := by
    simp [resultProjection, whole, whole', grouped, replaced, Projection.drop, Projection.compute,
      Projection.add, plain]
  have counted : (Expr.field countField).eval (loneRow field document) = some (.int 1) := by
    rw [Expr.eval, Value.get?_field _ single, get?_count_loneRow]
  rw [projected, Projection.apply, if_pos (by rfl), Projection.selectedId, if_pos (by rfl)]
  simp only [Projection.selectAll, Projection.select, counted, Document.set, single,
    Document.setSegments, Fields.insert]

theorem not_shown_of_taken {spec : FilterSpec} {field : String}
    (grouped : spec.groupByField = some field) (whole : spec.included = none)
    (whole' : spec.excluded = none) (taken : ¬ Identifiable field) :
    Fields.get? ((resultProjection spec).apply (loneRow field (flagged field)))
      (trailingSegment field) ≠ some (.bool true) := by
  by_cases last : trailingSegment field = countField
  · rw [apply_loneRow_of_replaced grouped whole whole' last, last]
    decide
  · obtain ⟨name, begins, reserved⟩ := begins_of_taken taken last
    have lost := get?_loneRow_flagged_ne begins reserved
    rw [get?_trailing grouped whole whole' last]
    cases found : (Value.object (loneRow field (flagged field))).get? field with
    | some value =>
        rw [Option.some_or, ← found]
        exact lost
    | none =>
        have bare : (resultProjection spec).selectedId (loneRow field (flagged field)) = [] := by
          rw [Projection.selectedId, get?_id_loneRow begins reserved, ite_self]
        rw [Option.none_or, bare]
        intro shown
        cases shown

theorem get?_flagged (field : String) :
    (Value.object (flagged field)).get? field = some (.bool true) :=
  Value.get?_set_self [] field (.bool true)

theorem groupText_flagged_ne (field : String) : groupText field (flagged field) ≠ "" := by
  rw [groupText, get?_flagged, Expr.lowerText]
  · intro empty
    exact absurd ((Unicode.lowercase_eq_empty_iff _).mp empty) (by decide)
  all_goals exact nofun

/-! Filters that only group. -/

theorem conditions_groupedBy (planner : Planner) {field : String}
    (visible : Text.isBlank field = false) :
    planner.conditions (FilterSpec.empty.groupedBy field) none = .ok (none, []) := by
  have valid : (FilterSpec.empty.groupedBy field).validate = .ok () := by
    refine (FilterSpec.validate_ok_iff _).mpr ⟨nofun, nofun, nofun, nofun, ?_⟩
    simp [FilterSpec.groupedBy, visible]
  exact conditions_unsearched valid (planner.checkSize_of_unsized rfl) rfl

theorem accepted_groupedBy (planner : Planner) {field : String}
    (visible : Text.isBlank field = false) :
    (planner.plan (FilterSpec.empty.groupedBy field) none).isOk = true := by
  rw [plan, conditions_groupedBy planner visible]
  rfl

/-- On a store of one document such a filter has the row of this document. -/
theorem perform_groupedBy (planner : Planner) {field : String}
    (visible : Text.isBlank field = false) (document : Document) :
    planner.rows (FilterSpec.empty.groupedBy field).ungrouped none [document] = .ok [document] ∧
      ∃ page, (loneStore document).perform
          (findPage planner (FilterSpec.empty.groupedBy field) none) =
            (.ok page, loneStore document) ∧
        page.results = [(resultProjection (FilterSpec.empty.groupedBy field)).apply
          (loneRow field document)] := by
  have conditions := conditions_groupedBy planner visible
  have valid := valid_of_conditions conditions
  have selected : planner.rows (FilterSpec.empty.groupedBy field).ungrouped none [document] =
      .ok [document] := by
    rw [rows, conditions_ungrouped valid, conditions]
    rfl
  have unsorted : (FilterSpec.empty.groupedBy field).sortKeys = [] := by
    change FilterSpec.empty.sortKeys = []
    decide
  exact ⟨selected, perform_lone rfl valid rfl rfl unsorted selected⟩

/-- If rows identify their groups, the row of a single document shows the value of this. -/
theorem Identifies.shows_lone {planner : Planner} {field : String}
    (visible : Text.isBlank field = false) {document : Document} {upstream : List Document}
    {page : Page} {texts : List String}
    (identifies : Identifies planner (FilterSpec.empty.groupedBy field) none (loneStore document)
      field upstream page texts) (filled : groupText field document ≠ "") :
    ∃ row, page.results = [row] ∧
      row = (resultProjection (FilterSpec.empty.groupedBy field)).apply (loneRow field document) ∧
      Fields.get? row (trailingSegment field) = (Value.object document).get? field := by
  obtain ⟨selected, found, groups, shown, _⟩ := identifies
  obtain ⟨single, page', found', results⟩ := perform_groupedBy planner visible document
  obtain rfl := Except.ok.inj (selected.symm.trans single)
  obtain rfl := Except.ok.inj (Prod.mk.inj (found.symm.trans found')).1
  rw [groupTexts_singleton, List.perm_singleton] at groups
  rw [groups, results] at shown
  obtain ⟨here, _⟩ := List.forall₂_cons.mp shown
  obtain ⟨first, value, begins, held, row, _⟩ := here filled
  rw [groupMembers_singleton] at begins
  obtain rfl := Option.some.inj begins
  exact ⟨_, results, rfl, row.trans held.symm⟩

/-- The rows of groups identify these, on every store and for every filter that groups by a field
and chooses no fields, exactly if the path of the field does not begin at the label or the count of
a group, and does not end in the name of the count. -/
theorem group_rows_identify_iff (planner : Planner) {field : String}
    (visible : Text.isBlank field = false) :
    Identifiable field ↔
      ∀ spec base store, store.outage = none → Named store.documents →
        (planner.plan spec base).isOk = true → spec.groupByField = some field →
          spec.included = none → spec.excluded = none →
            ∃ upstream page texts,
              Identifies planner spec base store field upstream page texts := by
  constructor
  · intro free spec base store struck named accepted grouped whole whole'
    exact identifies_of_identifiable free struck named accepted grouped whole whole'
  · intro identifies
    by_contra taken
    have named : Named (loneStore (flagged field)).documents := by
      intro document member
      rw [List.mem_singleton.mp member]
      exact nodup_flagged field
    obtain ⟨upstream, page, texts, identified⟩ :=
      identifies (FilterSpec.empty.groupedBy field) none (loneStore (flagged field)) rfl named
        (accepted_groupedBy planner visible) rfl rfl rfl
    obtain ⟨row, _, rfl, shown⟩ := identified.shows_lone visible (groupText_flagged_ne field)
    exact not_shown_of_taken rfl rfl rfl taken (shown.trans (get?_flagged field))

/-- A customer beside a count of the document's own. -/
def acme : Document :=
  [("_id", .string "a"), ("customer", .object [("name", .string "Acme")]), ("count", .int 7)]

theorem acme_identified :
    ∃ row page, (loneStore acme).perform
        (findPage tagPlanner (FilterSpec.empty.groupedBy "customer.name") none) =
          (.ok page, loneStore acme) ∧
      page.results = [row] ∧ Fields.get? row "name" = some (.string "Acme") := by
  have visible : Text.isBlank "customer.name" = false := by
    rw [Text.isBlank_eq]
    decide
  have free : Identifiable "customer.name" := ⟨by decide, by decide, by decide⟩
  have named : Named (loneStore acme).documents := List.forall_mem_singleton.mpr (by decide)
  have held : (Value.object acme).get? "customer.name" = some (.string "Acme") := by
    decide +kernel
  have filled : groupText "customer.name" acme ≠ "" := by
    rw [groupText, held]
    exact fun empty => absurd ((Unicode.lowercase_eq_empty_iff _).mp empty) (by decide)
  obtain ⟨upstream, page, texts, identified⟩ :=
    (group_rows_identify_iff tagPlanner visible).mp free
      (FilterSpec.empty.groupedBy "customer.name") none (loneStore acme) rfl named
      (accepted_groupedBy tagPlanner visible) rfl rfl rfl
  obtain ⟨row, results, _, shown⟩ := identified.shows_lone visible filled
  have trailing : trailingSegment "customer.name" = "name" := by decide
  rw [trailing] at shown
  exact ⟨row, page, identified.found, results, shown.trans held⟩

def sizedCategory : Document :=
  [("uuid", .string "u"),
    ("categories", .array [.object [("name", .string "lab"), ("count", .int 3)]])]

/-- Unwound categories by how many there are of each. -/
def bySize : FilterSpec := (FilterSpec.empty.unwinding "categories").groupedBy "categories.count"

/-- The size of a category gives way to the number of categories with this size. -/
theorem size_replaced_by_count :
    ∃ row page, tagPlanner.rows bySize.ungrouped none [sizedCategory] = .ok [row] ∧
      (loneStore sizedCategory).perform (findPage tagPlanner bySize none) =
        (.ok page, loneStore sizedCategory) ∧
      (Value.object row).get? "categories.count" = some (.int 3) ∧
      groupText "categories.count" row ≠ "" ∧
      page.results = [[("count", .int 1)]] := by
  have valid : bySize.validate = .ok () := by
    refine (FilterSpec.validate_ok_iff _).mpr ⟨nofun, nofun, nofun, ?_, ?_⟩
    · simp only [bySize, FilterSpec.unwinding, FilterSpec.groupedBy, Option.any_some,
        Text.isBlank_eq]
      decide
    · simp only [bySize, FilterSpec.unwinding, FilterSpec.groupedBy, Option.any_some,
        Text.isBlank_eq]
      decide
  have valid' : bySize.validate = .ok () ∧ tagPlanner.checkSize bySize = .ok () :=
    ⟨valid, tagPlanner.checkSize_of_unsized rfl⟩
  have selected : tagPlanner.rows bySize.ungrouped none [sizedCategory] =
      .ok [[("uuid", .string "u"),
        ("categories", .object [("name", .string "lab"), ("count", .int 3)])]] := by
    rw [rows, conditions_unsearched (FilterSpec.validate_ungrouped valid) valid'.2 rfl]
    decide +kernel
  have unsorted : bySize.sortKeys = [] := by
    change FilterSpec.empty.sortKeys = []
    decide
  obtain ⟨page, found, results⟩ :=
    perform_lone (rfl : (loneStore sizedCategory).outage = none) valid' rfl rfl unsorted selected
  have held : (Value.object [("uuid", .string "u"),
      ("categories", .object [("name", .string "lab"), ("count", .int 3)])]).get?
        "categories.count" = some (.int 3) := by decide +kernel
  rw [apply_loneRow_of_replaced rfl rfl rfl (by decide)] at results
  refine ⟨_, page, selected, found, held, ?_, results⟩
  rw [groupText, held]
  exact fun empty => absurd ((Unicode.lowercase_eq_empty_iff _).mp empty) (by decide)

end Catalog

end Engagements
