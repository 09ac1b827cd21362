import Engagements.Proofs.Pipeline.Groups
import Engagements.Proofs.Planner
import Mathlib.Data.List.Perm.Subperm

/-!
Rows that are grouped. Each text of the grouping field has one row, made of the first document with
that text and of the number of documents with it.
-/
namespace Engagements

/-- Only the empty text has no lowercase character. -/
theorem Unicode.lowercase_eq_empty_iff (text : String) : Unicode.lowercase text = "" ↔ text = "" := by
  constructor
  · intro empty
    have none : Unicode.lowerAfter [] text.toList = [] := String.ofList_eq_empty_iff.mp empty
    cases chars : text.toList with
    | nil => exact String.toList_eq_nil_iff.mp chars
    | cons c rest =>
        rw [chars, Unicode.lowerAfter, Unicode.lowerChar] at none
        split_ifs at none <;> cases none
  · rintro rfl
    rfl

namespace FilterSpec

/-- A filter that does not group. -/
def ungrouped (spec : FilterSpec) : FilterSpec := { spec with groupByField := none }

theorem validate_ungrouped {spec : FilterSpec} (valid : spec.validate = .ok ()) :
    spec.ungrouped.validate = .ok () := by
  obtain ⟨shown, paged, sized, unwound, _⟩ := spec.validate_ok_iff.mp valid
  exact (validate_ok_iff _).mpr ⟨shown, paged, sized, unwound, by simp [ungrouped]⟩

end FilterSpec

namespace Planner

/-- The text by which a document is grouped. -/
def groupText (field : String) (document : Document) : String :=
  Expr.lowerText ((Value.object document).get? field)

/-- The texts of the groups, in the order in which they first occur. -/
def groupTexts (field : String) (documents : List Document) : List String :=
  (documents.map (groupText field)).eraseDups

/-- The documents of a group. -/
def groupMembers (field : String) (documents : List Document) (text : String) : List Document :=
  documents.filter fun document => groupText field document = text

/-- The row of a group: its first document, with the text of the group and the number of its
documents. -/
def groupRow (field : String) (documents : List Document) (text : String) : Document :=
  Fields.insert
    (Fields.ofList
      (((groupMembers field documents text).headD []).set groupKeyField (.string text)))
    countField (.int (groupMembers field documents text).length)

/-- The row of a group with its count as it is added up, which is the number of its documents while
this has 64 bits. -/
def countedRow (field : String) (documents : List Document) (text : String) : Document :=
  Fields.insert
    (Fields.ofList
      (((groupMembers field documents text).headD []).set groupKeyField (.string text)))
    countField (Accumulator.value (groupMembers field documents text) (.sum (.literal (.int 1))))

theorem countedRow_eq_groupRow {field : String} {documents : List Document}
    (bound : documents.length < Width.size 63) (text : String) :
    countedRow field documents text = groupRow field documents text := by
  have short : (groupMembers field documents text).length ≤ documents.length :=
    List.length_filter_le _ _
  rw [countedRow, Accumulator.value_sum_ones (by omega), groupRow]

/-- A text for which documents are grouped is that of the first of them. -/
theorem exists_first_of_mem_groupTexts {field text : String} {documents : List Document}
    (member : text ∈ groupTexts field documents) :
    ∃ first others, groupMembers field documents text = first :: others ∧ first ∈ documents ∧
      groupText field first = text := by
  obtain ⟨document, inside, here⟩ := List.mem_map.mp (List.mem_eraseDups.mp member)
  have within : document ∈ groupMembers field documents text :=
    List.mem_filter.mpr ⟨inside, decide_eq_true here⟩
  obtain ⟨first, others, split⟩ := List.exists_cons_of_ne_nil (List.ne_nil_of_mem within)
  have begins : first ∈ groupMembers field documents text := by
    rw [split]
    exact List.mem_cons_self
  obtain ⟨inside, title⟩ := List.mem_filter.mp begins
  exact ⟨first, others, split, inside, of_decide_eq_true title⟩

/-- A row keeps what its document holds at a path that begins neither with the label of the group
nor with its count. -/
theorem get?_counted_labelled {document : Document} (distinct : (Fields.names document).Nodup)
    {path : String} (unlabelled : (segments path).head? ≠ some groupKeyField)
    (uncounted : (segments path).head? ≠ some countField) (label count : Value) :
    (Value.object (Fields.insert (Fields.ofList (document.set groupKeyField label)) countField
      count)).get? path = (Value.object document).get? path := by
  obtain ⟨name, begins⟩ : ∃ name, (segments path).head? = some name :=
    ⟨_, List.head?_eq_some_head (segments_ne_nil path)⟩
  have single : segments groupKeyField = [groupKeyField] := by decide
  have uncounted : name ≠ countField := fun same => uncounted (same ▸ begins)
  have unlabelled : [groupKeyField].head? ≠ some name := fun same =>
    unlabelled (begins.trans same.symm)
  rw [Value.get?_object, Value.get?_object, begins, Option.bind_some, Option.bind_some,
    Fields.get?_insert, if_neg uncounted, Fields.ofList,
    Fields.insertAll_of_nodup (Document.nodup_setSegments distinct _ _), List.nil_append,
    Document.get?_set, single, if_neg unlabelled]

theorem length_groupMembers (field : String) (documents : List Document) (text : String) :
    (groupMembers field documents text).length =
      (documents.map (groupText field)).count text := by
  rw [groupMembers, List.count_eq_length_filter, List.filter_map, List.length_map]
  rfl

/-- A document with the text by which it is grouped. -/
def labelled (field : String) (document : Document) : Document :=
  document.set groupKeyField (.string (groupText field document))

def label (document : Document) : String :=
  ((Fields.get? document groupKeyField).bind Value.asString?).getD ""

theorem get?_labelled (field : String) (document : Document) :
    Fields.get? (labelled field document) groupKeyField =
      some (.string (groupText field document)) := by
  have single : segments groupKeyField = [groupKeyField] := by decide
  rw [labelled, Document.set, single, Document.setSegments, Fields.get?_insert_self]

theorem label_labelled (field : String) (document : Document) :
    label (labelled field document) = groupText field document := by
  rw [label, get?_labelled]
  rfl

theorem keyOf_labelled (field : String) (document : Document) :
    DocumentGroup.keyOf (.field groupKeyField) (labelled field document) =
      .string (label (labelled field document)) := by
  have single : segments groupKeyField = [groupKeyField] := by decide
  rw [DocumentGroup.keyOf, Expr.eval, Value.get?_field _ single, get?_labelled, label_labelled]
  rfl

theorem groups_labelled (field : String) (documents : List Document) :
    DocumentGroup.ofDocuments (.field groupKeyField) (documents.map (labelled field)) =
      (groupTexts field documents).map
        (DocumentGroup.named label (documents.map (labelled field))) := by
  have keyed : ∀ document ∈ documents.map (labelled field),
      DocumentGroup.keyOf (.field groupKeyField) document = .string (label document) := by
    intro document member
    obtain ⟨source, _, rfl⟩ := List.mem_map.mp member
    exact keyOf_labelled field source
  have texts : (documents.map (labelled field)).map label = documents.map (groupText field) := by
    rw [List.map_map]
    apply List.map_congr_left
    intro document _
    exact label_labelled field document
  rw [DocumentGroup.ofDocuments_eq keyed, texts, groupTexts]

theorem named_labelled (field : String) (documents : List Document) (text : String) :
    (DocumentGroup.named label (documents.map (labelled field)) text).documents =
      (groupMembers field documents text).map (labelled field) := by
  have same : (fun document => decide (label document = text)) ∘ labelled field =
      fun document => decide (groupText field document = text) := by
    funext document
    simp only [Function.comp_apply, label_labelled]
  change (documents.map (labelled field)).filter _ = _
  rw [List.filter_map, same, groupMembers]

/-- What stands for a group whose first document is known. -/
theorem toDocument_group {group : DocumentGroup} {first : Document} {others : List Document}
    (known : group.documents = first :: others) :
    group.toDocument [(groupDocumentField, .first .root), (countField, .sum (.literal (.int 1)))] =
      [(idField, group.key), (groupDocumentField, .object first),
        (countField, Accumulator.value group.documents (.sum (.literal (.int 1))))] := by
  have head : Accumulator.value group.documents (.first .root) = .object first := by
    rw [known]
    rfl
  have distinct : (Fields.names ([] ++ [(idField, group.key),
      (groupDocumentField, .object first), (countField,
        Accumulator.value group.documents (.sum (.literal (.int 1))))])).Nodup := by
    simp [Fields.names, idField, groupDocumentField, countField]
  change Fields.ofList [(idField, group.key),
    (groupDocumentField, Accumulator.value group.documents (.first .root)),
    (countField, Accumulator.value group.documents (.sum (.literal (.int 1))))] = _
  rw [head, Fields.ofList, Fields.insertAll_of_nodup distinct]
  rfl

theorem evalMerged_group (key : Value) (first : Document) (count : Value) :
    Expr.evalMerged [(idField, key), (groupDocumentField, .object first), (countField, count)] []
        [.field groupDocumentField, .object [(countField, .field countField)]] =
      Fields.insert (Fields.ofList first) countField count := by
  have document : (Expr.field groupDocumentField).eval
      [(idField, key), (groupDocumentField, .object first), (countField, count)] =
        some (.object first) := by
    rw [Expr.eval, Value.get?_field _ (by decide)]
    rfl
  have counted : (Expr.field countField).eval
      [(idField, key), (groupDocumentField, .object first), (countField, count)] =
        some count := by
    rw [Expr.eval, Value.get?_field _ (by decide)]
    rfl
  rw [Expr.evalMerged, document, Expr.evalMerged, Expr.eval, Expr.evalFields, counted]
  rfl

theorem runAll_groupStages (field : String) (documents : List Document) :
    Stage.runAll documents (groupStages field) =
      .ok ((groupTexts field documents).map (countedRow field documents)) := by
  have rows : ∀ text ∈ groupTexts field documents,
      Expr.evalMerged ((DocumentGroup.named label (documents.map (labelled field))
          text).toDocument
          [(groupDocumentField, .first .root), (countField, .sum (.literal (.int 1)))]) []
          [.field groupDocumentField, .object [(countField, .field countField)]] =
        countedRow field documents text := by
    intro text member
    obtain ⟨first, others, split, _, title⟩ := exists_first_of_mem_groupTexts member
    have known := named_labelled field documents text
    have length : (DocumentGroup.named label (documents.map (labelled field))
        text).documents.length = (groupMembers field documents text).length := by
      rw [known, List.length_map]
    have count := Accumulator.value_sum_ones_congr length
    rw [split, List.map_cons] at known
    rw [toDocument_group known, evalMerged_group, count, countedRow, split, List.headD_cons,
      labelled, title]
  change Stage.runAll ((DocumentGroup.ofDocuments (.field groupKeyField)
    (documents.map (labelled field))).map _) [.replaceRoot _] = _
  rw [groups_labelled, Stage.runAll_singleton, Stage.run_replaceRoot_merged, List.map_map,
    List.map_map]
  exact congrArg Except.ok (List.map_congr_left rows)

theorem length_groupTexts_le (field : String) (documents : List Document) :
    (groupTexts field documents).length ≤ documents.length := by
  have within : groupTexts field documents ⊆ documents.map (groupText field) :=
    fun _ member => List.mem_eraseDups.mp member
  have distinct : (groupTexts field documents).Nodup := Occurrence.nodup_eraseDups _
  have length := (distinct.subperm within).length_le
  rwa [List.length_map] at length

theorem sum_groupMembers (field : String) (documents : List Document) :
    ((groupTexts field documents).map fun text =>
      (groupMembers field documents text).length).sum = documents.length := by
  have counts : ((groupTexts field documents).map fun text =>
      (groupMembers field documents text).length) =
        (documents.map (groupText field)).eraseDups.map fun text =>
          (documents.map (groupText field)).count text := by
    apply List.map_congr_left
    intro text _
    exact length_groupMembers field documents text
  rw [counts, Occurrence.sum_count_eraseDups, List.length_map]

theorem conditions_ungrouped {planner : Planner} {spec : FilterSpec}
    (valid : spec.validate = .ok () ∧ planner.checkSize spec = .ok ()) (base : Option Predicate) :
    planner.conditions spec.ungrouped base = planner.conditions spec base :=
  conditions_congr valid ⟨FilterSpec.validate_ungrouped valid.1, valid.2⟩ rfl base

/-- A filter that groups has one row for each text among the rows that it groups. -/
theorem rows_counted {planner : Planner} {spec : FilterSpec} {base : Option Predicate}
    {documents upstream : List Document} {field : String}
    (valid : spec.validate = .ok () ∧ planner.checkSize spec = .ok ())
    (grouped : spec.groupByField = some field)
    (selected : planner.rows spec.ungrouped base documents = .ok upstream) :
    planner.rows spec base documents =
      .ok ((groupTexts field upstream).map (countedRow field upstream)) := by
  obtain ⟨predicate, ignored, conditions, passed⟩ := run_shared selected
  have stages : sharedStages spec predicate =
      sharedStages spec.ungrouped predicate ++ groupStages field := by
    rw [sharedStages, sharedStages, grouped]
    simp [FilterSpec.ungrouped, unwindStages, FilterSpec.flattenedFields]
  rw [rows, ← conditions_ungrouped valid, conditions]
  change Pipeline.run (sharedStages spec predicate) documents = _
  rw [stages, passed, runAll_groupStages]

theorem rows_grouped {planner : Planner} {spec : FilterSpec} {base : Option Predicate}
    {documents upstream : List Document} {field : String}
    (valid : spec.validate = .ok () ∧ planner.checkSize spec = .ok ())
    (grouped : spec.groupByField = some field)
    (selected : planner.rows spec.ungrouped base documents = .ok upstream)
    (bound : upstream.length < Width.size 63) :
    planner.rows spec base documents =
      .ok ((groupTexts field upstream).map (groupRow field upstream)) := by
  have rows : (groupTexts field upstream).map (countedRow field upstream) =
      (groupTexts field upstream).map (groupRow field upstream) :=
    List.map_congr_left fun text _ => countedRow_eq_groupRow bound text
  rw [rows_counted valid grouped selected, rows]

end Planner

end Engagements
