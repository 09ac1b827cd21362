import Engagements.Proofs.Planner

/-!
Field names. Where no document has two fields of one name, no row that is matched, unwound and
flattened has.
-/
namespace Engagements

/-- No document has two fields of one name. -/
def Named (documents : List Document) : Prop :=
  ∀ document ∈ documents, (Fields.names document).Nodup

namespace Value

theorem nodup_mergeFields {fields : Fields} (distinct : fields.names.Nodup) (others : Fields) :
    (mergeFields fields others).names.Nodup := by
  induction others generalizing fields with
  | nil => exact distinct
  | cons head tail ih =>
      obtain ⟨name, value⟩ := head
      rw [mergeFields]
      exact ih (Fields.nodup_insert distinct name _)

end Value

namespace Document

variable {document : Document} (distinct : (Fields.names document).Nodup)
include distinct

theorem nodup_removeSegments (path : List String) :
    (Fields.names (removeSegments document path)).Nodup := by
  unfold removeSegments
  split
  · exact distinct
  · exact Fields.nodup_erase distinct _
  · split
    · exact Fields.nodup_insert distinct _ _
    · exact Fields.nodup_insert distinct _ _
    · exact distinct

theorem named_unwind (path : String) : Named (document.unwind path) := by
  rw [unwind]
  intro row member
  split at member
  · obtain ⟨item, _, rfl⟩ := List.mem_map.mp member
    exact nodup_setSegments distinct (segments path) item
  · cases member
  · cases member
  · rw [List.mem_singleton.mp member]
    exact distinct

end Document

namespace Projection

theorem nodup_mergePart {selected : Document} (distinct : (Fields.names selected).Nodup)
    (part : Option Value) : (Fields.names (mergePart selected part)).Nodup := by
  unfold mergePart
  split
  · exact Value.nodup_mergeFields distinct _
  · exact distinct

theorem nodup_select {selected : Document} (distinct : (Fields.names selected).Nodup)
    (document : Document) (path : String) (selection : Selection) :
    (Fields.names (select document selected path selection)).Nodup := by
  cases selection with
  | kept => exact nodup_mergePart distinct _
  | dropped => exact distinct
  | computed expr =>
      rw [select]
      split
      · exact Document.nodup_setSegments distinct (segments path) _
      · exact distinct

theorem nodup_selectAll {selected : Document} (distinct : (Fields.names selected).Nodup)
    (document : Document) (projection : Projection) :
    (Fields.names (selectAll document selected projection)).Nodup := by
  induction projection generalizing selected with
  | nil => exact distinct
  | cons selection projection ih => exact ih (nodup_select distinct document _ _)

theorem nodup_dropFrom {document : Document} (distinct : (Fields.names document).Nodup)
    (projection : Projection) : (Fields.names (dropFrom document projection)).Nodup := by
  induction projection generalizing document with
  | nil => exact distinct
  | cons selection projection ih =>
      rw [dropFrom]
      apply ih
      split
      · exact Document.nodup_removeSegments distinct _
      · exact distinct

theorem nodup_selectedId (projection : Projection) (document : Document) :
    (Fields.names (projection.selectedId document)).Nodup := by
  rw [selectedId]
  split
  · exact List.nodup_nil
  · split
    · exact List.nodup_singleton _
    · exact List.nodup_nil

/-- Whatever is kept, dropped or computed, names stay apart. -/
theorem nodup_apply (projection : Projection) {document : Document}
    (distinct : (Fields.names document).Nodup) :
    (Fields.names (projection.apply document)).Nodup := by
  rw [apply]
  split
  · exact nodup_selectAll (nodup_selectedId projection document) document projection
  · exact nodup_dropFrom distinct projection

end Projection

namespace Stage

/-- Stages that keep the names of fields apart. -/
def KeepsNames (stages : List Stage) : Prop :=
  ∀ documents found, runAll documents stages = .ok found → Named documents → Named found

theorem keepsNames_nil : KeepsNames [] := by
  intro documents found done named
  rw [← Except.ok.inj done]
  exact named

theorem keepsNames_append {first second : List Stage} (one : KeepsNames first)
    (two : KeepsNames second) : KeepsNames (first ++ second) := by
  intro documents found done named
  rw [runAll_append] at done
  cases between : runAll documents first with
  | error error =>
      rw [between] at done
      cases done
  | ok rows =>
      rw [between] at done
      exact two rows found done (one documents rows between named)

theorem keepsNames_filter (predicate : Predicate) : KeepsNames [.filter predicate] := by
  intro documents found done named document member
  rw [runAll_singleton, run] at done
  rw [← Except.ok.inj done] at member
  exact named document (List.mem_of_mem_filter member)

theorem keepsNames_unwind (path : String) : KeepsNames [.unwind path] := by
  intro documents found done named row member
  rw [runAll_singleton, run] at done
  rw [← Except.ok.inj done] at member
  obtain ⟨document, inside, unwound⟩ := List.mem_flatMap.mp member
  exact Document.named_unwind (named document inside) path row unwound

theorem keepsNames_project (projection : Projection) : KeepsNames [.project projection] := by
  intro documents found done named row member
  rw [runAll_singleton, run] at done
  rw [← Except.ok.inj done] at member
  obtain ⟨document, inside, rfl⟩ := List.mem_map.mp member
  exact projection.nodup_apply (named document inside)

end Stage

namespace Planner

open Stage

theorem keepsNames_unwindStages (spec : FilterSpec) (predicate : Option Predicate)
    (path : String) : KeepsNames (unwindStages spec predicate path) := by
  refine keepsNames_append (keepsNames_append (keepsNames_unwind path) ?_) ?_
  · cases predicate.bind (·.scopedTo path) with
    | none => exact keepsNames_nil
    | some within => exact keepsNames_filter within
  · cases spec.flattenedFields with
    | nil => exact keepsNames_nil
    | cons name names => exact keepsNames_project _

theorem keepsNames_sharedStages {spec : FilterSpec} (ungrouped : spec.groupByField = none)
    (predicate : Option Predicate) : KeepsNames (sharedStages spec predicate) := by
  rw [sharedStages, ungrouped]
  refine keepsNames_append (keepsNames_append ?_ ?_) keepsNames_nil
  · cases predicate with
    | none => exact keepsNames_nil
    | some predicate => exact keepsNames_filter predicate
  · cases spec.unwindField with
    | none => exact keepsNames_nil
    | some path => exact keepsNames_unwindStages spec predicate path

/-- The rows that a filter groups have the names of their fields apart. -/
theorem named_rows {planner : Planner} {spec : FilterSpec} (ungrouped : spec.groupByField = none)
    {base : Option Predicate} {documents rows : List Document}
    (selected : planner.rows spec base documents = .ok rows) (named : Named documents) :
    Named rows := by
  obtain ⟨predicate, _, conditions, passed⟩ := run_shared selected
  have ran := passed []
  rw [List.append_nil] at ran
  exact keepsNames_sharedStages ungrouped predicate documents rows ran named

end Planner

end Engagements
