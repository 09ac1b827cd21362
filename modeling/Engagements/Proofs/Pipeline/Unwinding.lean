import Engagements.Pipeline.Run
import Engagements.Proofs.Path.Parting

/-!
The rows of an unwound document: what they hold at the path that is unwound, and what they keep at
the paths beside it.
-/
namespace Engagements.Document

open Value

/-- The items of an array stand at its path, one in each row. -/
theorem map_get?_unwind {document : Document} {path : String} {items : List Value}
    (reached : (object document).get? path = some (array items)) :
    (document.unwind path).map (fun row => (object row).get? path) = items.map some := by
  rw [unwind, reached, List.map_map]
  exact List.map_congr_left fun item _ => get?_set_self document path item

theorem unwind_of_nothing {document : Document} {path : String}
    (nothing : (object document).get? path = none ∨ (object document).get? path = some null) :
    document.unwind path = [] := by
  rcases nothing with reached | reached <;> rw [unwind, reached]

theorem unwind_of_single {document : Document} {path : String} {value : Value}
    (reached : (object document).get? path = some value) (some : value ≠ null)
    (single : ∀ items, value ≠ array items) : document.unwind path = [document] := by
  rw [unwind, reached]
  cases value with
  | null => exact absurd rfl some
  | array items => exact absurd rfl (single items)
  | _ => rfl

/-- A row sets the path to an item, or is the document itself, which then has no array there. -/
theorem unwind_cases {document row : Document} {path : String}
    (member : row ∈ document.unwind path) :
    (∃ item, row = document.set path item) ∨
      row = document ∧ ∀ items, (object document).get? path ≠ some (array items) := by
  rw [unwind] at member
  split at member
  · obtain ⟨item, _, made⟩ := List.mem_map.mp member
    exact Or.inl ⟨item, made.symm⟩
  · cases member
  · cases member
  · rename_i value noArray _ reached
    refine Or.inr ⟨List.mem_singleton.mp member, fun items again => ?_⟩
    exact noArray items (Option.some.inj (reached.symm.trans again))

/-- A row keeps what stands at a path beside the one that is unwound, unless both pass one array:
the object in its place holds nothing but the item. -/
theorem resolve_unwind_iff {document row : Document} {path other : String}
    (member : row ∈ document.unwind path) (diverge : Diverge path other) :
    (object row).resolve other = (object document).resolve other ↔
      (SharesArray (object document) (segments path) (segments other) →
        (object document).resolve other = []) := by
  rcases unwind_cases member with ⟨item, rfl⟩ | ⟨rfl, noArray⟩
  · have parted := (diverge_iff path other).mp diverge
    obtain ⟨kept, lost⟩ := valuesAt_followsFields.setSegments parted document item
    by_cases shares : SharesArray (object document) (segments path) (segments other)
    · have gone : (object (document.set path item)).resolve other = [] := lost shares
      rw [gone]
      exact ⟨fun same _ => same.symm, fun empty => (empty shares).symm⟩
    · exact ⟨fun _ again => absurd again shares, fun _ => kept shares⟩
  · refine ⟨fun _ shares => ?_, fun _ => rfl⟩
    obtain ⟨items, reached⟩ := shares.getSegments
    exact absurd reached (noArray items)

/-- Below a field of its own there is no array that another path passes as well. -/
theorem not_sharesArray_of_field {name : String} (single : segments name = [name])
    (document : Document) {other : String} (diverge : Diverge name other) :
    ¬ SharesArray (object document) (segments name) (segments other) := by
  have parted := (diverge_iff name other).mp diverge
  rw [single] at parted ⊢
  generalize segments other = others at parted ⊢
  cases parted with
  | here different rest rest' => exact not_sharesArray_of_ne different _ _ _
  | later name parted => exact absurd rfl parted.ne_nil

/-- The array of a field is unwound without any loss beside it. -/
theorem resolve_unwind_field {document row : Document} {name other : String}
    (single : segments name = [name]) (member : row ∈ document.unwind name)
    (diverge : Diverge name other) :
    (object row).resolve other = (object document).resolve other :=
  (resolve_unwind_iff member diverge).mpr fun shares =>
    absurd shares (not_sharesArray_of_field single document diverge)

/-- What unwinding makes of a document: its rows hold the items of an array one by one, nothing and
null have no row, and another value stays. A row keeps the values at a path beside the one that is
unwound exactly if no array lies on both, or there are none. -/
theorem unwound_rows (document : Document) (path : String) :
    (∀ row ∈ document.unwind path, ∀ other, Diverge path other →
        ((object row).resolve other = (object document).resolve other ↔
          (SharesArray (object document) (segments path) (segments other) →
            (object document).resolve other = []))) ∧
      (∀ items, (object document).get? path = some (array items) →
        (document.unwind path).map (fun row => (object row).get? path) = items.map some) ∧
      ((object document).get? path = none ∨ (object document).get? path = some null →
        document.unwind path = []) ∧
      ∀ value, (object document).get? path = some value → value ≠ null →
        (∀ items, value ≠ array items) → document.unwind path = [document] := by
  refine ⟨?_, ?_, ?_, ?_⟩
  · intro row member other diverge
    exact resolve_unwind_iff member diverge
  · intro items reached
    exact map_get?_unwind reached
  · intro nothing
    exact unwind_of_nothing nothing
  · intro value reached some single
    exact unwind_of_single reached some single

def launched : Document :=
  [("_id", .string "a"),
    ("launch", .object [("tags", .array [.string "x", .string "y"]),
      ("launchedBy", .string "sam")])]

theorem unwound_tags_keep_launch :
    (launched.unwind "launch.tags").map (fun row => (object row).get? "launch.tags") =
        [some (.string "x"), some (.string "y")] ∧
      ∀ row ∈ launched.unwind "launch.tags", (object row).resolve "launch.launchedBy" =
        [.string "sam"] := by
  obtain ⟨beside, items, _, _⟩ := unwound_rows launched "launch.tags"
  have split : segments "launch.tags" = ["launch", "tags"] := by decide
  have split' : segments "launch.launchedBy" = ["launch", "launchedBy"] := by decide
  refine ⟨items [.string "x", .string "y"] (by decide +kernel), fun row member => ?_⟩
  have kept : (object row).resolve "launch.launchedBy" =
      (object launched).resolve "launch.launchedBy" := by
    refine (beside row member _ (by decide +kernel)).mpr fun shares => ?_
    rw [split, split', launched, sharesArray_below] at shares
    obtain ⟨inner, held, shares⟩ := shares
    cases held
    exact absurd shares (not_sharesArray_of_ne (by decide) _ _ _)
  exact kept.trans (by decide +kernel)

def hosted : Document :=
  [("_id", .string "a"),
    ("hostingEnvironments", .array [.object [("ocpSubDomain", .string "env-one"),
      ("ocpVersion", .string "4.6")]])]

/-- The array that the unwound path passes is replaced, and with it the rest of its items. -/
theorem unwound_sub_domain_loses_version :
    ∃ row ∈ hosted.unwind "hostingEnvironments.ocpSubDomain",
      Diverge "hostingEnvironments.ocpSubDomain" "hostingEnvironments.ocpVersion" ∧
        (object row).resolve "hostingEnvironments.ocpVersion" = [] ∧
        (object hosted).resolve "hostingEnvironments.ocpVersion" = [.string "4.6"] := by
  refine ⟨[("_id", .string "a"),
    ("hostingEnvironments", .object [("ocpSubDomain", .string "env-one")])], ?_, ?_, ?_, ?_⟩ <;>
    decide +kernel

end Engagements.Document
