import Engagements.Proofs.Path.Parting
import Mathlib.Data.List.Infix

/-!
The laws of writing to a path: what is read there afterwards, what a second write leaves of the
first, and what is read at the paths beside it.
-/
namespace Engagements.Document

open Value

theorem set_again (document : Document) (path : String) (value other : Value) :
    (document.set path value).set path other = document.set path other :=
  setSegments_again document (segments path) value other

/-- Beside a path that is set the same is read as before, unless both paths pass one array. -/
theorem get?_set_iff {path beside : String} (diverge : Diverge path beside) (document : Document)
    (value : Value) :
    (object (document.set path value)).get? beside = (object document).get? beside ↔
      ¬ SharesArray (object document) (segments path) (segments beside) := by
  obtain ⟨kept, lost⟩ := getSegments_followsFields.setSegments
    ((diverge_iff path beside).mp diverge) document value
  refine ⟨fun same shares => ?_, kept⟩
  obtain ⟨items, reached⟩ := shares.symm.getSegments
  have gone : (object (document.set path value)).get? beside = none := lost shares
  rw [gone] at same
  cases same.trans reached

/-- Each path above the given one leads to nothing in a document, or over objects to an object. -/
def Clear (document : Document) (path : String) : Prop :=
  ∀ above, isUnder path above = true → above ≠ path →
    (object document).get? above = none ∨
      ∃ fields, Leads (object fields) (object document) (segments above)

theorem Clear.not_sharesArray {document : Document} {path beside : String}
    (clear : Clear document path) (diverge : Diverge path beside) :
    ¬ SharesArray (object document) (segments path) (segments beside) := by
  rintro ⟨way, items, first, second, reached⟩
  have nonempty : way ≠ [] := by
    rintro rfl
    cases reached
  obtain ⟨above, rfl⟩ := exists_segments_eq nonempty first
  have leading : isUnder path above = true := (isUnder_iff_segments path above).mpr first
  have proper : above ≠ path := by
    rintro rfl
    have under : isUnder beside above = true := (isUnder_iff_segments beside above).mpr second
    exact absurd under (by simp [diverge.2])
  -- An array is neither nothing nor an object.
  rcases clear above leading proper with missing | ⟨fields, leads⟩
  · cases missing.symm.trans reached
  · cases leads.getSegments.symm.trans reached

/-- A path that was set reads as what it was set to; of two values only the second is left; and what
is read beside the path stays exactly if no array lies on both ways, so that it stays everywhere if
only objects lie above the path. -/
theorem writes_are_lawful (document : Document) (path : String) (value : Value) :
    (object (document.set path value)).get? path = some value ∧
      (∀ other, (document.set path value).set path other = document.set path other) ∧
      (Clear document path → ∀ beside, Diverge path beside →
        (object (document.set path value)).get? beside = (object document).get? beside) ∧
      ∀ beside, Diverge path beside →
        ((object (document.set path value)).get? beside = (object document).get? beside ↔
          ¬ SharesArray (object document) (segments path) (segments beside)) := by
  refine ⟨get?_set_self document path value, ?_, ?_, ?_⟩
  · intro other
    exact set_again document path value other
  · intro clear beside diverge
    exact (get?_set_iff diverge document value).mpr (clear.not_sharesArray diverge)
  · intro beside diverge
    exact get?_set_iff diverge document value

def handedOver : Document :=
  [("uuid", .string "u"),
    ("launch", .object [("", .object [("to", .string "sam")]), ("on", .array [.string "friday"])]),
    ("tags", .array [.object [("name", .string "x")]])]

theorem clear_handedOver : Clear handedOver "launch..by.name" := by
  intro above under proper
  have split : segments "launch..by.name" = ["launch", "", "by", "name"] := by decide
  rw [isUnder_iff_segments, split, ← List.mem_inits] at under
  have whole : segments above ≠ ["launch", "", "by", "name"] :=
    fun same => proper (segments_injective (same.trans split.symm))
  simp only [List.inits, List.map_cons, List.map_nil, List.mem_cons, List.not_mem_nil, or_false,
    segments_ne_nil, whole, false_or] at under
  rcases under with first | second | third
  · rw [first]
    exact .inr ⟨_, .field rfl .goal⟩
  · rw [second]
    exact .inr ⟨_, .field rfl (.field rfl .goal)⟩
  · rw [get?, third]
    exact .inl rfl

theorem handed_over_by_another :
    Clear handedOver "launch..by.name" ∧ Diverge "launch..by.name" "launch..to" ∧
      (object (handedOver.set "launch..by.name" (.string "kim"))).get? "launch..to" =
        some (.string "sam") := by
  obtain ⟨_, _, kept, _⟩ := writes_are_lawful handedOver "launch..by.name" (.string "kim")
  have diverge : Diverge "launch..by.name" "launch..to" := by decide +kernel
  exact ⟨clear_handedOver, diverge, (kept clear_handedOver _ diverge).trans (by decide +kernel)⟩

end Engagements.Document
