import Engagements.Proofs.Date
import Engagements.Proofs.Predicate
import Engagements.Proofs.Search.Component
import Engagements.Proofs.Search.Reading

/-!
Windows of end dates and states as of a date, for documents that hold the texts of dates. They mean
what the calendar says as far as the texts of the years stand in the order of time.
-/
namespace Engagements

/-- No comparison comes to the same both ways round. -/
theorem Comparison.holds_swap_ne {ordering : Ordering} (different : ordering ≠ .eq)
    (comparison : Comparison) : comparison.holds ordering.swap ≠ comparison.holds ordering := by
  cases ordering with
  | eq => exact absurd rfl different
  | _ => cases comparison <;> decide

/-- A document that ends and is archived on given dates. -/
structure Dated (document : Document) (finish archive : Date) : Prop where
  finish : Fields.get? document "endDate" = some (.string finish.toText)
  archive : Fields.get? document "archiveDate" = some (.string archive.toText)

namespace EngagementState

/-- What the calendar says of an engagement in a state. -/
def describes (launched : Bool) (finish archive today : Date) : EngagementState → Bool
  | upcoming => !launched
  | active => launched && finish.order today != .lt
  | past => launched && finish.order today == .lt
  | terminating => launched && finish.order today == .lt && archive.order today == .gt

variable {document : Document} {name : String}

theorem holds_dated (single : segments name = [name]) {text : String}
    (found : Fields.get? document name = some (.string text)) (comparison : Comparison)
    (bound : String) :
    (dated name comparison bound).holds (.object document) =
      comparison.holds (compare text bound) := by
  rw [dated, Predicate.holds, Value.candidates_field document single, found]
  simp [Predicate.comparable, Value.order]

/-- Texts compare as dates do if the texts of the years are aligned, and only then. -/
theorem holds_dated_iff (single : segments name = [name]) {date bound : Date} (short : date.Short)
    (short' : bound.Short) (found : Fields.get? document name = some (.string date.toText))
    (comparison : Comparison) :
    (dated name comparison bound.toText).holds (.object document) =
        comparison.holds (date.order bound) ↔
      Date.Aligned date.year bound.year := by
  rw [holds_dated single found]
  constructor
  · intro same
    by_contra misaligned
    obtain ⟨turned, different⟩ := Date.compare_toText_of_not_aligned short short' misaligned
    rw [turned] at same
    exact comparison.holds_swap_ne different same
  · intro aligned
    rw [Date.compare_toText_of_aligned short short' aligned]

theorem single_endDate : segments "endDate" = ["endDate"] := segments_of_dotless (by decide)

theorem single_archiveDate : segments "archiveDate" = ["archiveDate"] :=
  segments_of_dotless (by decide)

theorem holds_upcoming (document : Value) (today : String) :
    (upcoming.predicate today).holds document = !launched.holds document := by
  rw [predicate, launched, Predicate.absent, Predicate.present, Predicate.holds, Predicate.holds]
  simp

variable {finish archive today : Date}

theorem holds_predicate (ends : today.Short) (short : finish.Short) (short' : archive.Short)
    (given : Dated document finish archive) (aligned : Date.Aligned finish.year today.year)
    (aligned' : finish.order today = .lt → Date.Aligned archive.year today.year)
    (state : EngagementState) :
    (state.predicate today.toText).holds (.object document) =
      state.describes (launched.holds (.object document)) finish archive today := by
  have compared (comparison : Comparison) :=
    (holds_dated_iff single_endDate short ends given.finish comparison).mpr aligned
  cases state with
  | upcoming => exact holds_upcoming _ _
  | active => rw [predicate, Predicate.holds_and, compared]; rfl
  | past => rw [predicate, Predicate.holds_and, compared]; rfl
  | terminating =>
      rw [predicate, Predicate.holds_and, Predicate.holds_and, compared, describes]
      by_cases before : finish.order today = .lt
      · rw [(holds_dated_iff single_archiveDate short' ends given.archive .greater).mpr
          (aligned' before)]
        rfl
      · have late : Comparison.less.holds (finish.order today) = false :=
          beq_eq_false_iff_ne.mpr before
        simp [late, beq_eq_false_iff_ne.mpr before]

/-- The engagement that tells all states apart. -/
def exemplar (finish archive : Date) : Document :=
  [("launch", .bool true), ("endDate", .string finish.toText),
    ("archiveDate", .string archive.toText)]

theorem dated_exemplar (finish archive : Date) :
    Dated (exemplar finish archive) finish archive := ⟨rfl, rfl⟩

theorem launched_exemplar (finish archive : Date) :
    launched.holds (.object (exemplar finish archive)) = true := by
  rw [launched, Predicate.present, Predicate.holds,
    Value.candidates_field _ (segments_of_dotless (by decide))]
  rfl

theorem aligned_of_holds (ends : today.Short) (short : finish.Short) (short' : archive.Short)
    (each : ∀ state : EngagementState,
      (state.predicate today.toText).holds (.object (exemplar finish archive)) =
        state.describes (launched.holds (.object (exemplar finish archive))) finish archive today) :
    Date.Aligned finish.year today.year ∧
      (finish.order today = .lt → Date.Aligned archive.year today.year) := by
  have given := dated_exemplar finish archive
  simp only [launched_exemplar] at each
  have aligned : Date.Aligned finish.year today.year := by
    have active := each .active
    rw [predicate, Predicate.holds_and, launched_exemplar] at active
    exact (holds_dated_iff single_endDate short ends given.finish .greaterOrEqual).mp
      (by simpa [describes, Comparison.holds] using active)
  refine ⟨aligned, fun before => ?_⟩
  have terminating := each .terminating
  have past := (holds_dated_iff single_endDate short ends given.finish .less).mpr aligned
  rw [predicate, Predicate.holds_and, Predicate.holds_and, launched_exemplar, past] at terminating
  exact (holds_dated_iff single_archiveDate short' ends given.archive .greater).mp
    (by simpa [describes, Comparison.holds, before] using terminating)

end EngagementState

namespace Search

theorem all_endDateBound (document : Value) (comparison : Comparison) (date : Date) :
    (Temporal.endDateBound comparison (some date)).all (Predicate.holds document) =
      (EngagementState.dated "endDate" comparison date.toText).holds document :=
  Bool.and_true _

/-- Texts of dates that are read compare as the dates do, a window of end dates holds those in it,
and the states as of a date are the ones that the calendar tells, exactly if the texts of the years
stand in the order of time. -/
theorem dates_follow_calendar (text₁ text₂ text₃ : String) (today finish archive : Date)
    (read₁ : Date.read text₁ = .ok today) (read₂ : Date.read text₂ = .ok finish)
    (read₃ : Date.read text₃ = .ok archive) :
    (compare finish.toText today.toText = finish.order today ↔
      Date.Aligned finish.year today.year) ∧
    (∀ document, Dated document finish archive → ∀ comparison,
      ((Temporal.endDateBound comparison (some today)).all (Predicate.holds (.object document)) =
          comparison.holds (finish.order today) ↔
        Date.Aligned finish.year today.year)) ∧
    ((∀ document, Dated document finish archive → ∀ state : EngagementState,
      (state.predicate today.toText).holds (.object document) =
        state.describes (EngagementState.launched.holds (.object document)) finish archive today) ↔
      Date.Aligned finish.year today.year ∧
        (finish.order today = .lt → Date.Aligned archive.year today.year)) := by
  have short := Date.short_of_read read₁
  have short₂ := Date.short_of_read read₂
  have short₃ := Date.short_of_read read₃
  refine ⟨Date.compare_toText_iff short₂ short, ?_, ?_, ?_⟩
  · intro document given comparison
    rw [all_endDateBound]
    exact EngagementState.holds_dated_iff EngagementState.single_endDate short₂ short given.finish
      comparison
  · intro each
    exact EngagementState.aligned_of_holds short short₂ short₃
      (each _ (EngagementState.dated_exemplar finish archive))
  · rintro ⟨aligned, aligned'⟩ document given state
    exact EngagementState.holds_predicate short short₂ short₃ given aligned aligned' state

/-- Parts of one digit and a sign that is not needed do no harm. -/
theorem states_of_2020 :
    Date.read "2020-06-01" = .ok ⟨2020, 6, 1⟩ ∧ Date.read "2020- 3- 1" = .ok ⟨2020, 3, 1⟩ ∧
      Date.read "+2021-1-01" = .ok ⟨2021, 1, 1⟩ ∧
      compare (Date.toText ⟨2020, 3, 1⟩) (Date.toText ⟨2020, 6, 1⟩) = .lt ∧
      ∀ document, Dated document ⟨2020, 3, 1⟩ ⟨2021, 1, 1⟩ → ∀ state : EngagementState,
        (state.predicate (Date.toText ⟨2020, 6, 1⟩)).holds (.object document) =
          state.describes (EngagementState.launched.holds (.object document)) ⟨2020, 3, 1⟩
            ⟨2021, 1, 1⟩ ⟨2020, 6, 1⟩ := by
  have dates : Date.read "2020-06-01" = .ok ⟨2020, 6, 1⟩ ∧
      Date.read "2020- 3- 1" = .ok ⟨2020, 3, 1⟩ ∧
        Date.read "+2021-1-01" = .ok ⟨2021, 1, 1⟩ := by
    simp only [Date.read, Date.readParts, Date.readYear, Date.readPart, Text.trim, Text.trimChars,
      Text.skipBlank_eq]
    exact ⟨rfl, rfl, rfl⟩
  obtain ⟨today, finish, archive⟩ := dates
  obtain ⟨order, _, states⟩ := dates_follow_calendar _ _ _ _ _ _ today finish archive
  refine ⟨today, finish, archive, ?_, ?_⟩
  · exact (order.mpr (Or.inr (Or.inl (by decide)))).trans (by decide)
  · exact states.mpr ⟨Or.inr (Or.inl (by decide)), fun _ => Or.inr (Or.inl (by decide))⟩

/-- A window that ends in the year ten thousand leaves out what ends before. -/
theorem late_window_leaves_out :
    Date.read "+10000-1-1" = .ok ⟨10000, 1, 1⟩ ∧ Date.read "2020-03-01" = .ok ⟨2020, 3, 1⟩ ∧
      Date.order ⟨2020, 3, 1⟩ ⟨10000, 1, 1⟩ = .lt ∧
      compare (Date.toText ⟨2020, 3, 1⟩) (Date.toText ⟨10000, 1, 1⟩) = .gt ∧
      ∃ expression, read ⟨2020, 6, 1⟩ "end=+10000-1-1" = .ok expression ∧
        Predicate.accepts expression.predicate
          (.object [("endDate", .string (Date.toText ⟨2020, 3, 1⟩))]) = false := by
  have dates : Date.read "+10000-1-1" = .ok ⟨10000, 1, 1⟩ ∧
      Date.read "2020-03-01" = .ok ⟨2020, 3, 1⟩ ∧
        Date.read (unescape (Text.trimChars "+10000-1-1".toList)) = .ok ⟨10000, 1, 1⟩ := by
    simp only [Date.read, Date.readParts, Date.readYear, Date.readPart, Text.trim, Text.trimChars,
      Text.skipBlank_eq]
    exact ⟨rfl, rfl, rfl⟩
  obtain ⟨bound, finish, trimmed⟩ := dates
  have turned : compare (Date.toText ⟨2020, 3, 1⟩) (Date.toText ⟨10000, 1, 1⟩) = .gt :=
    (Date.compare_toText_of_yearBefore
      (Date.yearBefore_signed (Or.inr (by decide)) (by decide) (by decide))).2
  have component : Component.read? "end=+10000-1-1" =
      some (.equals ['e', 'n', 'd'] ['+', '1', '0', '0', '0', '0', '-', '1', '-', '1']) :=
    read?_of_line (by decide) (by decide +kernel) (by decide)
  have visible : Text.isBlank "end=+10000-1-1" = false := by
    rw [Text.isBlank_eq]
    decide
  have pieces : splitUnescaped '&' "end=+10000-1-1" = ["end=+10000-1-1"] := by decide
  obtain ⟨readable, part⟩ := partOf_setting visible component (.finish (by decide) trimmed)
  refine ⟨bound, finish, by decide, turned, _, (read_eq_ok_iff _ _ _).mpr ⟨?_, rfl⟩, ?_⟩
  · rw [pieces]
    exact List.forall_mem_singleton.mpr readable
  · have made : (expressionOf ⟨2020, 6, 1⟩ ["end=+10000-1-1"]).predicate =
        some (EngagementState.dated "endDate" .lessOrEqual (Date.toText ⟨10000, 1, 1⟩)) := by
      rw [expressionOf, List.map_singleton, part]
      rfl
    rw [pieces, made, Predicate.accepts, Option.all_some,
      EngagementState.holds_dated EngagementState.single_endDate rfl, turned]
    rfl

end Search

end Engagements
