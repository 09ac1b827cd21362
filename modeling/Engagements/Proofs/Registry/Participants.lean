import Engagements.Proofs.Catalog.Partition
import Engagements.Proofs.Planner.Flattening
import Engagements.Proofs.Planner.Grouping
import Engagements.Registry

/-!
What the counts of participants depend on. The page, the order and the fields that a filter asks for
do not matter; but participants are counted after the rows have been flattened and grouped.
-/
namespace Engagements

namespace FilterSpec

/-- A filter that has the search of another one and nothing else. -/
def searchOnly (spec : FilterSpec) : FilterSpec := { empty with search := spec.search }

theorem flattenedFields_searchOnly (spec : FilterSpec) : spec.searchOnly.flattenedFields = [] := by
  change empty.flattenedFields = []
  decide

end FilterSpec

namespace Planner

/-- Of an accepted filter the search text, the unwound field, the flattened fields and the grouping
field decide on what is counted. -/
theorem planPartition_congr {planner : Planner} {spec other : FilterSpec}
    {base : Option Predicate} {found found' : Option Predicate × List String}
    (accepted : planner.conditions spec base = .ok found)
    (accepted' : planner.conditions other base = .ok found')
    (search : other.searchText = spec.searchText) (unwound : other.unwindField = spec.unwindField)
    (flattened : other.flattenedFields = spec.flattenedFields)
    (grouped : other.groupByField = spec.groupByField) (partition : Partition) :
    planner.planPartition other base partition = planner.planPartition spec base partition := by
  have same : planner.conditions other base = planner.conditions spec base := by
    simp only [conditions, valid_of_conditions accepted, valid_of_conditions accepted', search]
  rw [planPartition, planPartition, same, accepted]
  change Except.ok (sharedStages other found.1 ++ _) = Except.ok (sharedStages spec found.1 ++ _)
  simp only [sharedStages, unwindStages, unwound, flattened, grouped]

end Planner

namespace Catalog

open Planner

theorem conditions_of_counted {planner : Planner} {spec : FilterSpec} {base : Option Predicate}
    {partition : Partition} {store : Store} {counts : PartitionCounts}
    (counted : (store.perform (countPartition planner spec base partition)).1 = .ok counts) :
    ∃ found, planner.conditions spec base = .ok found := by
  cases conditions : planner.conditions spec base with
  | ok found => exact ⟨found, rfl⟩
  | error error =>
      have refused : planner.planPartition spec base partition = .error error := by
        rw [planPartition, conditions]
        rfl
      rw [countPartition, Store.perform_bind, Store.perform_lift, refused] at counted
      cases counted

theorem perform_countPartition_congr {planner : Planner} {spec other : FilterSpec}
    {base : Option Predicate} {partition : Partition}
    (same : planner.planPartition other base partition = planner.planPartition spec base partition)
    (store : Store) :
    store.perform (countPartition planner other base partition) =
      store.perform (countPartition planner spec base partition) := by
  rw [countPartition, countPartition, same]

end Catalog

namespace Registry

open Planner

theorem distinct_participants : (branchNames Partition.participants).Nodup := by decide

theorem dotless_participants : ∀ name ∈ branchNames Partition.participants, '.' ∉ name.toList := by
  decide

theorem counts_congr {planner : Planner} {spec other : FilterSpec} {store : Store}
    {counts counts' : PartitionCounts} (search : other.searchText = spec.searchText)
    (flattened : other.flattenedFields = spec.flattenedFields)
    (grouped : other.groupByField = spec.groupByField)
    (counted : (store.perform (countParticipants planner spec)).1 = .ok counts)
    (counted' : (store.perform (countParticipants planner other)).1 = .ok counts') :
    counts' = counts := by
  obtain ⟨found, accepted⟩ := Catalog.conditions_of_counted counted
  obtain ⟨found', accepted'⟩ := Catalog.conditions_of_counted counted'
  have same := planPartition_congr accepted accepted' search rfl flattened grouped
    Partition.participants
  rw [countParticipants, Catalog.perform_countPartition_congr same] at counted'
  exact Except.ok.inj (counted'.symm.trans counted)

/-- The counts of participants among rows. -/
def tallies (rows : List Document) : PartitionCounts :=
  ⟨Catalog.tally rows.length,
    Catalog.tally (rows.countP fun row => Partition.participants.predicate.holds (.object row)),
    Catalog.tally (rows.countP fun row => !Partition.participants.predicate.holds (.object row))⟩

theorem perform_countParticipants {planner : Planner} {spec : FilterSpec} {store : Store}
    (struck : store.outage = none) {rows : List Document}
    (selected : planner.rows (spec.unwinding participantsField) none store.documents = .ok rows)
    (bound : rows.length < Width.size 64) :
    store.perform (countParticipants planner spec) = (.ok (tallies rows), store) := by
  obtain ⟨⟨total, matching, complement⟩, performed, counted⟩ :=
    Catalog.perform_countPartition distinct_participants dotless_participants struck selected
  obtain ⟨rfl, rfl, rfl⟩ := counted bound
  exact performed

/-- Without its field no participant has an address at Red Hat. -/
theorem not_holds_of_gone {row : Document} (gone : Fields.get? row participantsField = none) :
    Partition.participants.predicate.holds (.object row) = false := by
  have begins : (segments "engagementUsers.email").head? = some participantsField := by decide
  rw [Partition.participants, Predicate.holds, Value.candidates_object _ begins, gone,
    Value.candidatesBelow, Option.toList_none, Value.resolveSegments_nil]
  rfl

/-- Flattened rows do not have the field of participants any more, unless a field of this name is
listed. -/
theorem perform_countParticipants_flattened {planner : Planner} {spec : FilterSpec} {store : Store}
    (struck : store.outage = none) (listed : spec.flattenedFields ≠ [])
    (ungrouped : spec.groupByField = none)
    (others : ∀ name ∈ spec.flattenedFields,
      trailingSegment (fullPath participantsField name) ≠ participantsField) {rows : List Document}
    (selected : planner.rows (spec.unwinding participantsField) none store.documents = .ok rows)
    (bound : rows.length < Width.size 64) :
    store.perform (countParticipants planner spec) =
      (.ok ⟨Catalog.tally rows.length, none, Catalog.tally rows.length⟩, store) := by
  have unwound : (spec.unwinding participantsField).unwindField = some participantsField := rfl
  have none : ∀ row ∈ rows, Partition.participants.predicate.holds (.object row) = false := by
    intro row member
    obtain ⟨source, rfl⟩ := flattened_of_mem_rows unwound listed ungrouped selected row member
    exact not_holds_of_gone (get?_flattened (by decide) (by decide) fun name inside same =>
      absurd same (others name inside))
  have matching : (rows.countP fun row => Partition.participants.predicate.holds (.object row)) =
      0 := List.countP_eq_zero.mpr fun row member => by simp [none row member]
  have complement : (rows.countP fun row =>
      !Partition.participants.predicate.holds (.object row)) = rows.length :=
    List.countP_eq_length.mpr fun row member => by simp [none row member]
  rw [perform_countParticipants struck selected bound, tallies, matching, complement]
  rfl

/-! A document with two participants, on which flattened and grouped counts differ from others. -/

def colleague : Value := .object [("email", .string "a@redhat.com")]

def colleagues : Document := [(participantsField, .array [colleague, colleague])]

def teamStore : Store := ⟨[colleagues], 0, ⟨0, 0⟩, 5000, none⟩

/-- The row of either colleague. -/
def colleagueRow : Document := [(participantsField, colleague)]

def flattenedRow (names : List String) : Document :=
  match names with
  | [] => colleagueRow
  | names => (unwindProjection participantsField names).apply colleagueRow

theorem unwind_colleagues : colleagues.unwind participantsField = [colleagueRow, colleagueRow] := by
  decide +kernel

theorem holds_colleagueRow :
    Partition.participants.predicate.holds (.object colleagueRow) = true := by
  decide +kernel

/-- The rows of the colleagues, before they are grouped. -/
theorem rows_team {planner : Planner} {spec : FilterSpec} {ignored : List String}
    (accepted : planner.conditions (spec.unwinding participantsField) none = .ok (none, ignored)) :
    planner.rows (spec.unwinding participantsField).ungrouped none teamStore.documents =
      .ok [flattenedRow spec.flattenedFields, flattenedRow spec.flattenedFields] := by
  have valid := valid_of_conditions accepted
  have same : planner.conditions (spec.unwinding participantsField).ungrouped none =
      .ok (none, ignored) :=
    (conditions_ungrouped valid none).trans accepted
  have unwound : Stage.run [colleagues] (.unwind participantsField) =
      .ok [colleagueRow, colleagueRow] := by
    rw [Stage.run, List.flatMap_singleton, unwind_colleagues]
  rw [rows, same]
  change Stage.runAll [colleagues] (unwindStages _ none participantsField ++ []) = _
  rw [List.append_nil, unwindStages]
  change Stage.runAll [colleagues] (.unwind participantsField :: match spec.flattenedFields with
    | [] => []
    | names => [.project (unwindProjection participantsField names)]) = _
  rw [Stage.runAll, unwound]
  cases spec.flattenedFields <;> rfl

/-- No list of fields brings the address of a colleague back to where it was. -/
theorem get?_fullPath (name : String)
    (trailing : trailingSegment (fullPath participantsField name) = participantsField) :
    (Value.object colleagueRow).get? (fullPath participantsField name) = none := by
  obtain ⟨first, second, rest, split⟩ := segments_fullPath participantsField name
  rw [trailingSegment, split] at trailing
  rw [Value.get?, split, Value.getSegments, Value.getField_eq, colleagueRow, Fields.get?]
  by_cases here : participantsField = first
  · rw [if_pos here, Option.bind_some, colleague, Value.getSegments, Value.getField_eq, Fields.get?]
    by_cases address : "email" = second
    · -- The path of the address ends otherwise, and nothing lies below it.
      cases rest with
      | nil => exact absurd (address.trans trailing) (by decide)
      | cons third rest =>
          rw [if_pos address]
          rfl
    · rw [if_neg address, Fields.get?, Option.bind_none]
  · rw [if_neg here, Fields.get?, Option.bind_none]

theorem not_holds_flattenedRow {names : List String} (listed : names ≠ []) :
    Partition.participants.predicate.holds (.object (flattenedRow names)) = false := by
  obtain ⟨first, rest, rfl⟩ := List.exists_cons_of_ne_nil listed
  refine not_holds_of_gone (get?_flattened ?_ ?_ fun name _ => get?_fullPath name)
  · decide
  · decide

theorem tallies_colleagues : tallies [colleagueRow, colleagueRow] = ⟨some 2, some 2, none⟩ := by
  simp [tallies, holds_colleagueRow, Catalog.tally]

theorem tallies_flattened {names : List String} (listed : names ≠ []) :
    tallies [flattenedRow names, flattenedRow names] = ⟨some 2, none, some 2⟩ := by
  simp [tallies, not_holds_flattenedRow listed, Catalog.tally]

theorem rows_team_of_ungrouped {planner : Planner} {spec : FilterSpec} {ignored : List String}
    (accepted : planner.conditions (spec.unwinding participantsField) none = .ok (none, ignored))
    (ungrouped : spec.groupByField = none) :
    planner.rows (spec.unwinding participantsField) none teamStore.documents =
      .ok [flattenedRow spec.flattenedFields, flattenedRow spec.flattenedFields] := by
  have same : (spec.unwinding participantsField).ungrouped = spec.unwinding participantsField := by
    rw [FilterSpec.ungrouped, FilterSpec.unwinding, ungrouped]
  rw [← rows_team accepted, same]

theorem counts_team {planner : Planner} {spec : FilterSpec} {ignored : List String}
    (accepted : planner.conditions (spec.unwinding participantsField) none = .ok (none, ignored))
    (ungrouped : spec.groupByField = none) :
    teamStore.perform (countParticipants planner spec) =
      (.ok (tallies [flattenedRow spec.flattenedFields, flattenedRow spec.flattenedFields]),
        teamStore) :=
  perform_countParticipants rfl (rows_team_of_ungrouped accepted ungrouped)
    (by decide : 2 < Width.size 64)

/-- The rows of the colleagues are equal, so they form one group whatever they are grouped by. -/
theorem total_team_of_grouped {planner : Planner} {spec : FilterSpec} {ignored : List String}
    (accepted : planner.conditions (spec.unwinding participantsField) none = .ok (none, ignored))
    {field : String} (grouped : spec.groupByField = some field) :
    ∃ counts, teamStore.perform (countParticipants planner spec) = (.ok counts, teamStore) ∧
      counts.total = some 1 := by
  have bound : [flattenedRow spec.flattenedFields, flattenedRow spec.flattenedFields].length <
      Width.size 63 := (by decide : 2 < Width.size 63)
  have selected := rows_grouped (valid_of_conditions accepted) grouped (rows_team accepted) bound
  have one : (groupTexts field
      [flattenedRow spec.flattenedFields, flattenedRow spec.flattenedFields]).length = 1 := by
    simp [groupTexts, List.eraseDups_cons]
  have length : ((groupTexts field
      [flattenedRow spec.flattenedFields, flattenedRow spec.flattenedFields]).map (groupRow field
        [flattenedRow spec.flattenedFields, flattenedRow spec.flattenedFields])).length = 1 := by
    rw [List.length_map, one]
  refine ⟨_, perform_countParticipants rfl selected (by rw [length]; decide), ?_⟩
  rw [tallies, length]
  rfl

theorem validate_unwinding {spec : FilterSpec} (valid : spec.validate = .ok ()) :
    (spec.unwinding participantsField).validate = .ok () := by
  obtain ⟨shown, paged, sized, _, grouped⟩ := spec.validate_ok_iff.mp valid
  refine (FilterSpec.validate_ok_iff _).mpr ⟨shown, paged, sized, ?_, grouped⟩
  simp only [FilterSpec.unwinding, Option.any_some, Text.isBlank_eq]
  decide

theorem conditions_searchOnly {planner : Planner} {spec : FilterSpec}
    {found : Option Predicate × List String}
    (accepted : planner.conditions (spec.unwinding participantsField) none = .ok found) :
    planner.conditions (spec.searchOnly.unwinding participantsField) none = .ok found := by
  have valid := validate_unwinding (rfl : spec.searchOnly.validate = .ok ())
  have sized : planner.checkSize (spec.searchOnly.unwinding participantsField) = .ok () :=
    planner.checkSize_of_unsized rfl
  exact (conditions_congr (valid_of_conditions accepted) ⟨valid, sized⟩ rfl none).trans accepted

/-- Two filters count the same participants if they have the same search, flatten the same fields
and group by the same field, whatever else they ask for. Flattening and grouping do change the
counts. Of the filters whose search sets no condition, those that do neither are the only ones that
count on every store what their search alone counts. Whatever the search is, in rows that are
flattened, and have no other field in the place of the participants, every participant counts as one
of the others. -/
theorem participant_counts_agree (planner : Planner) :
    (∀ (spec other : FilterSpec) (store : Store) (counts counts' : PartitionCounts),
        other.searchText = spec.searchText → other.flattenedFields = spec.flattenedFields →
          other.groupByField = spec.groupByField →
            (store.perform (countParticipants planner spec)).1 = .ok counts →
              (store.perform (countParticipants planner other)).1 = .ok counts' →
                counts' = counts) ∧
      (∀ (spec : FilterSpec) (ignored : List String),
        planner.conditions (spec.unwinding participantsField) none = .ok (none, ignored) →
          ((∀ (store : Store) (counts counts' : PartitionCounts),
              (store.perform (countParticipants planner spec)).1 = .ok counts →
                (store.perform (countParticipants planner spec.searchOnly)).1 = .ok counts' →
                  counts' = counts) ↔
            spec.flattenedFields = [] ∧ spec.groupByField = none)) ∧
      ∀ (spec : FilterSpec) (store : Store) (rows : List Document), store.outage = none →
        spec.flattenedFields ≠ [] → spec.groupByField = none →
          (∀ name ∈ spec.flattenedFields,
            trailingSegment (fullPath participantsField name) ≠ participantsField) →
              planner.rows (spec.unwinding participantsField) none store.documents = .ok rows →
                rows.length < Width.size 64 →
                  store.perform (countParticipants planner spec) =
                    (.ok ⟨Catalog.tally rows.length, none, Catalog.tally rows.length⟩, store) := by
  refine ⟨fun _ _ _ _ _ search flattened grouped => counts_congr search flattened grouped,
    fun spec ignored accepted => ?_, fun _ _ _ struck listed ungrouped others =>
      perform_countParticipants_flattened struck listed ungrouped others⟩
  have plain := spec.flattenedFields_searchOnly
  constructor
  · intro agree
    have alone := counts_team (conditions_searchOnly accepted) rfl
    rw [plain] at alone
    cases grouped : spec.groupByField with
    | some field =>
        obtain ⟨counts, performed, total⟩ := total_team_of_grouped accepted grouped
        have same := agree teamStore _ _ (congrArg Prod.fst performed) (congrArg Prod.fst alone)
        rw [← same] at total
        cases total.symm.trans (congrArg PartitionCounts.total tallies_colleagues)
    | none =>
        refine ⟨?_, rfl⟩
        by_contra listed
        have same := agree teamStore _ _ (congrArg Prod.fst (counts_team accepted grouped))
          (congrArg Prod.fst alone)
        rw [tallies_flattened listed] at same
        cases same.symm.trans tallies_colleagues
  · rintro ⟨unflattened, ungrouped⟩ store counts counts' counted counted'
    have flattened : spec.searchOnly.flattenedFields = spec.flattenedFields := by
      rw [plain, unflattened]
    have search : spec.searchOnly.searchText = spec.searchText := rfl
    exact counts_congr search flattened ungrouped.symm counted counted'

/-- A small page of identifiers. -/
def identifiers : FilterSpec :=
  { FilterSpec.empty with page := some 2, perPage := some 1, included := some ["uuid"] }

def addresses : FilterSpec := FilterSpec.empty.flattening "email"

def byAddress : FilterSpec := FilterSpec.empty.groupedBy "engagementUsers.email"

theorem flattenedFields_addresses : addresses.flattenedFields = ["email"] := by
  have pieces : Text.split ',' "email" = ["email"] := by decide
  have trimmed : Text.trim "email" = "email" := by
    rw [Text.trim, Text.trimChars, Text.skipBlank_eq, Text.skipBlank_eq]
    decide
  change Text.nameList "email" = ["email"]
  rw [Text.nameList, pieces, List.map_singleton, trimmed]
  decide

theorem conditions_identifiers : Catalog.tagPlanner.conditions
    (identifiers.unwinding participantsField) none = .ok (none, []) :=
  conditions_unsearched (validate_unwinding rfl) rfl rfl

theorem conditions_empty : Catalog.tagPlanner.conditions
    (FilterSpec.empty.unwinding participantsField) none = .ok (none, []) :=
  conditions_unsearched (validate_unwinding rfl) rfl rfl

theorem conditions_addresses : Catalog.tagPlanner.conditions
    (addresses.unwinding participantsField) none = .ok (none, []) :=
  conditions_unsearched (validate_unwinding rfl) rfl rfl

theorem conditions_byAddress : Catalog.tagPlanner.conditions
    (byAddress.unwinding participantsField) none = .ok (none, []) := by
  have valid : byAddress.validate = .ok () := by
    refine (FilterSpec.validate_ok_iff byAddress).mpr ⟨nofun, nofun, nofun, nofun, ?_⟩
    simp only [byAddress, FilterSpec.groupedBy, Option.any_some, Text.isBlank_eq]
    decide
  exact conditions_unsearched (validate_unwinding valid) rfl rfl

theorem counts_alone : teamStore.perform (countParticipants Catalog.tagPlanner FilterSpec.empty) =
    (.ok ⟨some 2, some 2, none⟩, teamStore) := by
  have plain : FilterSpec.empty.flattenedFields = [] := by decide
  have performed := counts_team conditions_empty rfl
  rwa [plain, flattenedRow, tallies_colleagues] at performed

theorem pages_keep_participant_counts :
    (teamStore.perform (countParticipants Catalog.tagPlanner identifiers)).1 =
        .ok ⟨some 2, some 2, none⟩ ∧
      teamStore.perform (countParticipants Catalog.tagPlanner addresses) =
        (.ok ⟨some 2, none, some 2⟩, teamStore) := by
  obtain ⟨agree, _, others⟩ := participant_counts_agree Catalog.tagPlanner
  constructor
  · have performed := counts_team conditions_identifiers rfl
    rw [performed, agree FilterSpec.empty identifiers teamStore _ _ rfl rfl rfl
      (congrArg Prod.fst counts_alone) (congrArg Prod.fst performed)]
  · have listed := flattenedFields_addresses
    exact others addresses teamStore _ rfl (by rw [listed]; decide) rfl (by rw [listed]; decide)
      (rows_team_of_ungrouped conditions_addresses rfl) (by decide : 2 < Width.size 64)

/-- Two participants at Red Hat, who count as others when the rows show their addresses, and as one
when they are grouped by them. -/
theorem colleagues_miscounted :
    teamStore.perform (countParticipants Catalog.tagPlanner FilterSpec.empty) =
        (.ok ⟨some 2, some 2, none⟩, teamStore) ∧
      teamStore.perform (countParticipants Catalog.tagPlanner addresses) =
        (.ok ⟨some 2, none, some 2⟩, teamStore) ∧
      ∃ counts, teamStore.perform (countParticipants Catalog.tagPlanner byAddress) =
        (.ok counts, teamStore) ∧ counts.total = some 1 := by
  refine ⟨counts_alone, ?_, total_team_of_grouped conditions_byAddress rfl⟩
  have performed := counts_team conditions_addresses rfl
  rwa [flattenedFields_addresses, tallies_flattened (by decide)] at performed

end Registry

end Engagements
