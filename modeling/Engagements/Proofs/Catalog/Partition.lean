import Engagements.Proofs.Catalog.Pages

/-!
A partition counts every row that a page counts on one of its two sides.
-/
namespace Engagements.Catalog

open Planner

/-- A count of nothing is absent. -/
def tally (n : Nat) : Option Nat := if n = 0 then none else some n

@[simp] theorem getD_tally (n : Nat) : (tally n).getD 0 = n := by
  rw [tally]
  split
  · rename_i none
    exact none.symm
  · rfl

theorem count?_of_branch {envelope : Document} {name : String} {n : Nat}
    (held : if n = 0 then ∀ number, Fields.get? envelope name ≠ some (.number number)
      else Fields.get? envelope name = some (.int n)) (bound : n < Width.size 64) :
    count? envelope name = tally n := by
  rw [tally]
  split
  · rename_i nothing
    rw [if_pos nothing] at held
    exact count?_of_none held
  · rename_i something
    rw [if_neg something] at held
    exact count?_of_int held bound

/-- A partition is counted wherever its filter is accepted. -/
theorem perform_countPartition {planner : Planner} {spec : FilterSpec} {base : Option Predicate}
    {partition : Partition} (distinct : (branchNames partition).Nodup)
    (dotless : ∀ name ∈ branchNames partition, '.' ∉ name.toList) {store : Store}
    (struck : store.outage = none) {rows : List Document}
    (selected : planner.rows spec base store.documents = .ok rows) :
    ∃ counts, store.perform (countPartition planner spec base partition) = (.ok counts, store) ∧
      (rows.length < Width.size 64 →
        counts.total = tally rows.length ∧
        counts.matching = tally (rows.countP fun row => partition.predicate.holds (.object row)) ∧
        counts.complement =
          tally (rows.countP fun row => !partition.predicate.holds (.object row))) := by
  obtain ⟨predicate, ignored, conditions, passed⟩ := run_shared selected
  obtain ⟨envelope, ran, counts⟩ := runAll_partitionStages distinct dotless rows
  have planned : planner.planPartition spec base partition =
      .ok (sharedStages spec predicate ++ partitionStages partition) := by
    rw [planPartition, conditions]
    rfl
  refine ⟨⟨count? envelope totalCountField, count? envelope partition.name,
    count? envelope partition.complementName⟩, ?_, fun bound => ?_⟩
  · rw [countPartition, Store.perform_bind, Store.perform_lift, planned]
    simp only [Store.perform_bind, perform_aggregate struck, passed, ran, Store.perform_pure,
      List.head?_cons, Option.getD_some]
  · have counted : ∀ name ∈ branchNames partition,
        count? envelope name = tally (branchSize partition rows name) := fun name inside =>
      count?_of_branch (counts name inside)
        (Nat.lt_of_le_of_lt (branchSize_le partition rows name) bound)
    simp only [branchNames, List.forall_mem_cons, branchSizes distinct rows] at counted
    obtain ⟨total, matching, complement, _⟩ := counted
    exact ⟨total, matching, complement⟩

/-- The two sides of a partition come to all rows, which are as many as a page of the same filter
counts, and a count is absent just when there is nothing to count. No list of rows in memory is
longer than a number of 64 bits. -/
theorem partition_counts_add_up (planner : Planner) (spec : FilterSpec) (base : Option Predicate)
    (partition : Partition) (store : Store) (struck : store.outage = none)
    (accepted : (planner.plan spec base).isOk = true) (dotless : '.' ∉ partition.name.toList)
    (dotless' : '.' ∉ partition.complementName.toList)
    (apart : partition.name ≠ partition.complementName)
    (free : partition.name ≠ totalCountField) (free' : partition.complementName ≠ totalCountField) :
    ∃ rows page counts, planner.rows spec base store.documents = .ok rows ∧
      store.perform (findPage planner spec base) = (.ok page, store) ∧
      store.perform (countPartition planner spec base partition) = (.ok counts, store) ∧
      (rows.length < Width.size 64 →
        counts.matching.getD 0 + counts.complement.getD 0 = counts.total.getD 0 ∧
        counts.total.getD 0 = page.totalCount ∧
        counts.total = tally rows.length ∧
        counts.matching = tally (rows.countP fun row => partition.predicate.holds (.object row)) ∧
        counts.complement =
          tally (rows.countP fun row => !partition.predicate.holds (.object row))) := by
  obtain ⟨rows, selected⟩ := rows_ok accepted store.documents
  have distinct : (branchNames partition).Nodup := by
    simp [branchNames, apart, Ne.symm free, Ne.symm free']
  have dotless : ∀ name ∈ branchNames partition, '.' ∉ name.toList := by
    simp only [branchNames, List.forall_mem_cons]
    exact ⟨by decide, dotless, dotless', List.forall_mem_nil _⟩
  obtain ⟨counts, counted, sizes⟩ := perform_countPartition distinct dotless struck selected
  refine ⟨rows, _, counts, selected, perform_findPage struck selected, counted, fun bound => ?_⟩
  obtain ⟨total, matching, complement⟩ := sizes bound
  refine ⟨?_, ?_, total, matching, complement⟩
  · rw [total, matching, complement, getD_tally, getD_tally, getD_tally,
      List.length_eq_countP_add_countP fun row => partition.predicate.holds (.object row)]
    simp
  · rw [total, totalCount_pageOf _ bound, getD_tally]

/-- The tags by a name that none of them has; the branch for these has the name of the identifying
field. -/
def tagPartition : Partition := ⟨"_id", "others", .equals "tags" (.string "w")⟩

theorem tags_partition_adds_up :
    ∃ page, taggedStore.perform (findPage tagPlanner tags none) = (.ok page, taggedStore) ∧
      taggedStore.perform (countPartition tagPlanner tags none tagPartition) =
        (.ok ⟨some 3, none, some 3⟩, taggedStore) ∧ page.totalCount = 3 := by
  obtain ⟨rows, page, ⟨total, matching, complement⟩, selected, found, performed, counted⟩ :=
    partition_counts_add_up tagPlanner tags none tagPartition taggedStore rfl accepted_tags
      (by decide) (by decide) (by decide) (by decide) (by decide)
  obtain rfl := Except.ok.inj (rows_tags.symm.trans selected)
  obtain ⟨_, shown, rfl, rfl, rfl⟩ := counted (by decide +kernel)
  refine ⟨page, found, performed.trans ?_, shown.symm.trans (by decide +kernel)⟩
  refine congrArg (fun counts : PartitionCounts => (Except.ok counts, taggedStore)) ?_
  decide +kernel

end Engagements.Catalog
