import Engagements.Proofs.Catalog.Partition
import Engagements.Proofs.Planner.Answers

/-!
What the planner makes always runs to an answer, which is read as it stands.
-/
namespace Engagements.Catalog

open Planner

/-- An outage is no fault of a pipeline. -/
theorem outage_ne_invalidPipeline (outage : Outage) (operation : String) (timeLimit : Nat)
    (reason : String) : outage.error operation timeLimit ≠ .invalidPipeline reason := by
  cases outage <;> exact nofun

/-- A request that is refused, or whose pipeline runs on the documents, does not end in an invalid
pipeline. -/
theorem perform_planned {α β : Type} {planned : Result α} {pipeline : α → Pipeline}
    {answer : α → List Document → β} (refusing : Result.Refusing planned) {store : Store}
    (runs : ∀ a, planned = .ok a → ∃ found, (pipeline a).run store.documents = .ok found)
    (reason : String) :
    (store.perform (do
      let a ← (liftM planned : Action α)
      let output ← Store.aggregate (pipeline a)
      return answer a output)).1 ≠ .error (.invalidPipeline reason) := by
  intro failed
  rw [Store.perform_bind, Store.perform_lift] at failed
  cases planned with
  | error error =>
      have blamed : error.status = 400 := refusing error rfl
      rw [Except.error.inj failed] at blamed
      cases blamed
  | ok a =>
      obtain ⟨found, ran⟩ := runs a rfl
      simp only [Store.perform_bind, Store.aggregate, Store.perform_call] at failed
      cases struck : store.outage with
      | some outage =>
          rw [struck] at failed
          exact outage_ne_invalidPipeline _ _ _ _ (Except.error.inj failed)
      | none =>
          simp only [struck, ran] at failed
          cases failed

/-- Whatever the documents are, a plan makes one document of them, which holds objects as the
results and a number that is not negative as their count; a page shows all of these objects, and
reads the count, which no list in memory takes beyond 64 bits. A partition makes one document as
well. So neither answers that a pipeline is invalid. -/
theorem plans_answer_with_one_document (planner : Planner) (spec : FilterSpec)
    (base : Option Predicate) :
    (∀ plan, planner.plan spec base = .ok plan → ∀ documents, ∃ answer items total,
      plan.pipeline.run documents = .ok [answer] ∧
      Fields.get? answer resultsField = some (.array (items.map .object)) ∧
      Fields.get? answer totalCountField = some (.int (total : Nat)) ∧
      (pageOf answer plan.paging).results = items ∧
      (total < Width.size 64 → count? answer totalCountField = some total)) ∧
    (∀ partition pipeline, planner.planPartition spec base partition = .ok pipeline →
      ∀ documents, ∃ answer, pipeline.run documents = .ok [answer]) ∧
    ∀ (store : Store) reason,
      (store.perform (findPage planner spec base)).1 ≠ .error (.invalidPipeline reason) ∧
      ∀ partition, (store.perform (countPartition planner spec base partition)).1 ≠
        .error (.invalidPipeline reason) := by
  refine ⟨?_, fun _ _ planned documents => run_planPartition planned documents,
    fun store reason => ⟨?_, fun partition => ?_⟩⟩
  · intro plan planned documents
    obtain ⟨shown, total, ran⟩ := run_plan planned documents
    have counted : Fields.get? (envelope shown total) totalCountField = some (.int total) := by
      rw [envelope, Fields.get?, if_neg (by decide), Fields.get?, if_pos rfl]
    exact ⟨_, shown, total, ran, rfl, counted, results_pageOf shown total _,
      count?_of_int counted⟩
  · refine perform_planned (refusing_plan planner spec base) (fun plan planned => ?_) reason
    obtain ⟨shown, total, ran⟩ := run_plan planned store.documents
    exact ⟨_, ran⟩
  · refine perform_planned (refusing_planPartition planner spec base partition)
      (fun pipeline planned => ?_) reason
    obtain ⟨answer, ran⟩ := run_planPartition planned store.documents
    exact ⟨_, ran⟩

/-- Two sides of one name, which is a path and under which no branch is found. -/
def nestedPartition : Partition := ⟨"tags.x", "tags.x", .equals "tags" (.string "x")⟩

theorem tags_always_answer :
    ∃ plan pipeline answer counts, tagPlanner.plan tags none = .ok plan ∧
      tagPlanner.planPartition tags none nestedPartition = .ok pipeline ∧
      plan.pipeline.run taggedStore.documents = .ok [answer] ∧
      (pageOf answer plan.paging).results.length = 3 ∧ count? answer totalCountField = some 3 ∧
      pipeline.run taggedStore.documents = .ok [counts] ∧
      count? counts totalCountField = some 3 ∧ count? counts nestedPartition.name = none := by
  obtain ⟨answers, parts, _⟩ := plans_answer_with_one_document tagPlanner tags none
  have planned : tagPlanner.plan tags none =
      .ok ⟨sharedStages tags none ++ envelopeStages tags none, none, []⟩ := by
    rw [plan, conditions_tags]
    rfl
  have planned' : tagPlanner.planPartition tags none nestedPartition =
      .ok (sharedStages tags none ++ partitionStages nestedPartition) := by
    rw [planPartition, conditions_tags]
    rfl
  obtain ⟨answer, _, _, ran, _⟩ := answers _ planned taggedStore.documents
  obtain ⟨counts, ran'⟩ := parts _ _ planned' taggedStore.documents
  have answered : Pipeline.run (sharedStages tags none ++ envelopeStages tags none)
      taggedStore.documents = .ok [envelope
        [[("tags", .string "x"), ("name", .string "one")],
          [("tags", .string "y"), ("name", .string "one")],
          [("tags", .string "z"), ("name", .string "two")]] 3] := by
    decide +kernel
  have answered' : Pipeline.run (sharedStages tags none ++ partitionStages nestedPartition)
      taggedStore.documents = .ok [[("totalCount", .int 3)]] := by
    decide +kernel
  obtain rfl := List.head_eq_of_cons_eq (Except.ok.inj (ran.symm.trans answered))
  obtain rfl := List.head_eq_of_cons_eq (Except.ok.inj (ran'.symm.trans answered'))
  exact ⟨_, _, _, _, planned, planned', ran, by decide +kernel,
    by decide +kernel, ran', by decide +kernel, by decide +kernel⟩

end Engagements.Catalog
