import Engagements.Proofs.Planner

/-!
A filter that is refused is refused as the client's mistake, and one that is accepted has an answer
whatever the documents are.
-/
namespace Engagements

namespace Result

variable {α β : Type}

/-- Where there is no value, the client is told what is wrong with the request. -/
def Refusing (result : Result α) : Prop :=
  ∀ error : Error, result = .error error → error.status = 400

theorem refusing_ok (a : α) : Refusing (.ok a : Result α) := nofun

theorem refusing_error {error : Error} (refused : error.status = 400) :
    Refusing (.error error : Result α) := by
  intro other same
  rw [← Except.error.inj same]
  exact refused

theorem refusing_mapError {ε : Type} {report : ε → Error} (refused : ∀ e, (report e).status = 400)
    (found : Except ε α) : Refusing (found.mapError report) := by
  cases found with
  | ok a => exact refusing_ok a
  | error e => exact refusing_error (refused e)

theorem refusing_bind {first : Result α} {next : α → Result β} (one : Refusing first)
    (rest : ∀ a, Refusing (next a)) : Refusing (first >>= next) := by
  cases first with
  | ok a => exact rest a
  | error error => exact refusing_error (one error rfl)

theorem refusing_foldlM {step : β → α → Result β} (each : ∀ b a, Refusing (step b a))
    (items : List α) (start : β) : Refusing (items.foldlM step start) := by
  induction items generalizing start with
  | nil => exact refusing_ok start
  | cons item items ih =>
      rw [List.foldlM_cons]
      exact refusing_bind (each start item) ih

end Result

open Result

namespace Search

theorem refusing_reservedDate (key value : String) : Refusing (reservedDate key value) :=
  refusing_mapError (fun _ => rfl) _

theorem refusing_readPattern (field : String) (value : List Char) :
    Refusing (readPattern field value) := by
  rw [readPattern]
  split
  · exact refusing_ok _
  · exact refusing_error rfl

theorem refusing_coerce (path raw : String) : Refusing (coerce path raw) := by
  rw [coerce]
  split
  · exact refusing_error rfl
  · exact refusing_mapError (fun _ => rfl) _

theorem refusing_addEquals (progress : Progress) (key value : String) :
    Refusing (progress.addEquals key value) := by
  rw [Progress.addEquals]
  split
  · exact refusing_ok _
  · exact refusing_bind (refusing_reservedDate _ _) fun _ => refusing_ok _
  · exact refusing_bind (refusing_reservedDate _ _) fun _ => refusing_ok _
  · exact refusing_bind (refusing_reservedDate _ _) fun _ => refusing_ok _
  · exact refusing_bind (refusing_coerce _ _) fun _ => refusing_ok _

theorem refusing_addPiece (progress : Progress) (piece : String) :
    Refusing (progress.addPiece piece) := by
  rw [Progress.addPiece]
  split
  · exact refusing_ok _
  split
  · rename_i component _
    cases component with
    | unlike field value => exact refusing_bind (refusing_readPattern _ _) fun _ => refusing_ok _
    | like field value => exact refusing_bind (refusing_readPattern _ _) fun _ => refusing_ok _
    | absent field => exact refusing_ok _
    | present field => exact refusing_ok _
    | equals key value => exact refusing_addEquals _ _ _
  · exact refusing_ok _

theorem refusing_read (today : Date) (text : String) : Refusing (read today text) :=
  refusing_bind (refusing_foldlM refusing_addPiece _ _) fun _ => refusing_ok _

end Search

namespace Planner

theorem refusing_conditions (planner : Planner) (spec : FilterSpec) (base : Option Predicate) :
    Refusing (planner.conditions spec base) :=
  refusing_bind (refusing_mapError (fun _ => rfl) _) fun _ =>
    refusing_bind (refusing_mapError (fun _ => rfl) _) fun _ =>
      refusing_bind (Search.refusing_read _ _) fun _ => refusing_ok _

theorem refusing_plan (planner : Planner) (spec : FilterSpec) (base : Option Predicate) :
    Refusing (planner.plan spec base) :=
  refusing_bind (refusing_conditions planner spec base) fun _ => refusing_ok _

theorem refusing_planPartition (planner : Planner) (spec : FilterSpec) (base : Option Predicate)
    (partition : Partition) : Refusing (planner.planPartition spec base partition) :=
  refusing_bind (refusing_conditions planner spec base) fun _ => refusing_ok _

/-- A plan makes the document of a page of any documents. -/
theorem run_plan {planner : Planner} {spec : FilterSpec} {base : Option Predicate} {plan : Plan}
    (planned : planner.plan spec base = .ok plan) (documents : List Document) :
    ∃ shown total, plan.pipeline.run documents = .ok [envelope shown total] := by
  have accepted : (planner.plan spec base).isOk = true := by
    rw [planned]
    rfl
  obtain ⟨rows, selected⟩ := rows_ok accepted documents
  obtain ⟨predicate, ignored, conditions, passed⟩ := run_shared selected
  rw [Planner.plan, conditions] at planned
  obtain rfl := Except.ok.inj planned
  exact ⟨_, _, (passed _).trans (runAll_envelopeStages spec _ rows)⟩

/-- Whatever the names of its sides, a partition makes one document of any rows. -/
theorem answer_partitionStages (partition : Partition) (rows : List Document) :
    ∃ answer, Stage.runAll rows (partitionStages partition) = .ok [answer] := by
  have counting : ∀ branch ∈ partitionBranches partition, Stage.Sure branch.2 := by
    simp only [partitionBranches, List.forall_mem_cons]
    exact ⟨fun rows => ⟨_, Stage.runAll_count rows _⟩,
      fun rows => ⟨_, Stage.runAll_filter_count rows _ _⟩,
      fun rows => ⟨_, Stage.runAll_filter_count rows _ _⟩, List.forall_mem_nil _⟩
  obtain ⟨facets, made⟩ := Stage.run_facet counting rows
  rw [partitionStages, Stage.runAll, made]
  simp only [Stage.runAll_singleton, Stage.run, List.map_singleton]
  exact ⟨_, rfl⟩

theorem run_planPartition {planner : Planner} {spec : FilterSpec} {base : Option Predicate}
    {partition : Partition} {pipeline : Pipeline}
    (planned : planner.planPartition spec base partition = .ok pipeline)
    (documents : List Document) : ∃ answer, pipeline.run documents = .ok [answer] := by
  rw [planPartition] at planned
  cases found : planner.conditions spec base with
  | error error =>
      rw [found] at planned
      cases planned
  | ok conditions =>
      rw [found] at planned
      obtain rfl := Except.ok.inj planned
      obtain ⟨rows, selected⟩ := sure_sharedStages spec conditions.1 documents
      obtain ⟨answer, made⟩ := answer_partitionStages partition rows
      exact ⟨answer, (Stage.runAll_append_ok selected _).trans made⟩

end Planner

end Engagements
