import Engagements.Pipeline.Run

/-!
What stages one after another make of documents.
-/
namespace Engagements.Stage

theorem runAll_append (documents : List Document) (first second : List Stage) :
    runAll documents (first ++ second) =
      runAll documents first >>= fun found => runAll found second := by
  induction first generalizing documents with
  | nil => rfl
  | cons stage first ih =>
      rw [List.cons_append, runAll, runAll]
      cases stage.run documents with
      | error error => rfl
      | ok found => exact ih found

theorem runAll_append_ok {documents found : List Document} {first : List Stage}
    (done : runAll documents first = .ok found) (second : List Stage) :
    runAll documents (first ++ second) = runAll found second := by
  rw [runAll_append, done]
  rfl

theorem runAll_singleton (documents : List Document) (stage : Stage) :
    runAll documents [stage] = stage.run documents := by
  rw [runAll]
  cases stage.run documents <;> rfl

/-- Stages that make something of any documents. -/
def Sure (stages : List Stage) : Prop := ∀ documents, ∃ found, runAll documents stages = .ok found

theorem sure_nil : Sure [] := fun documents => ⟨documents, rfl⟩

theorem sure_append {first second : List Stage} (one : Sure first) (two : Sure second) :
    Sure (first ++ second) := by
  intro documents
  obtain ⟨found, done⟩ := one documents
  obtain ⟨made, done'⟩ := two found
  exact ⟨made, (runAll_append_ok done second).trans done'⟩

theorem sure_cons {stage : Stage} {stages : List Stage}
    (one : ∀ documents, ∃ found, stage.run documents = .ok found) (rest : Sure stages) :
    Sure (stage :: stages) := by
  have alone : Sure [stage] := fun documents => by
    rw [runAll_singleton]
    exact one documents
  exact sure_append alone rest

theorem runBranches_ok {branches : List (String × List Stage)}
    (sure : ∀ branch ∈ branches, Sure branch.2) (documents : List Document) (facets : Document) :
    ∃ made, runBranches documents facets branches = .ok made := by
  induction branches generalizing facets with
  | nil => exact ⟨facets, rfl⟩
  | cons branch branches ih =>
      obtain ⟨here, later⟩ := List.forall_mem_cons.mp sure
      obtain ⟨found, done⟩ := here documents
      obtain ⟨made, rest⟩ := ih later
        (Fields.insert facets branch.1 (.array (found.map .object)))
      exact ⟨made, by rw [runBranches, done]; exact rest⟩

/-- Branches that make something of any documents are put into one document. -/
theorem run_facet {branches : List (String × List Stage)}
    (sure : ∀ branch ∈ branches, Sure branch.2) (documents : List Document) :
    ∃ facets, (facet branches).run documents = .ok [facets] := by
  obtain ⟨facets, made⟩ := runBranches_ok sure documents []
  exact ⟨facets, by rw [run, made]⟩

/-- What objects are merged into is an object. -/
theorem run_replaceRoot_merged (items : List Expr) (documents : List Document) :
    (replaceRoot (.merged items)).run documents =
      .ok (documents.map fun document => Expr.evalMerged document [] items) := by
  rw [run]
  induction documents with
  | nil => rfl
  | cons document documents ih =>
      rw [List.mapM_cons, ih]
      rfl

/-- The document in which a count comes out; nothing is not counted. -/
def counted (field : String) (n : Nat) : List Document := if n = 0 then [] else [[(field, .int n)]]

theorem runAll_count (documents : List Document) (field : String) :
    runAll documents [.count field] = .ok (counted field documents.length) := by
  rw [runAll_singleton, run, counted]
  cases documents <;> rfl

theorem runAll_filter_count (documents : List Document) (predicate : Predicate) (field : String) :
    runAll documents [.filter predicate, .count field] =
      .ok (counted field
        (documents.countP fun document => predicate.holds (.object document))) := by
  rw [List.countP_eq_length_filter, ← runAll_count]
  rfl

end Engagements.Stage
