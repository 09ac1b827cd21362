import Engagements.Proofs.Engagement.RoundTrip
import Engagements.Proofs.Registry

/-!
What a write leaves behind when it fails. A document is written before it is read again, so that
one which does not read as an engagement stays written.
-/
namespace Engagements.Registry

open Revision

/-- A write to the catalog itself, or by way of a request. -/
inductive Operation where
  | direct (candidate : Engagement) (expected : String) (launching : Bool)
  | requested (request : Request)

namespace Operation

def action : Operation → Action (Option Engagement)
  | direct candidate expected launching => Catalog.writeIfCurrent candidate expected launching
  | requested request => some <$> request.action

def checks : Operation → Action Unit
  | direct _ _ _ => pure ()
  | requested request => request.checks

/-- What is to be written at a time. -/
def candidate (time : String) : Operation → Engagement
  | direct candidate _ _ => candidate
  | requested request => request.candidate time

def expected : Operation → String
  | direct _ expected _ => expected
  | requested request => request.expected

def launching : Operation → Bool
  | direct _ _ launching => launching
  | requested request => request.isLaunch

/-- An operation fails by an error, or by finding no engagement at the version. -/
def Fails (operation : Operation) (store : Store) : Prop :=
  ∀ engagement, (store.perform operation.action).1 ≠ .ok (some engagement)

/-- The documents after an operation. -/
def documentsAfter (operation : Operation) (store : Store) : List Document :=
  (store.perform operation.action).2.documents

/-- What an operation makes of a document. -/
def made (operation : Operation) (store : Store) (document : Document) : Document :=
  image store.clock.issue.1 (operation.candidate store.clock.secondText).toDocument
    operation.launching document

/-- The document that an operation is let write, with its place. -/
def Hits (operation : Operation) (store : Store) (place : Nat) (document : Document) : Prop :=
  Passes store operation.checks ∧
    target? (operation.candidate store.clock.secondText).toDocument operation.expected
      store.documents = some place ∧
    store.documents[place]? = some document

theorem outcome (operation : Operation) (store : Store) :
    Outcome store operation.checks (operation.candidate store.clock.secondText).toDocument
      operation.expected operation.launching (store.perform operation.action).1
      (store.perform operation.action).2 := by
  cases operation with
  | direct candidate expected launching =>
      exact Catalog.write_outcome store candidate expected launching
  | requested request =>
      rw [action, Store.perform_map]
      exact request.outcome store

/-- What is hit is written, whether it reads as an engagement or not. -/
theorem perform_of_hits {operation : Operation} {store : Store} {place : Nat} {document : Document}
    (hits : operation.Hits store place document) :
    (store.perform operation.action).1 =
        (Engagement.ofDocument (operation.made store document)).map some ∧
      operation.documentsAfter store =
        store.documents.set place (operation.made store document) := by
  obtain ⟨passed, target, stored⟩ := hits
  cases operation with
  | direct candidate expected launching =>
      have performed : store.perform (Catalog.writeIfCurrent candidate expected launching) = _ :=
        Catalog.perform_write store (outage_of_passes passed) target stored launching
      rw [documentsAfter, action, performed]
      exact ⟨rfl, rfl⟩
  | requested request =>
      obtain ⟨answer, documents⟩ := Request.perform_passed passed target stored
      rw [documentsAfter, action, Store.perform_map, answer]
      exact ⟨rfl, documents⟩

/-- Either nothing is hit, and the documents stay as they are, or one document is. -/
theorem hits_or_kept (operation : Operation) (store : Store) :
    (∃ place document, operation.Hits store place document) ∨
      operation.documentsAfter store = store.documents := by
  cases operation.outcome store with
  | kept documents failed => exact Or.inr documents
  | wrote place document passed target stored documents answered =>
      exact Or.inl ⟨place, document, passed, target, stored⟩

theorem fails_iff_of_hits {operation : Operation} {store : Store} {place : Nat}
    {document : Document} (hits : operation.Hits store place document) :
    operation.Fails store ↔
      (Engagement.ofDocument (operation.made store document)).isOk = false := by
  rw [Fails, (perform_of_hits hits).1]
  cases Engagement.ofDocument (operation.made store document) with
  | error error => simp [Except.map, Except.isOk, Except.toBool]
  | ok engagement => simp [Except.map, Except.isOk, Except.toBool]

end Operation

/-- No path that a candidate carries beside the modelled fields begins with one of them. -/
def Plain (candidate : Engagement) : Prop :=
  ∀ path ∈ Fields.names candidate.extra, ∀ name ∈ Engagement.memberNames,
    (segments path).head? ≠ some name

/-- A document that reads as an engagement still does so once a plain candidate is written. -/
theorem isOk_image {candidate : Engagement} (bounded : candidate.Bounded) (plain : Plain candidate)
    {document : Document} (readable : (Engagement.ofDocument document).isOk = true)
    (version : String) (launching : Bool) :
    (Engagement.ofDocument
      (image version candidate.toDocument launching document)).isOk = true := by
  rw [Engagement.isOk_ofDocument, List.all_eq_true] at readable ⊢
  rintro ⟨name, value⟩ inside
  by_cases modelled : name ∈ Engagement.memberNames
  · refine Store.forall_mem_assign (fun value => Engagement.fits name value = true) ?_ document
      (fun value stored => readable (name, value) stored) value inside
    intro path value member begins old
    have whole : ∀ known, segments known = [known] → path = known →
        path = name ∧ Document.placed old (segments path).tail value = value := by
      intro known single same
      rw [same, single] at begins ⊢
      exact ⟨Option.some.inj begins, rfl⟩
    rcases mem_changes member with stamped | ⟨_, written | extra⟩
    · obtain ⟨same, text⟩ := Prod.mk.inj stamped
      obtain ⟨here, unchanged⟩ := whole versionField segments_versionField same
      rw [unchanged, text, ← here, same]
      rfl
    · have known := Record.names_writeMembers (List.mem_map.mpr ⟨_, written, rfl⟩)
      obtain ⟨here, unchanged⟩ := whole path (Engagement.segments_memberNames path known) rfl
      rw [unchanged, ← here]
      exact Engagement.fits_of_written bounded written
    · exact absurd begins (plain path (List.mem_map.mpr ⟨_, extra, rfl⟩) name modelled)
  · exact Engagement.fits_of_not_mem modelled value

theorem isOk_eq_false_iff (document : Document) :
    (Engagement.ofDocument document).isOk = false ↔
      ∃ field ∈ document, Engagement.fits field.1 field.2 = false := by
  rw [Engagement.isOk_ofDocument, List.all_eq_false]
  simp only [Bool.not_eq_true]

/-- An operation that fails has changed the documents just when it was let write one of them and
some field of what it wrote cannot be read; it says then that it cannot. So it changes none where
every document reads as an engagement and no path of the candidate leads below a modelled field. -/
theorem trace_of_failure_iff (store : Store) (operation : Operation) :
    (operation.Fails store ∧ operation.documentsAfter store ≠ store.documents ↔
        ∃ place document, operation.Hits store place document ∧
          operation.made store document ≠ document ∧
          ∃ field ∈ operation.made store document, Engagement.fits field.1 field.2 = false) ∧
      (operation.Fails store → operation.documentsAfter store ≠ store.documents →
        ∃ reason, (store.perform operation.action).1 = .error (.serialization reason)) ∧
      ((∀ document ∈ store.documents, (Engagement.ofDocument document).isOk = true) →
        (operation.candidate store.clock.secondText).Bounded →
          Plain (operation.candidate store.clock.secondText) →
            operation.Fails store → operation.documentsAfter store = store.documents) := by
  have hit : operation.documentsAfter store ≠ store.documents →
      ∃ place document, operation.Hits store place document := by
    intro changed
    rcases operation.hits_or_kept store with hits | kept
    · exact hits
    · exact absurd kept changed
  -- What was changed was hit, and what is hit fails only by the reading of what was written.
  refine ⟨⟨?_, ?_⟩, ?_, ?_⟩
  · rintro ⟨fails, changed⟩
    obtain ⟨place, document, hits⟩ := hit changed
    have unreadable := (Operation.fails_iff_of_hits hits).mp fails
    refine ⟨place, document, hits, ?_, (isOk_eq_false_iff _).mp unreadable⟩
    intro same
    obtain ⟨bound, here⟩ := List.getElem?_eq_some_iff.mp hits.2.2
    rw [(Operation.perform_of_hits hits).2, same, ← here, List.set_getElem_self] at changed
    exact changed rfl
  · rintro ⟨place, document, hits, different, unreadable⟩
    refine ⟨(Operation.fails_iff_of_hits hits).mpr ((isOk_eq_false_iff _).mpr unreadable), ?_⟩
    intro same
    have stored := hits.2.2
    have bound := (List.getElem?_eq_some_iff.mp stored).1
    rw [← same, (Operation.perform_of_hits hits).2, List.getElem?_set_self bound] at stored
    exact different (Option.some.inj stored)
  · intro fails changed
    obtain ⟨place, document, hits⟩ := hit changed
    have unreadable := (Operation.fails_iff_of_hits hits).mp fails
    obtain ⟨reason, read⟩ := Engagement.ofDocument_error unreadable
    refine ⟨reason, ?_⟩
    rw [(Operation.perform_of_hits hits).1, read]
    rfl
  · intro readable bounded plain fails
    by_contra changed
    obtain ⟨place, document, hits⟩ := hit changed
    have unreadable := (Operation.fails_iff_of_hits hits).mp fails
    have stored := readable document (List.mem_of_getElem? hits.2.2)
    rw [Operation.made, isOk_image bounded plain stored] at unreadable
    cases unreadable

/-- A store with one document under an identifier. -/
def keyedStore (id : Value) : Store :=
  ⟨[[("_id", id), ("uuid", .string "u"), ("lastUpdate", .string "v"),
    ("description", .string "old")]], 0, ⟨0, 0⟩, 5000, none⟩

def redescription (expected : String) : Operation :=
  .requested
    (.update { Engagement.empty with uuid := some "u", description := some "new" } expected)

theorem stale_redescription_leaves_no_trace :
    (redescription "w").Fails (keyedStore (.string "a")) ∧
      (redescription "w").documentsAfter (keyedStore (.string "a")) =
        (keyedStore (.string "a")).documents := by
  have failed : ((keyedStore (.string "a")).perform (redescription "w").action).1.isOk = false := by
    decide +kernel
  have fails : (redescription "w").Fails (keyedStore (.string "a")) := by
    intro engagement same
    rw [same] at failed
    cases failed
  have readable : ∀ document ∈ (keyedStore (.string "a")).documents,
      (Engagement.ofDocument document).isOk = true := by decide +kernel
  have bounded : Engagement.Bounded
      { Engagement.empty with uuid := some "u", description := some "new" } :=
    ⟨fun _ none => (nomatch none), fun _ none => (nomatch none)⟩
  have plain : Plain { Engagement.empty with uuid := some "u", description := some "new" } :=
    fun path member => nomatch member
  exact ⟨fails, (trace_of_failure_iff (keyedStore (.string "a")) (redescription "w")).2.2 readable
    bounded plain fails⟩

/-- An identifier that is a number is read by no lookup, but it is by the write. -/
theorem redescription_leaves_trace :
    ((keyedStore (.int 5)).perform (get "u" none)).1.isOk = true ∧
      (redescription "v").Fails (keyedStore (.int 5)) ∧
      (redescription "v").documentsAfter (keyedStore (.int 5)) ≠
        (keyedStore (.int 5)).documents := by
  refine ⟨by decide +kernel, ?_, by decide +kernel⟩
  have failed : ((keyedStore (.int 5)).perform (redescription "v").action).1.isOk = false := by
    decide +kernel
  intro engagement same
  rw [same] at failed
  cases failed

end Engagements.Registry
