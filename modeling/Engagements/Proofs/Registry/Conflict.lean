import Engagements.Proofs.Registry.Names

/-!
A write that finds no engagement at its version: a later lookup tells a conflict from an engagement
that is not there, and it looks for less than the write did.
-/
namespace Engagements.Registry

open Revision Store

/-- A document of an engagement at a version. -/
def IsAt (uuid version : String) (document : Document) : Prop :=
  uuidOf document = some uuid ∧ document.text? versionField = some version

instance (uuid version : String) : DecidablePred (IsAt uuid version) :=
  fun _ => inferInstanceAs (Decidable (_ ∧ _))

/-- There is a first document among those at a version, if there is any. -/
theorem exists_first_at {uuid version : String} {documents : List Document}
    (current : ∃ document ∈ documents, IsAt uuid version document) :
    ∃ before document after, documents = before ++ document :: after ∧
      (∀ other ∈ before, ¬ IsAt uuid version other) ∧ IsAt uuid version document := by
  have some : (documents.find? fun document => decide (IsAt uuid version document)).isSome := by
    simpa using current
  obtain ⟨first, found⟩ := Option.isSome_iff_exists.mp some
  obtain ⟨matched, before, after, split, missed⟩ := List.find?_eq_some_iff_append.mp found
  exact ⟨before, first, after, split, by simpa using missed, of_decide_eq_true matched⟩

theorem serialization_of_ofDocument {document : Document} {error : Error}
    (failed : Engagement.ofDocument document = .error error) :
    ∃ reason, error = .serialization reason := by
  obtain ⟨reason, read⟩ := Engagement.ofDocument_error (by rw [failed]; rfl)
  exact ⟨reason, Except.error.inj (failed.symm.trans read)⟩

section Lookup

variable {document : Document} (distinct : (Fields.names document).Nodup)
  (readable : (Engagement.ofDocument (Catalog.shown document)).isOk = true)

include distinct readable

theorem holds_equals_uuid (uuid : String) :
    (Predicate.equals uuidField (.string uuid)).holds (.object document) = true ↔
      uuidOf document = some uuid := by
  rw [Predicate.holds_equals_string document segments_uuidField]
  exact offers_iff_of_shown distinct readable (by decide) (fun _ => rfl) uuid

theorem condition_holds_iff (uuid expected : String) :
    (condition uuid expected).holds (.object document) = true ↔ IsAt uuid expected document := by
  rw [condition_holds, Bool.and_eq_true,
    offers_iff_of_shown distinct readable (by decide) fun _ => rfl,
    offers_iff_of_shown distinct readable (by decide) fun _ => rfl]
  rfl

end Lookup

theorem findIdx?_condition_of_stale {documents : List Document}
    (distinct : ∀ document ∈ documents, (Fields.names document).Nodup)
    (readable : ∀ document ∈ documents,
      (Engagement.ofDocument (Catalog.shown document)).isOk = true) {uuid expected : String}
    (stale : ∀ document ∈ documents, ¬ IsAt uuid expected document) :
    documents.findIdx? (fun document => (condition uuid expected).holds (.object document)) =
      none := by
  rw [List.findIdx?_eq_none_iff]
  intro document member
  rw [Bool.eq_false_iff, ne_eq, condition_holds_iff (distinct _ member) (readable _ member)]
  exact stale document member

section Update

variable {store : Store} {candidate : Engagement} {uuid expected : String}
  (distinct : ∀ document ∈ store.documents, (Fields.names document).Nodup)
  (readable : ∀ document ∈ store.documents,
    (Engagement.ofDocument (Catalog.shown document)).isOk = true)

include distinct readable

theorem perform_unmatched_known (struck : store.outage = none)
    (known : ∃ document ∈ store.documents, uuidOf document = some uuid) :
    store.perform (unmatched uuid expected) = (.error (.versionConflict uuid expected), store) := by
  obtain ⟨document, member, held⟩ := known
  have some : (store.find? (.equals uuidField (.string uuid))).isSome = true := by
    refine List.find?_isSome.mpr ⟨document, member, ?_⟩
    exact (holds_equals_uuid (distinct _ member) (readable _ member) uuid).mpr held
  obtain ⟨first, found⟩ := Option.isSome_iff_exists.mp some
  have read := readable first (List.mem_of_find?_eq_some found)
  rw [unmatched, perform_bind, Catalog.findByUuid, Catalog.perform_findFirst, struck]
  simp only [found]
  cases shown : Engagement.ofDocument (Catalog.shown first) with
  | error error =>
      rw [shown] at read
      cases read
  | ok engagement => rfl

theorem perform_unmatched_unknown (struck : store.outage = none)
    (unknown : ∀ document ∈ store.documents, uuidOf document ≠ some uuid) :
    store.perform (unmatched uuid expected) = (.error (.engagementNotFound uuid), store) := by
  have none : store.find? (.equals uuidField (.string uuid)) = none := by
    refine List.find?_eq_none.mpr fun document member => ?_
    rw [holds_equals_uuid (distinct _ member) (readable _ member)]
    exact unknown document member
  rw [unmatched, perform_bind, Catalog.findByUuid, Catalog.perform_findFirst, struck]
  simp only [none]
  rfl

theorem target?_of_stale (named : subject? candidate.toDocument = some uuid)
    (stale : ∀ document ∈ store.documents, ¬ IsAt uuid expected document) :
    target? candidate.toDocument expected store.documents = none := by
  rw [target?, named, Option.bind_some, findIdx?_condition_of_stale distinct readable stale]

theorem target?_of_first (named : subject? candidate.toDocument = some uuid)
    {before after : List Document} {document : Document}
    (split : store.documents = before ++ document :: after)
    (earlier : ∀ other ∈ before, ¬ IsAt uuid expected other)
    (current : IsAt uuid expected document) :
    target? candidate.toDocument expected store.documents = some before.length := by
  rw [split] at distinct readable
  have missed := findIdx?_condition_of_stale
    (fun other member => distinct other (List.mem_append_left _ member))
    (fun other member => readable other (List.mem_append_left _ member)) earlier
  have here : document ∈ before ++ document :: after :=
    List.mem_append_right before List.mem_cons_self
  have hit := (condition_holds_iff (distinct _ here) (readable _ here) uuid expected).mpr current
  rw [target?, named, Option.bind_some, split, List.findIdx?_append, missed, List.findIdx?_cons,
    if_pos hit]
  simp

/-- Without a document at the version the answer is a conflict, or the engagement is not found. -/
theorem perform_update_of_stale (known : candidate.uuid = some uuid)
    (named : subject? candidate.toDocument = some uuid)
    (passed : Passes store (Request.update candidate expected).checks)
    (stale : ∀ document ∈ store.documents, ¬ IsAt uuid expected document) :
    store.perform (update candidate expected) =
      { store with clock := store.clock.issue.2, outage := none }.perform
        (unmatched uuid expected) :=
  Request.perform_missed passed known named (target?_of_stale distinct readable named stale)

/-- The first document at the version is the one that is written. -/
theorem perform_update_of_first (named : subject? candidate.toDocument = some uuid)
    (passed : Passes store (Request.update candidate expected).checks)
    {before after : List Document} {document : Document}
    (split : store.documents = before ++ document :: after)
    (earlier : ∀ other ∈ before, ¬ IsAt uuid expected other)
    (current : IsAt uuid expected document) :
    (store.perform (update candidate expected)).1 =
        Engagement.ofDocument (image store.clock.issue.1 candidate.toDocument false document) ∧
      (store.perform (update candidate expected)).2.documents =
        before ++ image store.clock.issue.1 candidate.toDocument false document :: after := by
  have target := target?_of_first distinct readable named split earlier current
  have stored : store.documents[before.length]? = some document := by simp [split]
  obtain ⟨answered, left⟩ := Request.perform_passed passed target stored
  refine ⟨answered, left.trans ?_⟩
  rw [split, List.set_append_right _ _ (Nat.le_refl _), Nat.sub_self, List.set_cons_zero]
  rfl

/-- What an update whose checks pass answers: a conflict, that there is no such engagement, or what
is read of a document that it has written. -/
theorem update_cases (known : candidate.uuid = some uuid)
    (named : subject? candidate.toDocument = some uuid)
    (passed : Passes store (Request.update candidate expected).checks) :
    ((∃ document ∈ store.documents, uuidOf document = some uuid) ∧
        (∀ document ∈ store.documents, ¬ IsAt uuid expected document) ∧
        store.perform (update candidate expected) = (.error (.versionConflict uuid expected),
          { store with clock := store.clock.issue.2, outage := none })) ∨
      ((∀ document ∈ store.documents, uuidOf document ≠ some uuid) ∧
        store.perform (update candidate expected) = (.error (.engagementNotFound uuid),
          { store with clock := store.clock.issue.2, outage := none })) ∨
      (∃ document ∈ store.documents, IsAt uuid expected document) ∧
        ∃ made, (store.perform (update candidate expected)).1 = Engagement.ofDocument made := by
  by_cases current : ∃ document ∈ store.documents, IsAt uuid expected document
  · obtain ⟨before, document, after, split, earlier, matched⟩ :=
      exists_first_at current
    have written := perform_update_of_first distinct readable named passed split earlier matched
    exact Or.inr (Or.inr ⟨current, _, written.1⟩)
  · have stale : ∀ document ∈ store.documents, ¬ IsAt uuid expected document :=
      fun document member matched => current ⟨document, member, matched⟩
    have performed := perform_update_of_stale distinct readable known named passed stale
    by_cases some : ∃ document ∈ store.documents, uuidOf document = some uuid
    · exact Or.inl ⟨some, stale,
        performed.trans (perform_unmatched_known distinct readable rfl some)⟩
    · have unknown : ∀ document ∈ store.documents, uuidOf document ≠ .some uuid :=
        fun document member held => some ⟨document, member, held⟩
      exact Or.inr (Or.inl ⟨unknown,
        performed.trans (perform_unmatched_unknown distinct readable rfl unknown)⟩)

end Update

/-- Two documents share an identifier, each at a version of its own. -/
def sharedStore : Store :=
  ⟨[[("_id", .int 1), ("uuid", .string "u"), ("lastUpdate", .string "v"),
      ("customerName", .string "c"), ("projectName", .string "p")],
    [("_id", .string "b"), ("uuid", .string "u"), ("lastUpdate", .string "w")],
    [("uuid", .string "x"), ("lastUpdate", .string "y")]], 0, ⟨0, 0⟩, 5000, none⟩

def newProject : Engagement :=
  { Engagement.empty with uuid := some "u", projectName := some "q" }

end Engagements.Registry
