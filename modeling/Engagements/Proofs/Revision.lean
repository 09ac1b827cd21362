import Engagements.Proofs.Store
import Engagements.Proofs.Version

/-!
One write at the version that was read: which document it changes, and what becomes of it.
-/
namespace Engagements.Revision

theorem segments_serverFields : ∀ field ∈ serverFields, segments field = [field] := by decide

theorem segments_uuidField : segments uuidField = [uuidField] := by decide

theorem segments_versionField : segments versionField = [versionField] := by decide

theorem condition_holds (uuid expected : String) (document : Document) :
    (condition uuid expected).holds (.object document) =
      ((Fields.get? document uuidField).any (·.offers uuid) &&
        (Fields.get? document versionField).any (·.offers expected)) := by
  rw [condition, Predicate.holds_and, Predicate.holds_equals_string document segments_uuidField,
    Predicate.holds_equals_string document segments_versionField]

theorem nodup_changes {candidate : Document} (distinct : (Fields.names candidate).Nodup)
    (launching : Bool) (version : String) :
    (Fields.names (changes candidate launching version)).Nodup :=
  Fields.nodup_insert (Fields.nodup_filter distinct _) _ _

theorem get?_changes (candidate : Document) (launching : Bool) (version name : String) :
    Fields.get? (changes candidate launching version) name =
      if name = versionField then some (.string version)
      else if isImmutable launching name then none
      else Fields.get? candidate name := by
  rw [changes, Fields.get?_insert, Fields.get?_filter candidate (!isImmutable launching ·)]
  cases isImmutable launching name <;> rfl

/-- The engagement that a candidate names. -/
def subject? (candidate : Document) : Option String :=
  (Fields.get? candidate uuidField).bind Value.asString?

/-- The place of the first engagement that a candidate names at the version that was read. -/
def target? (candidate : Document) (expected : String) (documents : List Document) : Option Nat :=
  (subject? candidate).bind fun uuid =>
    documents.findIdx? fun document => (condition uuid expected).holds (.object document)

theorem target?_eq_some {candidate : Document} {expected : String} {documents : List Document}
    {place : Nat} (found : target? candidate expected documents = some place) :
    ∃ uuid document, subject? candidate = some uuid ∧ documents[place]? = some document ∧
      (Fields.get? document uuidField).any (·.offers uuid) = true ∧
      (Fields.get? document versionField).any (·.offers expected) = true := by
  obtain ⟨uuid, named, found⟩ := Option.bind_eq_some_iff.mp found
  obtain ⟨bound, holds, _⟩ := List.findIdx?_eq_some_iff_getElem.mp found
  rw [condition_holds, Bool.and_eq_true] at holds
  exact ⟨uuid, documents[place], named, List.getElem?_eq_getElem bound, holds⟩

/-- What a write under a new version makes of a document. -/
def image (version : String) (candidate : Document) (launching : Bool) (document : Document) :
    Document :=
  Store.assign document (changes candidate launching version)

/-- The store after a write to a place. -/
def written (store : Store) (place : Nat) (document : Document) : Store :=
  { store with documents := store.documents.set place document, clock := store.clock.issue.2 }

theorem perform_write {store : Store} {candidate : Document} {expected : String} {place : Nat}
    {document : Document} (struck : store.outage = none)
    (target : target? candidate expected store.documents = some place)
    (stored : store.documents[place]? = some document) (launching : Bool) :
    store.perform (writeIfCurrent candidate expected launching) =
      (.ok (some (image store.clock.issue.1 candidate launching document)),
        written store place (image store.clock.issue.1 candidate launching document)) := by
  obtain ⟨uuid, named, found⟩ := Option.bind_eq_some_iff.mp target
  have named : (Fields.get? candidate uuidField).bind Value.asString? = some uuid := named
  simp only [writeIfCurrent, named, Store.perform_bind, Store.perform_issueVersion,
    Store.findOneAndUpdate, Store.perform_call, struck, Store.updateFirst_eq, found,
    Option.bind_some, stored, Option.map_some]
  simp [image, written, struck]

/-- A write that finds no document stamps a version all the same. -/
theorem perform_write_none {store : Store} {candidate : Document} {uuid expected : String}
    (struck : store.outage = none) (named : subject? candidate = some uuid)
    (missed : target? candidate expected store.documents = none) (launching : Bool) :
    store.perform (writeIfCurrent candidate expected launching) =
      (.ok none, { store with clock := store.clock.issue.2 }) := by
  have found : store.documents.findIdx? (fun document =>
      (condition uuid expected).holds (.object document)) = none := by
    simpa only [target?, named, Option.bind_some] using missed
  have named : (Fields.get? candidate uuidField).bind Value.asString? = some uuid := named
  simp only [writeIfCurrent, named, Store.perform_bind, Store.perform_issueVersion,
    Store.findOneAndUpdate, Store.perform_call, struck, Store.updateFirst_eq, found,
    Option.bind_none]

/-- A write changes the first document that answers to its condition, or none at all. -/
theorem write_cases (store : Store) (candidate : Document) (expected : String)
    (launching : Bool) :
    (∃ place document, store.outage = none ∧
      target? candidate expected store.documents = some place ∧
      store.documents[place]? = some document ∧
      store.perform (writeIfCurrent candidate expected launching) =
        (.ok (some (image store.clock.issue.1 candidate launching document)),
          written store place (image store.clock.issue.1 candidate launching document))) ∨
    (∀ updated,
        (store.perform (writeIfCurrent candidate expected launching)).1 ≠ .ok (some updated)) ∧
      ∃ outage clock, (clock = store.clock ∨ clock = store.clock.issue.2) ∧
        (store.perform (writeIfCurrent candidate expected launching)).2 =
          { store with clock := clock, outage := outage } := by
  cases named : (Fields.get? candidate uuidField).bind Value.asString? with
  | none =>
      rw [writeIfCurrent, named]
      refine Or.inr ⟨fun updated same => ?_, store.outage, store.clock, Or.inl rfl, rfl⟩
      cases same
  | some uuid =>
      cases struck : store.outage with
      | some outage =>
          simp only [writeIfCurrent, named, Store.perform_bind, Store.perform_issueVersion,
            Store.findOneAndUpdate, Store.perform_call, struck]
          refine Or.inr ⟨fun updated same => ?_, none, store.clock.issue.2, Or.inr rfl, rfl⟩
          cases same
      | none =>
          cases target : target? candidate expected store.documents with
          | none =>
              rw [perform_write_none struck named target]
              refine Or.inr ⟨fun updated same => ?_, none, store.clock.issue.2, Or.inr rfl, ?_⟩
              · cases same
              · rw [← struck]
          | some place =>
              obtain ⟨_, document, _, stored, _⟩ := target?_eq_some target
              exact Or.inl ⟨place, document, rfl, rfl, stored,
                perform_write struck target stored launching⟩

/-- The version field of a document holds a version, or an object, which is none. -/
def Carries (version : String) (document : Document) : Prop :=
  Fields.get? document versionField = some (.string version) ∨
    ∃ fields, Fields.get? document versionField = some (.object fields)

theorem Carries.offers {version expected : String} {document : Document}
    (carries : Carries version document)
    (current : (Fields.get? document versionField).any (·.offers expected) = true) :
    expected = version := by
  rcases carries with text | ⟨fields, object⟩
  · rw [text] at current
    have same : version = expected := by simpa [Value.offers] using current
    exact same.symm
  · rw [object] at current
    simp [Value.offers] at current

/-- After a write the version field holds the new version, unless a path below the field has put an
object in its place. -/
theorem carries_image (version : String) {candidate : Document}
    (distinct : (Fields.names candidate).Nodup) (launching : Bool) (document : Document) :
    Carries version (image version candidate launching document) := by
  apply Store.get?_assign_of_below (nodup_changes distinct launching version)
    segments_versionField fun value => value = some (.string version) ∨
      ∃ fields, value = some (.object fields)
  · intro path value member begins below old _
    obtain ⟨next, rest, split⟩ := List.exists_cons_of_ne_nil below
    rw [split]
    exact Or.inr ⟨_, rfl⟩
  · rw [get?_changes, if_pos rfl]
    exact Or.inl rfl

end Engagements.Revision
