import Engagements.Proofs.Engagement
import Engagements.Proofs.Revision

/-!
What a request does to a store: it looks engagements up, and then it writes one document at most.
The answer of a request that has written is the document that it has made, read as an engagement.
-/
namespace Engagements

open Store

/-- The checks of a request let it pass, and no outage is left to strike. -/
def Passes (store : Store) (checks : Action Unit) : Prop :=
  store.perform checks = (.ok (), { store with outage := none })

/-- What becomes of a store and of a request to write a candidate after some checks. -/
inductive Outcome (store : Store) (checks : Action Unit) (candidate : Document) (expected : String)
    (launching : Bool) (answer : Result (Option Engagement)) (after : Store) : Prop where
  | kept (documents : after.documents = store.documents)
      (failed : ∀ engagement, answer ≠ .ok (some engagement))
  | wrote (place : Nat) (document : Document) (passed : Passes store checks)
      (target : Revision.target? candidate expected store.documents = some place)
      (stored : store.documents[place]? = some document)
      (documents : after.documents = store.documents.set place
        (Revision.image store.clock.issue.1 candidate launching document))
      (answered : answer = (Engagement.ofDocument
        (Revision.image store.clock.issue.1 candidate launching document)).map some)

theorem passes_pure {store : Store} (struck : store.outage = none) : Passes store (pure ()) := by
  rw [Passes, perform_pure, ← struck]

theorem outage_of_passes {store : Store} (passed : Passes store (pure ())) :
    store.outage = none := by
  rw [Passes, perform_pure, Prod.mk.injEq] at passed
  rw [passed.2]

namespace Outcome

variable {store after : Store} {checks : Action Unit} {candidate : Document} {expected : String}
  {launching : Bool}

theorem documents_of_none {answer : Result (Option Engagement)}
    (outcome : Outcome store checks candidate expected launching answer after)
    (none : answer = .ok none) : after.documents = store.documents := by
  cases outcome with
  | kept documents failed => exact documents
  | wrote place document passed target stored documents answered =>
      rw [none] at answered
      cases read : Engagement.ofDocument
          (Revision.image store.clock.issue.1 candidate launching document) <;>
        rw [read] at answered <;> cases answered

/-- Checks that only read do not change what is written after them. -/
theorem after_checks {next : Action Engagement} (reads : OnlyReads checks)
    (rest : ∀ outage, Outcome { store with outage := outage } (pure ()) candidate expected launching
        (({ store with outage := outage }.perform next).1.map some)
        ({ store with outage := outage }.perform next).2) :
    Outcome store checks candidate expected launching
      ((store.perform (checks >>= fun _ => next)).1.map some)
      (store.perform (checks >>= fun _ => next)).2 := by
  obtain ⟨outage, left⟩ := reads store
  rw [perform_bind]
  rcases performed : store.perform checks with ⟨answer, after⟩
  rw [performed] at left
  change after = _ at left
  subst left
  cases answer with
  | error error => exact kept rfl fun _ same => by cases same
  | ok _ =>
      cases rest outage with
      | kept documents failed => exact kept documents failed
      | wrote place document passed target stored documents answered =>
          have struck : outage = none := outage_of_passes passed
          subst struck
          exact wrote place document performed target stored documents answered

end Outcome

namespace Catalog

theorem onlyReads_findFirst (filter : Predicate) (spec : Option FilterSpec) :
    OnlyReads (findFirst filter spec) := by
  refine onlyReads_bind (onlyReads_lift _) fun projection => ?_
  refine onlyReads_bind (onlyReads_findOne filter _) fun found => ?_
  cases found with
  | none => exact onlyReads_pure none
  | some document => exact onlyReads_bind (onlyReads_lift _) fun _ => onlyReads_pure _

theorem onlyReads_findByUuid (uuid : String) (spec : Option FilterSpec) :
    OnlyReads (findByUuid uuid spec) := onlyReads_findFirst _ spec

/-- What a lookup shows of a document. -/
def shown (document : Document) : Document := Fields.erase document idField

theorem nodup_shown {document : Document} (distinct : (Fields.names document).Nodup) :
    (Fields.names (shown document)).Nodup := Fields.nodup_erase distinct idField

theorem get?_shown {document : Document} (distinct : (Fields.names document).Nodup)
    (name : String) :
    Fields.get? (shown document) name =
      if name = idField then none else Fields.get? document name :=
  Fields.get?_erase distinct idField name

/-- A lookup reads the first document that satisfies its condition, unless an outage strikes. -/
theorem perform_findFirst (store : Store) (filter : Predicate) :
    store.perform (findFirst filter none) =
      match store.outage with
      | some outage =>
        (.error (outage.error "find_one" store.timeLimit), { store with outage := none })
      | none =>
        (match store.find? filter with
          | some document => (Engagement.ofDocument (shown document)).map some
          | none => .ok none, store) := by
  rw [findFirst, perform_bind, perform_lift]
  simp only [lookupProjection, perform_bind, findOne, perform_call]
  cases store.outage with
  | some outage => rfl
  | none =>
      cases store.find? filter with
      | none => rfl
      | some document =>
          have drops : Projection.apply (Projection.drop [] idField) document = shown document :=
            rfl
          simp only [Option.map_some, drops, perform_bind, perform_lift]
          cases Engagement.ofDocument (shown document) <;> rfl

/-- A lookup that succeeds has found nothing, or has read the first document that satisfies its
condition. -/
theorem findFirst_ok {store : Store} {filter : Predicate} {found : Option Engagement}
    (done : (store.perform (findFirst filter none)).1 = .ok found) :
    store.find? filter = none ∧ found = none ∨
      ∃ document engagement, store.find? filter = some document ∧
        Engagement.ofDocument (shown document) = .ok engagement ∧ found = some engagement := by
  rw [perform_findFirst] at done
  cases struck : store.outage with
  | some outage =>
      rw [struck] at done
      cases done
  | none =>
      simp only [struck] at done
      cases first : store.find? filter with
      | none =>
          rw [first] at done
          cases done
          exact Or.inl ⟨rfl, rfl⟩
      | some document =>
          simp only [first] at done
          cases read : Engagement.ofDocument (shown document) with
          | error error =>
              rw [read] at done
              cases done
          | ok engagement =>
              rw [read] at done
              cases done
              exact Or.inr ⟨document, engagement, rfl, read, rfl⟩

theorem write_outcome (store : Store) (candidate : Engagement) (expected : String)
    (launching : Bool) :
    Outcome store (pure ()) candidate.toDocument expected launching
      (store.perform (writeIfCurrent candidate expected launching)).1
      (store.perform (writeIfCurrent candidate expected launching)).2 := by
  rw [writeIfCurrent, perform_bind]
  rcases Revision.write_cases store candidate.toDocument expected launching with
    ⟨place, document, struck, target, stored, performed⟩ | ⟨failed, outage, clock, _, left⟩
  · rw [performed]
    refine Outcome.wrote place document (passes_pure struck) target stored ?_ ?_ <;>
      simp only [perform_bind, perform_lift] <;>
      cases Engagement.ofDocument
        (Revision.image store.clock.issue.1 candidate.toDocument launching document) <;> rfl
  · rcases performed :
      store.perform (Revision.writeIfCurrent candidate.toDocument expected launching) with
        ⟨answer, after⟩
    rw [performed] at failed left
    change after = _ at left
    subst left
    cases answer with
    | error error => exact Outcome.kept rfl fun _ same => by cases same
    | ok written =>
        cases written with
        | none => exact Outcome.kept rfl fun _ same => by cases same
        | some document => exact absurd rfl (failed document)

/-- A write that hits a document puts the new one in its place before it is read. -/
theorem perform_write (store : Store) {candidate : Engagement} {expected : String} {place : Nat}
    {document : Document} (struck : store.outage = none)
    (target : Revision.target? candidate.toDocument expected store.documents = some place)
    (stored : store.documents[place]? = some document) (launching : Bool) :
    store.perform (writeIfCurrent candidate expected launching) =
      ((Engagement.ofDocument
          (Revision.image store.clock.issue.1 candidate.toDocument launching document)).map some,
        Revision.written store place
          (Revision.image store.clock.issue.1 candidate.toDocument launching document)) := by
  rw [writeIfCurrent, perform_bind, Revision.perform_write struck target stored]
  simp only [perform_bind, perform_lift]
  cases Engagement.ofDocument
    (Revision.image store.clock.issue.1 candidate.toDocument launching document) <;> rfl

theorem perform_write_none (store : Store) {candidate : Engagement} {uuid expected : String}
    (struck : store.outage = none) (named : Revision.subject? candidate.toDocument = some uuid)
    (missed : Revision.target? candidate.toDocument expected store.documents = none)
    (launching : Bool) :
    store.perform (writeIfCurrent candidate expected launching) =
      (.ok none, { store with clock := store.clock.issue.2 }) := by
  rw [writeIfCurrent, perform_bind, Revision.perform_write_none struck named missed]
  rfl

end Catalog

namespace Registry

theorem onlyReads_get (uuid : String) (spec : Option FilterSpec) : OnlyReads (get uuid spec) := by
  refine onlyReads_bind (Catalog.onlyReads_findByUuid uuid spec) fun found => ?_
  cases found with
  | none => exact onlyReads_throw _
  | some engagement => exact onlyReads_pure _

theorem onlyReads_namesAfter (candidate : Engagement) (uuid : String) :
    OnlyReads (namesAfter candidate uuid) := by
  have looksUp : OnlyReads (do
      let stored ← Catalog.findByUuid uuid none
      return (candidate.customerName <|> stored.bind (·.customerName),
        candidate.projectName <|> stored.bind (·.projectName))) :=
    onlyReads_bind (Catalog.onlyReads_findByUuid uuid none) fun _ => onlyReads_pure _
  unfold namesAfter
  split
  · exact onlyReads_pure _
  · exact looksUp

theorem onlyReads_checkNames (candidate : Engagement) (uuid : String) :
    OnlyReads (checkNames candidate uuid) := by
  unfold checkNames
  split
  · exact onlyReads_pure _
  · refine onlyReads_bind (onlyReads_namesAfter candidate uuid) fun names => ?_
    split
    · refine onlyReads_bind (Catalog.onlyReads_findFirst _ none) fun found => ?_
      split
      · split
        · exact onlyReads_throw _
        · exact onlyReads_pure _
      · exact onlyReads_pure _
    · exact onlyReads_pure _

theorem onlyReads_isSubDomainAvailable (subDomain : String) (owner : Option String) :
    OnlyReads (isSubDomainAvailable subDomain owner) :=
  onlyReads_bind (Catalog.onlyReads_findFirst _ none) fun _ => onlyReads_pure _

theorem onlyReads_checkSubDomains (uuid : String) (subDomains : List String) :
    OnlyReads (checkSubDomains uuid subDomains) := by
  induction subDomains with
  | nil => exact onlyReads_pure _
  | cons subDomain subDomains ih =>
      refine onlyReads_bind (onlyReads_isSubDomainAvailable subDomain (some uuid)) fun isFree => ?_
      cases isFree with
      | true => exact ih
      | false => exact onlyReads_throw _

/-- What becomes of a write that has found no engagement at its version. -/
def unmatched (uuid expected : String) : Action Engagement := do
  match ← Catalog.findByUuid uuid none with
  | none => throw (.engagementNotFound uuid)
  | some _ => throw (.versionConflict uuid expected)

theorem onlyReads_unmatched (uuid expected : String) : OnlyReads (unmatched uuid expected) := by
  refine onlyReads_bind (Catalog.onlyReads_findByUuid uuid none) fun found => ?_
  cases found <;> exact onlyReads_throw _

theorem unmatched_fails (store : Store) (uuid expected : String) (engagement : Engagement) :
    (store.perform (unmatched uuid expected)).1 ≠ .ok engagement := by
  rw [unmatched, perform_bind]
  rcases store.perform (Catalog.findByUuid uuid none) with ⟨answer, after⟩
  intro same
  cases answer with
  | error error => cases same
  | ok found => cases found <;> cases same

theorem write_outcome (store : Store) (candidate : Engagement) (uuid expected : String)
    (launching : Bool) :
    Outcome store (pure ()) candidate.toDocument expected launching
      ((store.perform (write candidate uuid expected launching)).1.map some)
      (store.perform (write candidate uuid expected launching)).2 := by
  have outcome := Catalog.write_outcome store candidate expected launching
  rw [write, perform_bind]
  rcases performed : store.perform (Catalog.writeIfCurrent candidate expected launching) with
    ⟨answer, after⟩
  rw [performed] at outcome
  cases answer with
  | error error => exact outcome
  | ok written =>
      cases written with
      | some updated => exact outcome
      | none =>
          have kept : after.documents = store.documents := outcome.documents_of_none rfl
          change Outcome store (pure ()) candidate.toDocument expected launching
            ((after.perform (unmatched uuid expected)).1.map some)
            (after.perform (unmatched uuid expected)).2
          obtain ⟨outage, left⟩ := onlyReads_unmatched uuid expected after
          refine Outcome.kept (by rw [left]; exact kept) fun engagement same => ?_
          have fails := unmatched_fails after uuid expected engagement
          cases answer : (after.perform (unmatched uuid expected)).1 with
          | error error =>
              rw [answer] at same
              cases same
          | ok other =>
              rw [answer] at same fails
              cases same
              exact fails rfl

theorem perform_write (store : Store) {candidate : Engagement} {expected : String} {place : Nat}
    {document : Document} (struck : store.outage = none)
    (target : Revision.target? candidate.toDocument expected store.documents = some place)
    (stored : store.documents[place]? = some document) (uuid : String) (launching : Bool) :
    store.perform (write candidate uuid expected launching) =
      (Engagement.ofDocument
          (Revision.image store.clock.issue.1 candidate.toDocument launching document),
        Revision.written store place
          (Revision.image store.clock.issue.1 candidate.toDocument launching document)) := by
  rw [write, perform_bind, Catalog.perform_write store struck target stored]
  cases Engagement.ofDocument
    (Revision.image store.clock.issue.1 candidate.toDocument launching document) <;> rfl

theorem perform_write_none (store : Store) {candidate : Engagement} {uuid expected : String}
    (struck : store.outage = none) (named : Revision.subject? candidate.toDocument = some uuid)
    (missed : Revision.target? candidate.toDocument expected store.documents = none)
    (launching : Bool) :
    store.perform (write candidate uuid expected launching) =
      { store with clock := store.clock.issue.2 }.perform (unmatched uuid expected) := by
  rw [write, perform_bind, Catalog.perform_write_none store struck named missed]
  rfl

/-- A lookup that succeeds has read the first document with the identifier. -/
theorem get_ok {store : Store} {uuid : String} {engagement : Engagement}
    (found : (store.perform (get uuid none)).1 = .ok engagement) :
    ∃ document, store.find? (.equals Revision.uuidField (.string uuid)) = some document ∧
      Engagement.ofDocument (Catalog.shown document) = .ok engagement := by
  obtain ⟨looked, outage, done, found⟩ :=
    perform_bind_ok (Catalog.onlyReads_findByUuid uuid none) found
  rcases Catalog.findFirst_ok done with ⟨_, none⟩ | ⟨document, other, first, read, same⟩
  · subst none
    cases found
  · subst same
    cases found
    exact ⟨document, first, read⟩

/-- What is written of a candidate: the new version, and what it carries itself apart from the
fields that are immutable. -/
theorem mem_changes {candidate : Engagement} {launching : Bool} {version : String}
    {entry : String × Value}
    (member : entry ∈ Revision.changes candidate.toDocument launching version) :
    entry = (Revision.versionField, .string version) ∨
      Revision.isImmutable launching entry.1 = false ∧
        (entry ∈ Record.writeMembers Engagement.members candidate ∨ entry ∈ candidate.extra) := by
  rcases Fields.mem_of_mem_insert member with stamped | carried
  · exact Or.inl stamped
  · obtain ⟨inside, mutable⟩ := List.mem_filter.mp carried
    exact Or.inr ⟨by simpa using mutable, Fields.mem_of_mem_insertAll inside⟩

theorem subject?_toDocument {candidate : Engagement} (proper : candidate.Proper) :
    Revision.subject? candidate.toDocument = candidate.uuid := by
  have inside : Member.optional "uuid" .text Engagement.uuid (fun r v => { r with uuid := v }) ∈
      Engagement.members := by simp [Engagement.members]
  have written : Fields.get? candidate.toDocument Revision.uuidField = candidate.uuid.map .string :=
    Engagement.get?_toDocument proper inside
  rw [Revision.subject?, written]
  cases candidate.uuid <;> rfl

/-- A request to write. -/
inductive Request where
  | update (candidate : Engagement) (expected : String)
  | launch (uuid expected launchedBy email : String)

namespace Request

def action : Request → Action Engagement
  | update candidate expected => Registry.update candidate expected
  | launch uuid expected launchedBy email => Registry.launch uuid expected launchedBy email

/-- What a request looks up before it writes. -/
def checks : Request → Action Unit
  | update candidate _ =>
    match candidate.uuid with
    | none => throw (.invalidEngagement "engagement uuid is required")
    | some uuid => do
      checkNames candidate uuid
      checkSubDomains uuid candidate.subDomains
  | launch uuid _ _ _ => do
    let current ← get uuid none
    if current.isLaunched then
      throw (.businessRule s!"engagement {uuid} is already launched")

/-- What a request writes at a time. -/
def candidate (time : String) : Request → Engagement
  | update candidate _ => candidate
  | launch uuid _ launchedBy email => launchCandidate uuid time launchedBy email

def expected : Request → String
  | update _ expected => expected
  | launch _ expected _ _ => expected

def isLaunch : Request → Bool
  | update _ _ => false
  | launch _ _ _ _ => true

/-- What a request does once its checks have let it pass. -/
def write (request : Request) : Action Engagement := do
  let time ← presentSecond
  let candidate := request.candidate time
  Registry.write candidate (candidate.uuid.getD "") request.expected request.isLaunch

theorem onlyReads_checks (request : Request) : OnlyReads request.checks := by
  cases request with
  | update candidate expected =>
      simp only [checks]
      cases candidate.uuid with
      | none => exact onlyReads_throw _
      | some uuid =>
          exact onlyReads_bind (onlyReads_checkNames candidate uuid) fun _ =>
            onlyReads_checkSubDomains uuid candidate.subDomains
  | launch uuid expected launchedBy email =>
      refine onlyReads_bind (onlyReads_get uuid none) fun current => ?_
      split
      · exact onlyReads_throw _
      · exact onlyReads_pure _

theorem perform_action (store : Store) (request : Request) :
    store.perform request.action = store.perform (request.checks >>= fun _ => request.write) := by
  cases request with
  | update candidate expected =>
      cases named : candidate.uuid with
      | none =>
          simp only [action, Registry.update, checks, named]
          rfl
      | some uuid =>
          simp only [action, Registry.update, checks, named, bind_assoc, perform_bind, write,
            perform_presentSecond, Request.candidate, Request.expected, isLaunch, Option.getD_some]
  | launch uuid expected launchedBy email =>
      simp only [action, Registry.launch, checks, perform_bind]
      rcases store.perform (get uuid none) with ⟨answer, after⟩
      cases answer with
      | error error => rfl
      | ok current =>
          dsimp only
          cases current.isLaunched <;>
            simp only [Bool.false_eq_true, if_false, if_true, perform_bind, perform_pure,
              perform_throw, perform_presentSecond, write, Request.candidate, launchCandidate,
              Request.expected, isLaunch, Option.getD_some]

theorem outcome (store : Store) (request : Request) :
    Outcome store request.checks (request.candidate store.clock.secondText).toDocument
      request.expected request.isLaunch ((store.perform request.action).1.map some)
      (store.perform request.action).2 := by
  rw [perform_action]
  apply Outcome.after_checks request.onlyReads_checks
  intro outage
  rw [write, perform_bind, perform_presentSecond]
  exact write_outcome { store with outage := outage } (request.candidate store.clock.secondText) _
    request.expected request.isLaunch

/-- A request whose checks let it pass writes the document at which it aims. -/
theorem perform_passed {store : Store} {request : Request} {place : Nat} {document : Document}
    (passed : Passes store request.checks)
    (target : Revision.target? (request.candidate store.clock.secondText).toDocument
      request.expected store.documents = some place)
    (stored : store.documents[place]? = some document) :
    (store.perform request.action).1 = Engagement.ofDocument
        (Revision.image store.clock.issue.1 (request.candidate store.clock.secondText).toDocument
          request.isLaunch document) ∧
      (store.perform request.action).2.documents = store.documents.set place
        (Revision.image store.clock.issue.1 (request.candidate store.clock.secondText).toDocument
          request.isLaunch document) := by
  rw [perform_action, perform_bind, passed]
  simp only [write, perform_bind, perform_presentSecond]
  rw [perform_write { store with outage := none } rfl target stored]
  exact ⟨rfl, rfl⟩

/-- A request whose checks let it pass without a document to write fails. -/
theorem perform_missed {store : Store} {request : Request} {uuid : String}
    (passed : Passes store request.checks)
    (known : (request.candidate store.clock.secondText).uuid = some uuid)
    (named : Revision.subject? (request.candidate store.clock.secondText).toDocument = some uuid)
    (missed : Revision.target? (request.candidate store.clock.secondText).toDocument
      request.expected store.documents = none) :
    store.perform request.action =
      { store with clock := store.clock.issue.2, outage := none }.perform
        (unmatched uuid request.expected) := by
  rw [perform_action, perform_bind, passed]
  simp only [write, perform_bind, perform_presentSecond, known, Option.getD_some]
  exact perform_write_none { store with outage := none } rfl named missed request.isLaunch

/-- A launch passes only where the engagement was found not to be launched. -/
theorem unlaunched_of_passes {store : Store} {uuid expected launchedBy email : String}
    (passed : Passes store (launch uuid expected launchedBy email).checks) :
    ∃ current, (store.perform (get uuid none)).1 = .ok current ∧ current.isLaunched = false := by
  obtain ⟨current, outage, read, rest⟩ :=
    perform_bind_ok (onlyReads_get uuid none) (congrArg Prod.fst passed)
  refine ⟨current, read, ?_⟩
  cases launched : current.isLaunched with
  | false => rfl
  | true =>
      simp only [launched, if_true] at rest
      cases rest

end Request

end Registry

end Engagements
