import Engagements.Proofs.Registry

/-!
The fields that belong to the server, over any sequence of requests. They stay as they are as long
as no candidate carries a path that leads below one of them; a launch is entered once.
-/
namespace Engagements.Registry

open Revision

/-- A request with the time and the state of the store when it is made. -/
structure Call where
  request : Request
  now : Int
  outage : Option Outage

namespace Request

def ReachesBelow (field : String) : Request → Prop
  | update candidate _ => candidate.ReachesBelow field
  | launch _ _ _ _ => False

theorem reachesBelow_candidate {field time : String} {request : Request}
    (reaches : (request.candidate time).ReachesBelow field) : request.ReachesBelow field := by
  cases request with
  | update candidate expected => exact reaches
  | launch uuid expected launchedBy email =>
      obtain ⟨path, member, _⟩ := reaches
      cases member

end Request

namespace Call

/-- The store as a call finds it. -/
def met (call : Call) (store : Store) : Store :=
  { store with clock := { store.clock with now := call.now }, outage := call.outage }

/-- The store after a call. -/
def serve (call : Call) (store : Store) : Store :=
  ((call.met store).perform call.request.action).2

/-- What a call is to write. -/
def candidate (call : Call) : Engagement :=
  call.request.candidate (Clock.secondText ⟨call.now, 0⟩)

/-- A call leaves the documents as they are, or it writes its candidate into one of them. -/
theorem serve_cases (call : Call) (store : Store) :
    (call.serve store).documents = store.documents ∨
      ∃ place document version, Passes (call.met store) call.request.checks ∧
        target? call.candidate.toDocument call.request.expected store.documents = some place ∧
        store.documents[place]? = some document ∧
        (call.serve store).documents = store.documents.set place
          (image version call.candidate.toDocument call.request.isLaunch document) := by
  cases call.request.outcome (call.met store) with
  | kept documents failed => exact Or.inl documents
  | wrote place document passed target stored documents answered =>
      exact Or.inr ⟨place, document, _, passed, target, stored, documents⟩

end Call

/-- What stands in a field of the document at a place. -/
def valueAt (field : String) (place : Nat) (store : Store) : Option Value :=
  (store.documents[place]?).bind (Fields.get? · field)

/-- The calls that change a field of the document at a place. -/
def changers (field : String) (place : Nat) (store : Store) : List Call → List Call
  | [] => []
  | call :: calls =>
    if valueAt field place (call.serve store) = valueAt field place store then
      changers field place (call.serve store) calls
    else call :: changers field place (call.serve store) calls

/-! What one write does to a field of the server. -/

/-- A path that begins with a field of the server, and is written all the same, goes on below it. -/
theorem below_of_change {candidate : Engagement} {launching : Bool} {version field : String}
    (server : field ∈ serverFields) (immutable : isImmutable launching field = true)
    {entry : String × Value}
    (member : entry ∈ changes candidate.toDocument launching version)
    (begins : (segments entry.1).head? = some field) :
    entry.1 ∈ Fields.names candidate.extra ∧ (segments entry.1).tail ≠ [] := by
  rcases mem_changes member with stamped | ⟨mutable, modelled | extra⟩
  · rw [stamped, segments_versionField, List.head?_cons, Option.some.injEq] at begins
    subst begins
    exact absurd server (by decide)
  · have named : entry.1 ∈ Engagement.memberNames :=
      Record.names_writeMembers (List.mem_map.mpr ⟨entry, modelled, rfl⟩)
    rw [Engagement.segments_memberNames entry.1 named, List.head?_cons, Option.some.injEq] at begins
    rw [begins, immutable] at mutable
    cases mutable
  · refine ⟨List.mem_map.mpr ⟨entry, extra, rfl⟩, fun ended => ?_⟩
    have same : entry.1 = field := by
      apply segments_injective
      rw [segments_serverFields field server, segments_eq_cons begins, ended]
    rw [same, immutable] at mutable
    cases mutable

theorem get?_image_of_server {candidate : Engagement} {launching : Bool} {field : String}
    (server : field ∈ serverFields) (immutable : isImmutable launching field = true)
    (apart : ¬candidate.ReachesBelow field) (version : String) (document : Document) :
    Fields.get? (image version candidate.toDocument launching document) field =
      Fields.get? document field := by
  refine Store.get?_assign_of_apart (fun entry member begins => ?_) document
  obtain ⟨extra, below⟩ := below_of_change server immutable member begins
  exact apart ⟨entry.1, extra, begins, below⟩

/-- Where a path leads below a field of the server, a write puts an object there. -/
theorem get?_image_of_reached {candidate : Engagement} {launching : Bool} {field : String}
    (server : field ∈ serverFields) (immutable : isImmutable launching field = true)
    (reached : candidate.ReachesBelow field) (version : String) (document : Document) :
    ∃ fields, Fields.get? (image version candidate.toDocument launching document) field =
      some (.object fields) := by
  obtain ⟨path, extra, begins, below⟩ := reached
  refine Store.get?_assign_below ?_ (fun entry member begins =>
    (below_of_change server immutable member begins).2) document
  have mutable : path ∉ serverFields := by
    intro immutable
    rw [segments_serverFields path immutable] at below
    exact below rfl
  have carried : path ∈ Fields.names (candidate.toDocument.filter fun entry =>
      !isImmutable launching entry.1) := by
    obtain ⟨entry, inside, same⟩ :=
      List.mem_map.mp (Engagement.mem_names_toDocument.mpr (Or.inr extra))
    refine List.mem_map.mpr ⟨entry, List.mem_filter.mpr ⟨inside, ?_⟩, same⟩
    simp [isImmutable, same, mutable]
  have named : path ∈ Fields.names (changes candidate.toDocument launching version) :=
    (Fields.mem_names_insert _ _ path _).mpr (Or.inr carried)
  obtain ⟨entry, inside, same⟩ := List.mem_map.mp named
  exact ⟨entry, inside, by rw [same]; exact begins⟩

/-! What one call does to the fields of the server. -/

theorem valueAt_set {store after : Store} {here : Nat} {document : Document}
    (documents : after.documents = store.documents.set here document) (field : String)
    (place : Nat) (bound : here < store.documents.length) :
    valueAt field place after =
      if here = place then Fields.get? document field else valueAt field place store := by
  unfold valueAt
  rw [documents]
  by_cases same : here = place
  · subst same
    simp [bound]
  · rw [List.getElem?_set_ne same, if_neg same]

theorem valueAt_serve_of_apart (call : Call) {field : String} (server : field ∈ serverFields)
    (immutable : isImmutable call.request.isLaunch field = true)
    (apart : ¬call.request.ReachesBelow field) (place : Nat) (store : Store) :
    valueAt field place (call.serve store) = valueAt field place store := by
  rcases call.serve_cases store with same | ⟨here, document, version, _, _, stored, written⟩
  · rw [valueAt, same, valueAt]
  · rw [valueAt_set written field place (List.getElem?_eq_some_iff.mp stored).1]
    split
    · rename_i same
      have unreached : ¬call.candidate.ReachesBelow field :=
        fun reached => apart (Request.reachesBelow_candidate reached)
      rw [get?_image_of_server server immutable unreached, ← same, valueAt, stored]
      rfl
    · rfl

theorem isImmutable_of_update {field : String} (server : field ∈ serverFields) :
    isImmutable false field = true := by
  simp [isImmutable, server]

theorem isImmutable_of_ne {field : String} (server : field ∈ serverFields)
    (different : field ≠ launchField) (launching : Bool) : isImmutable launching field = true := by
  simp [isImmutable, server, different]

/-- The fields of the document at a place have names of their own. -/
def WellNamed (place : Nat) (store : Store) : Prop :=
  ∀ document, store.documents[place]? = some document → (Fields.names document).Nodup

/-- No document before a place has an identifier in common with the one there. -/
def Sole (place : Nat) (store : Store) : Prop :=
  ∀ earlier < place, ∀ uuid, (valueAt uuidField place store).any (·.offers uuid) = true →
    (valueAt uuidField earlier store).any (·.offers uuid) = false

/-- The document at a place has a launch. -/
def Entered (place : Nat) (store : Store) : Prop :=
  (valueAt launchField place store).any (!·.isNull) = true

theorem wellNamed_serve {place : Nat} {store : Store} (named : WellNamed place store)
    (call : Call) : WellNamed place (call.serve store) := by
  intro updated found
  rcases call.serve_cases store with same | ⟨here, document, version, _, _, stored, written⟩
  · rw [same] at found
    exact named updated found
  · rw [written] at found
    by_cases same : here = place
    · subst same
      rw [List.getElem?_set_self (List.getElem?_eq_some_iff.mp stored).1] at found
      cases found
      exact Store.nodup_assign (named document stored) _
    · rw [List.getElem?_set_ne same] at found
      exact named updated found

theorem sole_serve {place : Nat} {store : Store} (sole : Sole place store) {call : Call}
    (apart : ¬call.request.ReachesBelow uuidField) : Sole place (call.serve store) := by
  have kept : ∀ other, valueAt uuidField other (call.serve store) = valueAt uuidField other store :=
    fun other => valueAt_serve_of_apart call (by decide)
      (isImmutable_of_ne (by decide) (by decide) _) apart other store
  intro earlier before uuid offered
  rw [kept] at offered ⊢
  exact sole earlier before uuid offered

/-- The first document with an identifier is the one at a place that shares none. -/
theorem find?_of_sole {place : Nat} {store : Store} (sole : Sole place store) {uuid : String}
    {document first : Document} (stored : store.documents[place]? = some document)
    (offers : (Fields.get? document uuidField).any (·.offers uuid) = true)
    (found : store.find? (.equals uuidField (.string uuid)) = some first) : first = document := by
  obtain ⟨holds, index, bound, here, before⟩ := List.find?_eq_some_iff_getElem.mp found
  have at? : ∀ other (inside : other < store.documents.length),
      valueAt uuidField other store = Fields.get? store.documents[other] uuidField := by
    intro other inside
    rw [valueAt, List.getElem?_eq_getElem inside]
    rfl
  obtain ⟨inside, same⟩ := List.getElem?_eq_some_iff.mp stored
  rcases Nat.lt_trichotomy index place with early | equal | late
  · have none := sole index early uuid (by rw [at? place inside, same]; exact offers)
    rw [at? index bound, here, ← Predicate.holds_equals_string first segments_uuidField, holds]
      at none
    cases none
  · subst equal
    rw [← here, same]
  · have none := before place late
    rw [same, Predicate.holds_equals_string document segments_uuidField, offers] at none
    cases none

theorem toDocument_launchCandidate (uuid launchedAt launchedBy email : String) :
    (launchCandidate uuid launchedAt launchedBy email).toDocument =
      [(uuidField, .string uuid), (launchField, .object [("launchedDateTime", .string launchedAt),
        ("launchedBy", .string launchedBy), ("launchedByEmail", .string email)])] := rfl

theorem get?_image_of_launch (version uuid launchedAt launchedBy email : String)
    (document : Document) :
    Fields.get? (image version (launchCandidate uuid launchedAt launchedBy email).toDocument true
      document) launchField = some (.object [("launchedDateTime", .string launchedAt),
        ("launchedBy", .string launchedBy), ("launchedByEmail", .string email)]) := by
  have written :
      changes (launchCandidate uuid launchedAt launchedBy email).toDocument true version =
      [(launchField, .object [("launchedDateTime", .string launchedAt),
        ("launchedBy", .string launchedBy), ("launchedByEmail", .string email)]),
        (versionField, .string version)] := by
    rw [toDocument_launchCandidate]
    rfl
  have apart : versionField ≠ launchField := by decide
  have single : segments launchField = [launchField] := by decide
  rw [image, written, Store.assign_cons, Store.assign_cons, Store.assign_nil, Document.get?_set,
    Document.get?_set, segments_versionField, single]
  simp [apart, Document.placed]

/-- A launch changes the launch of a document only where there was none. -/
theorem entered_of_change {call : Call} {place : Nat} {store : Store}
    (apart : ¬call.request.ReachesBelow launchField) (sole : Sole place store)
    (named : WellNamed place store)
    (changed : valueAt launchField place (call.serve store) ≠ valueAt launchField place store) :
    ¬Entered place store ∧ Entered place (call.serve store) := by
  rcases call.serve_cases store with
    same | ⟨here, document, version, passed, target, stored, written⟩
  · rw [valueAt, same] at changed
    exact absurd rfl changed
  have bound := (List.getElem?_eq_some_iff.mp stored).1
  obtain ⟨request, now, outage⟩ := call
  cases request with
  | update candidate expected =>
      have server : launchField ∈ serverFields := by decide
      have kept := valueAt_serve_of_apart ⟨.update candidate expected, now, outage⟩ server
        (isImmutable_of_update server) apart place store
      exact absurd kept changed
  | launch uuid expected launchedBy email =>
      have here : here = place := by
        by_contra elsewhere
        rw [valueAt_set written launchField place bound, if_neg elsewhere] at changed
        exact changed rfl
      subst here
      obtain ⟨current, found, unlaunched⟩ := Request.unlaunched_of_passes passed
      obtain ⟨first, looked, read⟩ := get_ok found
      obtain ⟨subject, document', subject', stored', offers, _⟩ := target?_eq_some target
      rw [stored] at stored'
      cases stored'
      have same : subject = uuid := by
        change subject? (launchCandidate uuid _ launchedBy email).toDocument = some subject
          at subject'
        rw [toDocument_launchCandidate] at subject'
        exact (Option.some.inj subject').symm
      subst same
      have first : first = document := find?_of_sole sole stored offers looked
      subst first
      have distinct := named first stored
      have launch : (Fields.get? first launchField).any (!·.isNull) = false := by
        rw [Engagement.isLaunched_ofDocument (Catalog.nodup_shown distinct) read,
          Catalog.get?_shown distinct] at unlaunched
        exact unlaunched
      constructor
      · rw [Entered, valueAt, stored, Option.bind_some, launch]
        exact Bool.false_ne_true
      · rw [Entered, valueAt_set written launchField here bound, if_pos rfl]
        change (Fields.get? (image version
          (launchCandidate subject _ launchedBy email).toDocument true first) launchField).any _ =
            true
        rw [get?_image_of_launch]
        rfl

/-! Sequences of calls. -/

theorem changers_eq_nil {field : String} (server : field ∈ serverFields) {calls : List Call}
    (immutable : ∀ call ∈ calls, isImmutable call.request.isLaunch field = true)
    (apart : ∀ call ∈ calls, ¬call.request.ReachesBelow field) (place : Nat) (store : Store) :
    changers field place store calls = [] := by
  induction calls generalizing store with
  | nil => rfl
  | cons call calls ih =>
      obtain ⟨here, immutable⟩ := List.forall_mem_cons.mp immutable
      obtain ⟨unreached, apart⟩ := List.forall_mem_cons.mp apart
      have kept := valueAt_serve_of_apart call server here unreached place store
      rw [changers, if_pos kept]
      exact ih immutable apart (call.serve store)

theorem isLaunch_of_changer {calls : List Call}
    (apart : ∀ call ∈ calls, ¬call.request.ReachesBelow launchField) (place : Nat) (store : Store) :
    ∀ call ∈ changers launchField place store calls, call.request.isLaunch = true := by
  induction calls generalizing store with
  | nil =>
      intro call member
      cases member
  | cons first calls ih =>
      obtain ⟨unreached, apart⟩ := List.forall_mem_cons.mp apart
      have rest := ih apart (first.serve store)
      rw [changers]
      split
      · exact rest
      · rename_i changed
        intro call member
        rcases List.mem_cons.mp member with here | later
        · subst here
          by_contra update
          have server : launchField ∈ serverFields := by decide
          have immutable : isImmutable call.request.isLaunch launchField = true := by
            rw [Bool.not_eq_true] at update
            rw [update]
            exact isImmutable_of_update server
          exact changed (valueAt_serve_of_apart call server immutable unreached place store)
        · exact rest call later

/-- A launch that stands is not changed again. -/
theorem changers_of_entered {calls : List Call}
    (launchApart : ∀ call ∈ calls, ¬call.request.ReachesBelow launchField)
    (uuidApart : ∀ call ∈ calls, ¬call.request.ReachesBelow uuidField)
    {place : Nat} {store : Store} (sole : Sole place store) (named : WellNamed place store)
    (entered : Entered place store) : changers launchField place store calls = [] := by
  induction calls generalizing store with
  | nil => rfl
  | cons call calls ih =>
      obtain ⟨launchUnreached, launchApart⟩ := List.forall_mem_cons.mp launchApart
      obtain ⟨uuidUnreached, uuidApart⟩ := List.forall_mem_cons.mp uuidApart
      have kept :
          valueAt launchField place (call.serve store) = valueAt launchField place store := by
        by_contra changed
        exact (entered_of_change launchUnreached sole named changed).1 entered
      rw [changers, if_pos kept]
      apply ih launchApart uuidApart
      · exact sole_serve sole uuidUnreached
      · exact wellNamed_serve named call
      · rw [Entered, kept]
        exact entered

theorem length_changers_launch {calls : List Call}
    (launchApart : ∀ call ∈ calls, ¬call.request.ReachesBelow launchField)
    (uuidApart : ∀ call ∈ calls, ¬call.request.ReachesBelow uuidField)
    {place : Nat} {store : Store} (sole : Sole place store) (named : WellNamed place store) :
    (changers launchField place store calls).length ≤ 1 := by
  induction calls generalizing store with
  | nil => exact Nat.zero_le 1
  | cons call calls ih =>
      obtain ⟨launchUnreached, launchApart⟩ := List.forall_mem_cons.mp launchApart
      obtain ⟨uuidUnreached, uuidApart⟩ := List.forall_mem_cons.mp uuidApart
      have sole' := sole_serve sole uuidUnreached
      have named' := wellNamed_serve named call
      rw [changers]
      split
      · exact ih launchApart uuidApart sole' named'
      · rename_i changed
        have entered := (entered_of_change launchUnreached sole named changed).2
        rw [changers_of_entered launchApart uuidApart sole' named' entered]
        exact Nat.le_refl 1

/-! A store in which no lookup stands in the way of an update. -/

def bare (uuid version : String) : Store :=
  ⟨[[(uuidField, .string uuid), (versionField, .string version)]], 0, ⟨0, 0⟩, 0, none⟩

theorem find?_names_bare (uuid version customer project : String) :
    (bare uuid version).find? ((Predicate.equals "customerName" (.string customer)).and
      (.equals "projectName" (.string project))) = none := by
  have unnamed := Predicate.holds_equals_string
    [(uuidField, .string uuid), (versionField, .string version)]
    (Engagement.segments_memberNames "customerName" (by decide)) customer
  simp only [Predicate.holds] at unnamed
  simp only [Store.find?, bare, List.find?_cons, Predicate.and, Predicate.conjuncts,
    List.cons_append, List.nil_append, Predicate.holds, Predicate.holdsAll, unnamed]
  rfl

theorem find?_subDomain_bare (uuid version subDomain owner : String) :
    (bare uuid version).find?
      ((Predicate.like Catalog.subDomainField (Pattern.exactly subDomain)).and
        (Predicate.equals uuidField (.string owner)).negate) = none := by
  have path : segments Catalog.subDomainField = ["hostingEnvironments", "ocpSubDomain"] := by
    decide
  have absent : Fields.get? [(uuidField, .string uuid), (versionField, .string version)]
      "hostingEnvironments" = none := rfl
  simp [Store.find?, bare, Predicate.and, Predicate.conjuncts, Predicate.holds,
    Predicate.holdsAll, Predicate.negate, Value.candidates, Value.resolve, path,
    Value.resolveSegments, Value.step, Value.field?, absent]

theorem perform_findByUuid_bare (held version uuid : String) :
    ∃ stored : Option Engagement,
      (bare held version).perform (Catalog.findByUuid uuid none) =
        (.ok stored, bare held version) ∧
      stored.bind (·.customerName) = none ∧ stored.bind (·.projectName) = none := by
  rw [Catalog.findByUuid, Catalog.perform_findFirst]
  cases found : (bare held version).find? (.equals uuidField (.string uuid)) with
  | none => exact ⟨none, rfl, rfl, rfl⟩
  | some document =>
      have only : document = [(uuidField, .string held), (versionField, .string version)] :=
        List.mem_singleton.mp (List.mem_of_find?_eq_some found)
      subst only
      exact ⟨some { Engagement.empty with uuid := some held, lastUpdate := some version }, rfl,
        rfl, rfl⟩

theorem perform_namesAfter_bare (held version : String) (candidate : Engagement) (uuid : String) :
    (bare held version).perform (namesAfter candidate uuid) =
      (.ok (candidate.customerName, candidate.projectName), bare held version) := by
  obtain ⟨stored, looked, noCustomer, noProject⟩ := perform_findByUuid_bare held version uuid
  unfold namesAfter
  split
  · rename_i customer project
    rw [customer, project]
    rfl
  · rw [Store.perform_bind, looked]
    dsimp only
    rw [noCustomer, noProject]
    cases candidate.customerName <;> cases candidate.projectName <;> rfl

theorem perform_checkNames_bare (held version : String) (candidate : Engagement) (uuid : String) :
    (bare held version).perform (checkNames candidate uuid) = (.ok (), bare held version) := by
  unfold checkNames
  split
  · rfl
  · rw [Store.perform_bind, perform_namesAfter_bare]
    dsimp only
    split
    · rw [Store.perform_bind, Catalog.findByNames, Catalog.perform_findFirst, find?_names_bare]
      rfl
    · rfl

theorem perform_checkSubDomains_bare (held version uuid : String) (subDomains : List String) :
    (bare held version).perform (checkSubDomains uuid subDomains) =
      (.ok (), bare held version) := by
  induction subDomains with
  | nil => rfl
  | cons subDomain subDomains ih =>
      have isFree : (bare held version).perform (isSubDomainAvailable subDomain (some uuid)) =
          (.ok true, bare held version) := by
        rw [isSubDomainAvailable, Store.perform_bind, Catalog.findBySubDomain,
          Catalog.perform_findFirst, find?_subDomain_bare]
        rfl
      rw [checkSubDomains, Store.perform_bind, isFree]
      exact ih

theorem passes_bare (held version expected : String) {candidate : Engagement}
    (named : candidate.uuid.isSome = true) :
    Passes (bare held version) (Request.update candidate expected).checks := by
  obtain ⟨uuid, named⟩ := Option.isSome_iff_exists.mp named
  simp only [Passes, Request.checks, named, Store.perform_bind, perform_checkNames_bare]
  exact perform_checkSubDomains_bare held version uuid candidate.subDomains

/-- An update can change a field of the server just when its candidate names an engagement and
carries a path that leads below the field. -/
theorem update_changes_iff {candidate : Engagement} {field : String}
    (server : field ∈ serverFields) :
    (∃ (store : Store) (expected : String) (place : Nat),
        valueAt field place (store.perform (update candidate expected)).2 ≠
          valueAt field place store) ↔
      candidate.uuid.isSome = true ∧ (subject? candidate.toDocument).isSome = true ∧
        candidate.ReachesBelow field := by
  constructor
  · rintro ⟨store, expected, place, changed⟩
    let call : Call := ⟨.update candidate expected, store.clock.now, store.outage⟩
    have served : (store.perform (update candidate expected)).2 = call.serve store := rfl
    refine ⟨?_, ?_, ?_⟩
    · by_contra unnamed
      rw [Option.not_isSome_iff_eq_none] at unnamed
      rw [update, unnamed] at changed
      exact changed rfl
    · rw [served] at changed
      rcases call.serve_cases store with same | ⟨_, _, _, _, target, _⟩
      · rw [valueAt, same] at changed
        exact absurd rfl changed
      · obtain ⟨uuid, _, subject, _⟩ := target?_eq_some target
        exact Option.isSome_of_eq_some subject
    · rw [served] at changed
      by_contra unreached
      exact changed (valueAt_serve_of_apart call server (isImmutable_of_update server)
        unreached place store)
  · rintro ⟨named, subject, reached⟩
    obtain ⟨held, subject⟩ := Option.isSome_iff_exists.mp subject
    refine ⟨bare held "v", "v", 0, ?_⟩
    have target : target? candidate.toDocument "v" (bare held "v").documents = some 0 := by
      rw [target?, subject, Option.bind_some, bare, List.findIdx?_cons, condition_holds]
      simp [Fields.get?, Value.offers, uuidField, versionField]
    have written := (Request.perform_passed (passes_bare held "v" "v" named) target rfl).2
    obtain ⟨fields, object⟩ := get?_image_of_reached server (isImmutable_of_update server) reached
      (bare held "v").clock.issue.1 [(uuidField, .string held), (versionField, .string "v")]
    have after : valueAt field 0 ((bare held "v").perform (update candidate "v")).2 =
        some (.object fields) := by
      rw [← object]
      exact valueAt_set written field 0 Nat.zero_lt_one
    rw [after]
    intro same
    have before : Fields.get? [(uuidField, .string held), (versionField, .string "v")] field =
        some (.object fields) := same.symm
    have member := Fields.mem_of_get? before
    simp at member

/-- Over any sequence of updates and launches a field of the server stays as it is, and a launch is
entered by a launch only and once only, where no candidate carries a path that leads below the
field and no two documents share an identifier. Where one does, some store is changed. -/
theorem server_fields_over_calls (store : Store) (calls : List Call) (place : Nat) :
    (∀ field ∈ serverFields, field ≠ launchField →
        (∀ call ∈ calls, ¬call.request.ReachesBelow field) →
          changers field place store calls = []) ∧
      ((∀ call ∈ calls, ¬call.request.ReachesBelow launchField) →
        ∀ call ∈ changers launchField place store calls, call.request.isLaunch = true) ∧
      ((∀ call ∈ calls, ¬call.request.ReachesBelow launchField) →
        (∀ call ∈ calls, ¬call.request.ReachesBelow uuidField) →
          WellNamed place store → Sole place store →
            (changers launchField place store calls).length ≤ 1) ∧
      ∀ candidate : Engagement, ∀ field ∈ serverFields,
        ((∃ (held : Store) (expected : String) (here : Nat),
            valueAt field here (held.perform (update candidate expected)).2 ≠
              valueAt field here held) ↔
          candidate.uuid.isSome = true ∧ (subject? candidate.toDocument).isSome = true ∧
            candidate.ReachesBelow field) := by
  refine ⟨?_, ?_, ?_, ?_⟩
  · intro field server different apart
    have immutable : ∀ call ∈ calls, isImmutable call.request.isLaunch field = true :=
      fun call _ => isImmutable_of_ne server different call.request.isLaunch
    exact changers_eq_nil server immutable apart place store
  · intro apart
    exact isLaunch_of_changer apart place store
  · intro launchApart uuidApart named sole
    exact length_changers_launch launchApart uuidApart sole named
  · intro candidate field server
    exact update_changes_iff server

def greenStore : Store :=
  ⟨[[("_id", .string "a"), ("uuid", .string "u"), ("lastUpdate", .string "v"),
    ("status", .object [("overallStatus", .string "green")])]], 0, ⟨0, 0⟩, 5000, none⟩

/-- An update, then two launches of which the second one comes too late. -/
def launches : List Call :=
  [⟨.update { Engagement.empty with uuid := some "u", location := some "Oslo" } "v", 7, none⟩,
    ⟨.launch "u" (Version.token 7) "Sam" "s", 8, none⟩,
    ⟨.launch "u" (Version.token 8) "Kim" "k", 9, none⟩]

theorem launches_keep_status :
    changers "status" 0 greenStore launches = [] ∧
      (∀ call ∈ changers launchField 0 greenStore launches, call.request.isLaunch = true) ∧
      (changers launchField 0 greenStore launches).length ≤ 1 ∧
      ¬Entered 0 greenStore ∧ Entered 0 (launches.foldl (fun store call => call.serve store)
        greenStore) := by
  have general := server_fields_over_calls greenStore launches 0
  have apart : ∀ field, ∀ call ∈ launches, ¬call.request.ReachesBelow field := by
    intro field call member
    simp only [launches, List.mem_cons, List.not_mem_nil, or_false] at member
    rcases member with first | second | third <;> subst call
    · rintro ⟨path, carried, _⟩
      cases carried
    · exact id
    · exact id
  have named : WellNamed 0 greenStore := by
    intro document stored
    cases stored
    decide
  have sole : Sole 0 greenStore := fun earlier before => absurd before (Nat.not_lt_zero earlier)
  refine ⟨?_, general.2.1 (apart launchField), ?_, ?_⟩
  · exact general.1 "status" (by decide) (by decide) (apart "status")
  · exact general.2.2.1 (apart launchField) (apart uuidField) named sole
  · unfold Entered
    decide +kernel

/-- Two documents share an identifier. -/
def twinStore : Store :=
  ⟨[[("uuid", .string "u"), ("lastUpdate", .string "v")],
    [("uuid", .string "u"), ("lastUpdate", .string "w")]], 0, ⟨0, 0⟩, 5000, none⟩

/-- A path below the status changes it, and a launch behind a document of the same identifier is
entered twice. -/
theorem status_overwritten :
    (changers "status" 0 greenStore [⟨.update { Engagement.empty with
        uuid := some "u"
        extra := [("status.overallStatus", .string "red")] } "v", 7, none⟩]).length = 1 ∧
      (changers launchField 1 twinStore [⟨.launch "u" "w" "Sam" "s", 7, none⟩,
        ⟨.launch "u" (Version.token 7) "Kim" "k", 8, none⟩]).length = 2 := by
  constructor <;> decide +kernel

end Engagements.Registry
