import Engagements.Proofs.Engagement.RoundTrip
import Engagements.Proofs.Registry.ServerFields

/-!
Documents that are told apart by their identifiers. They stay so over any sequence of requests, and
then a request looks at the very document that it writes, and at no other one of its identifier.
-/
namespace Engagements

/-- The text in a field. -/
def Document.text? (name : String) (document : Document) : Option String :=
  (Fields.get? document name).bind Value.asString?

theorem pairwise_set {α : Type} {related : α → α → Prop}
    (symmetric : ∀ first second, related first second → related second first)
    {list : List α} (all : list.Pairwise related) {place : Nat} {new : α}
    (fits : ∀ other rival, other ≠ place → list[other]? = some rival → related new rival) :
    (list.set place new).Pairwise related := by
  rw [List.pairwise_iff_getElem] at all ⊢
  intro first second bound bound' before
  rw [List.length_set] at bound bound'
  rw [List.getElem_set, List.getElem_set]
  by_cases here : place = first
  · rw [if_pos here, if_neg (by omega)]
    exact fits second _ (by omega) (List.getElem?_eq_getElem bound')
  · rw [if_neg here]
    split
    · exact symmetric _ _ (fits first _ (Ne.symm here) (List.getElem?_eq_getElem bound))
    · exact all first second bound bound' before

theorem related_of_pairwise {α : Type} {related : α → α → Prop}
    (symmetric : ∀ first second, related first second → related second first) {list : List α}
    (all : list.Pairwise related) {first second : Nat} {a b : α} (here : list[first]? = some a)
    (there : list[second]? = some b) (different : first ≠ second) : related a b := by
  obtain ⟨bound, here⟩ := List.getElem?_eq_some_iff.mp here
  obtain ⟨bound', there⟩ := List.getElem?_eq_some_iff.mp there
  rw [List.pairwise_iff_getElem] at all
  subst here there
  rcases Nat.lt_or_gt_of_ne different with before | after
  · exact all first second bound bound' before
  · exact symmetric _ _ (all second first bound' bound after)

namespace Registry

open Revision

def Request.Proper : Request → Prop
  | update candidate _ => candidate.Proper
  | launch _ _ _ _ => True

theorem Call.proper {call : Call} (proper : call.request.Proper) : call.candidate.Proper := by
  obtain ⟨request, now, outage⟩ := call
  cases request with
  | update candidate expected => exact proper
  | launch uuid expected launchedBy email => exact fun name kept => nomatch kept

/-- What holds between any two documents holds after a call, if it holds between the document that
the call writes and every other one. -/
theorem pairwise_serve {related : Document → Document → Prop}
    (symmetric : ∀ first second, related first second → related second first)
    {store : Store} (all : store.documents.Pairwise related) (call : Call)
    (fits : ∀ place document version, Passes (call.met store) call.request.checks →
      target? call.candidate.toDocument call.request.expected store.documents = some place →
        store.documents[place]? = some document →
          ∀ other rival, other ≠ place → store.documents[other]? = some rival →
            related (image version call.candidate.toDocument call.request.isLaunch document)
              rival) :
    (call.serve store).documents.Pairwise related := by
  rcases call.serve_cases store with
    same | ⟨place, document, version, passed, target, stored, written⟩
  · rw [same]
    exact all
  · rw [written]
    exact pairwise_set symmetric all (fits place document version passed target stored)

/-- The identifier of a document. -/
def uuidOf : Document → Option String := Document.text? uuidField

/-- Documents with an identifier of their own, in which no list stands for the identifier. -/
structure Identified (documents : List Document) : Prop where
  named : ∀ document ∈ documents, (Fields.names document).Nodup
  single : ∀ document ∈ documents, ∀ items, Fields.get? document uuidField ≠ some (.array items)
  apart : documents.Pairwise fun first second =>
    ∀ uuid, uuidOf first = some uuid → uuidOf second ≠ some uuid

theorem not_array_of_readable {document : Document}
    (readable : (Engagement.ofDocument document).isOk = true) {name : String}
    (unfit : ∀ items, Engagement.fits name (.array items) = false) (items : List Value) :
    Fields.get? document name ≠ some (.array items) := by
  intro held
  rw [Engagement.isOk_ofDocument, List.all_eq_true] at readable
  have fit := readable _ (Fields.mem_of_get? held)
  rw [unfit] at fit
  cases fit

theorem identified_of_readable {documents : List Document}
    (named : ∀ document ∈ documents, (Fields.names document).Nodup)
    (readable : ∀ document ∈ documents, (Engagement.ofDocument document).isOk = true)
    (distinct : (documents.filterMap uuidOf).Nodup) : Identified documents where
  named := named
  single document member items :=
    not_array_of_readable (readable document member) (fun _ => rfl) items
  apart := by
    refine (List.pairwise_filterMap.mp distinct).imp ?_
    intro first second different uuid held held'
    exact different uuid held uuid held' rfl

theorem offers_of_text? {document : Document} {name text : String}
    (held : document.text? name = some text) :
    (Fields.get? document name).any (·.offers text) = true := by
  obtain ⟨value, stored, read⟩ := Option.bind_eq_some_iff.mp held
  cases value with
  | string s =>
      cases read
      simp [stored, Value.offers]
  | _ => cases read

/-- A field without a list offers nothing but its text. -/
theorem offers_iff {document : Document} {name : String}
    (single : ∀ items, Fields.get? document name ≠ some (.array items)) (text : String) :
    (Fields.get? document name).any (·.offers text) = true ↔
      document.text? name = some text := by
  rw [Document.text?]
  cases held : Fields.get? document name with
  | none => simp
  | some value =>
      cases value with
      | array items => exact absurd held (single items)
      | _ => simp [Value.offers, Value.asString?]

namespace Identified

variable {store : Store} {document : Document} {place : Nat} {uuid : String}

theorem offers_iff (identified : Identified store.documents)
    (stored : store.documents[place]? = some document) (uuid : String) :
    (Fields.get? document uuidField).any (·.offers uuid) = true ↔ uuidOf document = some uuid :=
  Registry.offers_iff (identified.single document (List.mem_of_getElem? stored)) uuid

/-- Two documents with one identifier are one. -/
theorem place_eq (identified : Identified store.documents)
    (stored : store.documents[place]? = some document) (held : uuidOf document = some uuid)
    {other : Nat} {rival : Document} (stored' : store.documents[other]? = some rival)
    (held' : uuidOf rival = some uuid) : other = place := by
  by_contra different
  exact related_of_pairwise (fun _ _ apart uuid held held' => apart uuid held' held)
    identified.apart stored' stored different uuid held' held

theorem find?_uuid (identified : Identified store.documents)
    (stored : store.documents[place]? = some document) (held : uuidOf document = some uuid) :
    store.find? (.equals uuidField (.string uuid)) = some document := by
  have holds : (Predicate.equals uuidField (.string uuid)).holds (.object document) = true := by
    rw [Predicate.holds_equals_string document segments_uuidField]
    exact (identified.offers_iff stored uuid).mpr held
  have found : (store.find? (.equals uuidField (.string uuid))).isSome = true :=
    List.find?_isSome.mpr ⟨document, List.mem_of_getElem? stored, holds⟩
  obtain ⟨first, found⟩ := Option.isSome_iff_exists.mp found
  obtain ⟨holds', index, bound, here, _⟩ := List.find?_eq_some_iff_getElem.mp found
  have stored' : store.documents[index]? = some first := here ▸ List.getElem?_eq_getElem bound
  rw [Predicate.holds_equals_string first segments_uuidField,
    identified.offers_iff stored'] at holds'
  have same := identified.place_eq stored held stored' holds'
  rw [same, stored] at stored'
  rw [found, stored']

/-- A candidate that hits a document names its identifier. -/
theorem uuid_of_target (identified : Identified store.documents) {candidate : Engagement}
    (proper : candidate.Proper) {expected : String}
    (target : target? candidate.toDocument expected store.documents = some place)
    (stored : store.documents[place]? = some document) :
    ∃ uuid, candidate.uuid = some uuid ∧ uuidOf document = some uuid := by
  obtain ⟨uuid, hit, subject, stored', offers, _⟩ := target?_eq_some target
  rw [stored] at stored'
  cases stored'
  rw [subject?_toDocument proper] at subject
  exact ⟨uuid, subject, (identified.offers_iff stored uuid).mp offers⟩

/-- A candidate hits the document of its identifier, if it knows its version. -/
theorem target?_eq (identified : Identified store.documents) {candidate : Engagement}
    (proper : candidate.Proper) (named : candidate.uuid = some uuid)
    (stored : store.documents[place]? = some document) (own : uuidOf document = some uuid)
    {expected : String} (current : document.text? versionField = some expected) :
    target? candidate.toDocument expected store.documents = some place := by
  obtain ⟨bound, here⟩ := List.getElem?_eq_some_iff.mp stored
  rw [target?, subject?_toDocument proper, named, Option.bind_some,
    List.findIdx?_eq_some_iff_getElem]
  refine ⟨bound, ?_, fun earlier before holds => ?_⟩
  · rw [here, condition_holds, offers_of_text? own, offers_of_text? current]
    rfl
  · rw [condition_holds, Bool.and_eq_true] at holds
    have stored' := List.getElem?_eq_getElem (Nat.lt_trans before bound)
    have same := identified.place_eq stored own stored'
      ((identified.offers_iff stored' uuid).mp holds.1)
    omega

/-- A write leaves the identifier of a document as it is, or puts an object in its place. -/
theorem get?_uuid_image (candidate : Engagement) (launching : Bool) (version : String)
    (document : Document) :
    Fields.get? (image version candidate.toDocument launching document) uuidField =
        Fields.get? document uuidField ∨
      ∃ fields, Fields.get? (image version candidate.toDocument launching document) uuidField =
        some (.object fields) := by
  have server : uuidField ∈ serverFields := by decide
  have immutable := isImmutable_of_ne server (by decide) launching
  by_cases reached : candidate.ReachesBelow uuidField
  · exact Or.inr (get?_image_of_reached server immutable reached version document)
  · exact Or.inl (get?_image_of_server server immutable reached version document)

theorem uuidOf_image {candidate : Engagement} {launching : Bool} {version : String}
    {document : Document}
    (held : uuidOf (image version candidate.toDocument launching document) = some uuid) :
    uuidOf document = some uuid := by
  rw [uuidOf, Document.text?] at held ⊢
  rcases get?_uuid_image candidate launching version document with same | ⟨fields, object⟩
  · rw [← same]
    exact held
  · rw [object] at held
    cases held

theorem serve (identified : Identified store.documents) (call : Call) :
    Identified (call.serve store).documents := by
  have each : ∀ updated ∈ (call.serve store).documents, updated ∈ store.documents ∨
      ∃ document ∈ store.documents, ∃ version,
        updated = image version call.candidate.toDocument call.request.isLaunch document := by
    intro updated member
    rcases call.serve_cases store with
      same | ⟨place, document, version, _, _, stored, written⟩
    · exact Or.inl (same ▸ member)
    · rw [written] at member
      rcases List.mem_or_eq_of_mem_set member with before | new
      · exact Or.inl before
      · exact Or.inr ⟨document, List.mem_of_getElem? stored, version, new⟩
  refine ⟨?_, ?_, ?_⟩
  · intro updated member
    rcases each updated member with before | ⟨document, inside, version, same⟩
    · exact identified.named updated before
    · rw [same]
      exact Store.nodup_assign (identified.named document inside) _
  · intro updated member items held
    rcases each updated member with before | ⟨document, inside, version, same⟩
    · exact identified.single updated before items held
    · rw [same] at held
      rcases get?_uuid_image call.candidate call.request.isLaunch version document with
        kept | ⟨fields, object⟩
      · exact identified.single document inside items (kept ▸ held)
      · rw [object] at held
        cases held
  · refine pairwise_serve ?_ identified.apart call ?_
    · intro first second different uuid held held'
      exact different uuid held' held
    · intro place document version _ _ stored other rival elsewhere stored' uuid held held'
      exact elsewhere (identified.place_eq stored (uuidOf_image held) stored' held')

end Identified

/-- What holds at first, and after each call that is allowed, holds after any sequence of them. -/
theorem Identified.keep_over_calls {kept : List Document → Prop} {allowed : Call → Prop}
    (step : ∀ store : Store, Identified store.documents → kept store.documents →
      ∀ call, allowed call → kept (call.serve store).documents)
    {store : Store} (identified : Identified store.documents) (first : kept store.documents)
    {calls : List Call} (all : ∀ call ∈ calls, allowed call) :
    kept (calls.foldl (fun store call => call.serve store) store).documents := by
  induction calls generalizing store with
  | nil => exact first
  | cons call calls ih =>
      obtain ⟨here, later⟩ := List.forall_mem_cons.mp all
      exact ih (identified.serve call) (step store identified first call here) later

/-- After a write a modelled field holds what the candidate has for it, or else what it held, up to
what unknown fields do whose paths lead below it. -/
theorem get?_image_of_member {candidate : Engagement} (proper : candidate.Proper)
    {member : Member Engagement} (inside : member ∈ Engagement.members) {launching : Bool}
    (mutable : isImmutable launching member.name = false) (other : member.name ≠ versionField)
    {version : String} {document : Document} (kept : Option Value → Prop)
    (keeps : ∀ path value, (path, value) ∈ candidate.extra →
      (segments path).head? = some member.name → (segments path).tail ≠ [] →
        ∀ old, kept old → kept (some (Document.placed old (segments path).tail value)))
    (first : kept ((member.write candidate).or (Fields.get? document member.name))) :
    kept (Fields.get? (image version candidate.toDocument launching document) member.name) := by
  have single : segments member.name = [member.name] :=
    Engagement.segments_memberNames _ (List.mem_map.mpr ⟨member, inside, rfl⟩)
  refine Store.get?_assign_of_below
    (nodup_changes (Engagement.nodup_toDocument candidate) launching version) single kept
    (fun path value changed begins below => ?_) document ?_
  · rcases mem_changes changed with stamped | ⟨_, modelled | carried⟩
    · cases stamped
      exact absurd rfl below
    · have named : path ∈ Engagement.memberNames :=
        Record.names_writeMembers (List.mem_map.mpr ⟨_, modelled, rfl⟩)
      rw [Engagement.segments_memberNames path named] at below
      exact absurd rfl below
    · exact keeps path value carried begins below
  · rw [get?_changes, if_neg other, mutable, Engagement.get?_toDocument proper inside]
    exact first

/-- The checks of an update let both its names and its subdomains pass. -/
theorem Request.checked_of_passes {store : Store} {candidate : Engagement} {expected uuid : String}
    (named : candidate.uuid = some uuid)
    (passed : Passes store (update candidate expected).checks) :
    (store.perform (checkNames candidate uuid)).1 = .ok () ∧
      ∃ outage, ({ store with outage := outage }.perform
        (checkSubDomains uuid candidate.subDomains)).1 = .ok () := by
  have done : (store.perform (update candidate expected).checks).1 = .ok () :=
    congrArg Prod.fst passed
  simp only [checks, named] at done
  obtain ⟨_, outage, names, subDomains⟩ :=
    Store.perform_bind_ok (onlyReads_checkNames candidate uuid) done
  exact ⟨names, outage, subDomains⟩

end Registry

end Engagements
