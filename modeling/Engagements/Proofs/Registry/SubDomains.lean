import Engagements.Proofs.Regex
import Engagements.Proofs.Registry.Identity

/-!
A subdomain belongs to one engagement. No sequence of requests lets two documents have one, unless a
candidate carries the path of subdomains as an unknown field, at which no check looks.
-/
namespace Engagements

/-- The texts that a value offers: its own, or those of its items. -/
def Value.texts : Value → List String
  | array items => items.filterMap asString?
  | other => other.asString?.toList

theorem Value.filterMap_candidates (value : Value) (path : String) :
    (value.candidates path).filterMap asString? = (value.resolve path).flatMap texts := by
  rw [candidates, List.filterMap_flatMap]
  refine congrArg (List.flatMap · _) (funext fun reached => ?_)
  cases reached with
  | array items => simp [texts, asString?]
  | _ => rfl

theorem Predicate.holds_like_exactly (document : Value) (path text : String) :
    (Predicate.like path (Pattern.exactly text)).holds document = true ↔
      ∃ found ∈ (document.candidates path).filterMap Value.asString?,
        Text.caseFolded found = Text.caseFolded text := by
  rw [holds, List.any_eq_true]
  constructor
  · rintro ⟨value, member, matched⟩
    cases value with
    | string found =>
        exact ⟨found, List.mem_filterMap.mpr ⟨_, member, rfl⟩,
          (Pattern.occursIn_exactly text found).mp matched⟩
    | _ => cases matched
  · rintro ⟨found, member, same⟩
    obtain ⟨value, inside, read⟩ := List.mem_filterMap.mp member
    cases value with
    | string s =>
        cases read
        exact ⟨_, inside, (Pattern.occursIn_exactly text _).mpr same⟩
    | _ => cases read

namespace Registry

open Revision

def hostingField : String := "hostingEnvironments"

theorem segments_subDomainField :
    segments Catalog.subDomainField = [hostingField, "ocpSubDomain"] := by decide

/-- The subdomains that a document has at their path, the blank ones left aside. -/
def subDomainsAt (document : Document) : List String :=
  (((Value.object document).candidates Catalog.subDomainField).filterMap Value.asString?).filter
    (!Text.isBlank ·)

/-- The texts at the path of subdomains, as far as it leads on below the hosting environments. -/
def textsBelow (held : Option Value) : List String :=
  (held.toList.flatMap (·.step "ocpSubDomain")).flatMap Value.texts

theorem subDomainsAt_visible :
    subDomainsAt = fun document =>
      (((Value.object document).candidates Catalog.subDomainField).filterMap
        Value.asString?).filter fun subDomain =>
          !subDomain.toList.all fun c => Text.blankSpans.any (·.contains c) := by
  funext document
  rw [subDomainsAt, funext Text.isBlank_eq]

theorem subDomainsAt_eq (document : Document) :
    subDomainsAt document =
      (textsBelow (Fields.get? document hostingField)).filter (!Text.isBlank ·) := by
  rw [subDomainsAt, Value.filterMap_candidates, Value.resolve, segments_subDomainField]
  simp [Value.resolveSegments, Value.step, Value.field?, textsBelow]

theorem textsBelow_write (environments : List HostingEnvironment) :
    textsBelow (some ((Codec.listOf HostingEnvironment.codec).write environments)) =
      environments.filterMap (·.subDomain) := by
  have inside : Member.optional "ocpSubDomain" .text HostingEnvironment.subDomain
      (fun r v => { r with subDomain := v }) ∈ HostingEnvironment.members := by
    simp [HostingEnvironment.members]
  have written : ∀ environment : HostingEnvironment,
      (HostingEnvironment.codec.write environment).field? "ocpSubDomain" =
        environment.subDomain.map .string :=
    Record.get?_writeMembers HostingEnvironment.schema.distinct inside
  simp only [textsBelow, Option.toList_some, List.flatMap_singleton, Codec.listOf, Value.step]
  induction environments with
  | nil => rfl
  | cons environment environments ih =>
      rw [List.map_cons, List.filterMap_cons, List.filterMap_cons, written]
      cases environment.subDomain with
      | none => exact ih
      | some subDomain => exact congrArg (subDomain :: ·) ih

/-- A path below the hosting environments adds no text at the path of subdomains, unless it is this
path. -/
theorem textsBelow_placed {below : List String} (deeper : below ≠ [])
    (other : below ≠ ["ocpSubDomain"]) (old : Option Value) (value : Value) :
    textsBelow (some (Document.placed old below value)) ⊆ textsBelow old := by
  obtain ⟨name, rest, split⟩ := List.exists_cons_of_ne_nil deeper
  subst split
  have placed : Document.placed old (name :: rest) value = .object (Fields.insert
      (Document.fieldsOrEmpty old) name
      (Document.placed (Fields.get? (Document.fieldsOrEmpty old) name) rest value)) :=
    congrArg Value.object (Document.setSegments_cons _ name rest value)
  rw [placed, textsBelow]
  simp only [Option.toList_some, List.flatMap_singleton, Value.step, Value.field?,
    Fields.get?_insert]
  by_cases same : "ocpSubDomain" = name
  · have more : rest ≠ [] := fun ended => other (by rw [same, ended])
    obtain ⟨next, rest, split⟩ := List.exists_cons_of_ne_nil more
    subst split
    rw [if_pos same]
    exact List.nil_subset _
  · rw [if_neg same]
    intro text member
    cases old with
    | none => exact member
    | some held =>
        cases held with
        | object fields =>
            simpa [textsBelow, Value.step, Value.field?, Document.fieldsOrEmpty] using member
        | _ => cases member

/-- A candidate carries the path of subdomains as an unknown field. -/
def CarriesSubDomains (candidate : Engagement) : Prop :=
  Catalog.subDomainField ∈ Fields.names candidate.extra

/-- After a write a document has the subdomains of the candidate, or those that it had. -/
theorem mem_subDomainsAt_image {candidate : Engagement} (proper : candidate.Proper)
    (unknown : ¬CarriesSubDomains candidate) {launching : Bool} {version : String}
    {document : Document} {subDomain : String}
    (held : subDomain ∈ subDomainsAt (image version candidate.toDocument launching document)) :
    subDomain ∈ candidate.subDomains ∨ subDomain ∈ subDomainsAt document := by
  have inside : Member.optional hostingField (.listOf HostingEnvironment.codec)
      Engagement.hostingEnvironments (fun r v => { r with hostingEnvironments := v }) ∈
        Engagement.members := by simp [Engagement.members, hostingField]
  have mutable : isImmutable launching hostingField = false := by cases launching <;> decide
  have kept : ∀ text ∈ textsBelow
      (Fields.get? (image version candidate.toDocument launching document) hostingField),
      text ∈ (candidate.hostingEnvironments.getD []).filterMap (·.subDomain) ∨
        text ∈ textsBelow (Fields.get? document hostingField) := by
    refine get?_image_of_member proper inside mutable (by decide : hostingField ≠ versionField)
      (fun value => ∀ text ∈ textsBelow value,
        text ∈ (candidate.hostingEnvironments.getD []).filterMap (·.subDomain) ∨
          text ∈ textsBelow (Fields.get? document hostingField)) ?_ ?_
    · intro path value carried begins deeper old before text found
      refine before text (textsBelow_placed deeper (fun ended => ?_) old value found)
      have same : path = Catalog.subDomainField := by
        refine segments_injective ?_
        rw [segments_eq_cons begins, ended, segments_subDomainField]
        rfl
      exact unknown (List.mem_map.mpr ⟨_, carried, same⟩)
    · change ∀ text ∈ textsBelow ((candidate.hostingEnvironments.map
        (Codec.listOf HostingEnvironment.codec).write).or _), _
      cases candidate.hostingEnvironments with
      | none => exact fun text found => Or.inr found
      | some environments => exact fun text found => Or.inl (textsBelow_write environments ▸ found)
  rw [subDomainsAt_eq, List.mem_filter] at held
  rw [subDomainsAt_eq, Engagement.subDomains, List.mem_filter, List.mem_filter]
  exact (kept subDomain held.1).imp (⟨·, held.2⟩) (⟨·, held.2⟩)

/-- The condition by which another owner of a subdomain is looked up. -/
def takenFrom (uuid subDomain : String) : Predicate :=
  (Predicate.like Catalog.subDomainField (Pattern.exactly subDomain)).and
    (Predicate.equals uuidField (.string uuid)).negate

theorem find?_of_checkSubDomains {uuid : String} {subDomains : List String} {store : Store}
    (passed : (store.perform (checkSubDomains uuid subDomains)).1 = .ok ()) :
    ∀ subDomain ∈ subDomains, store.find? (takenFrom uuid subDomain) = none := by
  induction subDomains generalizing store with
  | nil => exact fun _ member => nomatch member
  | cons subDomain subDomains ih =>
      obtain ⟨isFree, outage, looked, passed⟩ :=
        Store.perform_bind_ok (onlyReads_isSubDomainAvailable subDomain (some uuid)) passed
      cases isFree with
      | false => cases passed
      | true =>
          obtain ⟨found, outage', searched, free⟩ :=
            Store.perform_bind_ok (Catalog.onlyReads_findFirst _ none) looked
          have later := ih passed
          refine List.forall_mem_cons.mpr ⟨?_, later⟩
          rcases Catalog.findFirst_ok searched with ⟨none, _⟩ | ⟨_, engagement, _, _, same⟩
          · exact none
          · subst same
            cases free

/-- Two documents do not have a subdomain in common, in any case. -/
def Exclusive (first second : Document) : Prop :=
  ∀ subDomain ∈ subDomainsAt first, ∀ other ∈ subDomainsAt second,
    Text.caseFolded subDomain ≠ Text.caseFolded other

theorem Exclusive.symm (first second : Document) (exclusive : Exclusive first second) :
    Exclusive second first :=
  fun subDomain held other held' same => exclusive other held' subDomain held same.symm

theorem pairwise_exclusive_iff (documents : List Document) :
    documents.Pairwise Exclusive ↔
      (documents.map subDomainsAt).Pairwise fun owned others =>
        ∀ subDomain ∈ owned, ∀ other ∈ others,
          Text.caseFolded subDomain ≠ Text.caseFolded other := by
  rw [List.pairwise_map]
  rfl

/-- A subdomain that was checked belongs to no document of another identifier. -/
theorem apart_of_checked {store : Store} (identified : Identified store.documents)
    {uuid subDomain : String} (free : store.find? (takenFrom uuid subDomain) = none) {place : Nat}
    {rival : Document} (stored : store.documents[place]? = some rival)
    (other : uuidOf rival ≠ some uuid) :
    ∀ owned ∈ subDomainsAt rival, Text.caseFolded subDomain ≠ Text.caseFolded owned := by
  intro owned held same
  refine List.find?_eq_none.mp free rival (List.mem_of_getElem? stored) ?_
  rw [takenFrom, Predicate.holds_and, Predicate.holds_negate, Bool.and_eq_true,
    Predicate.holds_like_exactly, Predicate.holds_equals_string rival segments_uuidField]
  refine ⟨⟨owned, (List.mem_filter.mp held).1, same.symm⟩, ?_⟩
  rw [Bool.not_eq_true', Bool.eq_false_iff, ne_eq, identified.offers_iff stored]
  exact other

theorem exclusive_serve {store : Store} (identified : Identified store.documents)
    (exclusive : store.documents.Pairwise Exclusive) {call : Call} (proper : call.request.Proper)
    (unknown : ¬CarriesSubDomains call.candidate) :
    (call.serve store).documents.Pairwise Exclusive := by
  refine pairwise_serve Exclusive.symm exclusive call ?_
  intro place document version passed target stored other rival elsewhere stored' subDomain held
  rcases mem_subDomainsAt_image (Call.proper proper) unknown held with claimed | before
  · obtain ⟨uuid, named, own⟩ := identified.uuid_of_target (Call.proper proper) target stored
    -- A launch claims no subdomain, so the call is an update, of which the subdomains were checked.
    obtain ⟨request, now, outage⟩ := call
    cases request with
    | launch subject expected launchedBy email => cases claimed
    | update candidate expected =>
        obtain ⟨left, checked⟩ := (Request.checked_of_passes named passed).2
        exact apart_of_checked identified (find?_of_checkSubDomains checked subDomain claimed)
          stored' fun owns => elsewhere (identified.place_eq stored own stored' owns)
  · exact related_of_pairwise Exclusive.symm exclusive stored stored' (Ne.symm elsewhere) subDomain
      before

/-- A candidate that names an engagement and carries a subdomain under its path. -/
def trespass (uuid subDomain : String) : Engagement :=
  { Engagement.empty with
    uuid := some uuid
    extra := [(Catalog.subDomainField, .string subDomain)] }

theorem proper_trespass (uuid subDomain : String) : (trespass uuid subDomain).Proper := by
  intro name kept
  obtain rfl : name = Catalog.subDomainField := List.mem_singleton.mp kept
  decide

theorem changes_trespass (uuid subDomain version : String) :
    changes (trespass uuid subDomain).toDocument false version =
      [(Catalog.subDomainField, .string subDomain), (versionField, .string version)] := by
  rfl

theorem mem_subDomainsAt_trespass {subDomain : String} (visible : Text.isBlank subDomain = false)
    (uuid version : String) (document : Document) :
    subDomain ∈ subDomainsAt
      (image version (trespass uuid subDomain).toDocument false document) := by
  rw [subDomainsAt_eq, image, changes_trespass, Store.assign_cons, Store.assign_cons,
    Store.assign_nil, Document.get?_set, if_neg (by decide), Document.get?_set, if_pos (by decide),
    segments_subDomainField]
  simp [Document.placed, Document.setSegments, textsBelow, Value.step, Value.field?,
    Value.texts, Value.asString?, visible]

/-- A trespass passes every check, and gives a document the subdomain of another one. -/
theorem trespass_shares {store : Store} (identified : Identified store.documents)
    (struck : store.outage = none) {place : Nat} {document : Document}
    (stored : store.documents[place]? = some document) {uuid version : String}
    (own : uuidOf document = some uuid) (current : document.text? versionField = some version)
    {other : Nat} {rival : Document} (elsewhere : other ≠ place)
    (stored' : store.documents[other]? = some rival) {subDomain : String}
    (owned : subDomain ∈ subDomainsAt rival) :
    ¬(store.perform (update (trespass uuid subDomain) version)).2.documents.Pairwise Exclusive := by
  have target := identified.target?_eq (proper_trespass uuid subDomain) rfl stored own current
  have passed : Passes store (Request.update (trespass uuid subDomain) version).checks :=
    passes_pure struck
  have written := (Request.perform_passed passed target stored).2
  have visible : Text.isBlank subDomain = false := by
    simpa using (List.mem_filter.mp owned).2
  intro exclusive
  rw [Request.action, Request.candidate, Request.isLaunch] at written
  rw [written] at exclusive
  have bound := (List.getElem?_eq_some_iff.mp stored).1
  exact related_of_pairwise Exclusive.symm exclusive (List.getElem?_set_self bound)
    ((List.getElem?_set_ne (Ne.symm elsewhere)).trans stored') (Ne.symm elsewhere) subDomain
    (mem_subDomainsAt_trespass visible uuid _ document) subDomain owned rfl

/-- Where every document reads as an engagement and has an identifier of its own, no sequence of
updates and launches gives two documents one subdomain, whatever fails among them, as long as no
candidate carries the path of subdomains as an unknown field. A candidate that does can give any
document the subdomain of any other. -/
theorem sub_domains_over_calls (store : Store)
    (named : ∀ document ∈ store.documents, (Fields.names document).Nodup)
    (readable : ∀ document ∈ store.documents, (Engagement.ofDocument document).isOk = true)
    (distinct : (store.documents.filterMap uuidOf).Nodup)
    (exclusive : store.documents.Pairwise Exclusive) :
    (∀ calls : List Call, (∀ call ∈ calls, call.request.Proper) →
        (∀ call ∈ calls, ¬CarriesSubDomains call.candidate) →
          (calls.foldl (fun store call => call.serve store) store).documents.Pairwise Exclusive) ∧
      ∀ (place other : Nat) (document rival : Document) (uuid version subDomain : String),
        store.outage = none → store.documents[place]? = some document →
          uuidOf document = some uuid → document.text? versionField = some version →
            other ≠ place → store.documents[other]? = some rival → subDomain ∈ subDomainsAt rival →
              (trespass uuid subDomain).Proper ∧
                ¬(store.perform
                  (update (trespass uuid subDomain) version)).2.documents.Pairwise Exclusive := by
  have identified := identified_of_readable named readable distinct
  refine ⟨fun calls proper unknown => ?_, ?_⟩
  · have step : ∀ store : Store, Identified store.documents →
        store.documents.Pairwise Exclusive → ∀ call : Call,
          call.request.Proper ∧ ¬CarriesSubDomains call.candidate →
            (call.serve store).documents.Pairwise Exclusive :=
      fun _ identified exclusive _ allowed =>
        exclusive_serve identified exclusive allowed.1 allowed.2
    exact identified.keep_over_calls step exclusive fun call member =>
      ⟨proper call member, unknown call member⟩
  intro place other document rival uuid version subDomain struck stored own current elsewhere
    stored' owned
  exact ⟨proper_trespass uuid subDomain,
    trespass_shares identified struck stored own current elsewhere stored' owned⟩

/-- The first engagement has a subdomain, the second one has none. -/
def hostingStore : Store :=
  ⟨[[("_id", .string "a"), ("uuid", .string "u"), ("lastUpdate", .string "v"),
      ("hostingEnvironments", .array [.object [("ocpSubDomain", .string "env-one")]])],
    [("_id", .string "b"), ("uuid", .string "w"), ("lastUpdate", .string "v")]], 0, ⟨0, 0⟩, 5000,
    none⟩

def claimOf (subDomain : String) : Engagement :=
  { Engagement.empty with
    uuid := some "w"
    hostingEnvironments := some [⟨none, none, none, none, some subDomain, none⟩] }

/-- The second engagement asks for the subdomain of the first one, then for another one. -/
def claims : List Call :=
  [⟨.update (claimOf "Env-One") "v", 7, none⟩, ⟨.update (claimOf "env-two") "v", 8, none⟩,
    ⟨.launch "w" (Version.token 8) "Sam" "s", 9, none⟩]

theorem subDomains_hostingStore :
    hostingStore.documents.map subDomainsAt = [["env-one"], []] := by
  rw [subDomainsAt_visible]
  decide +kernel

theorem exclusive_hostingStore : hostingStore.documents.Pairwise Exclusive := by
  rw [pairwise_exclusive_iff, subDomains_hostingStore]
  decide

theorem claims_keep_sub_domains :
    (claims.foldl (fun store call => call.serve store) hostingStore).documents.Pairwise Exclusive ∧
      (claims.foldl (fun store call => call.serve store) hostingStore).documents.map subDomainsAt =
        [["env-one"], ["env-two"]] ∧
      ¬(hostingStore.perform
        (update (trespass "w" "env-one") "v")).2.documents.Pairwise Exclusive := by
  have general := sub_domains_over_calls hostingStore (by decide) (by decide) (by decide)
    exclusive_hostingStore
  have proper : ∀ call ∈ claims, call.request.Proper := by
    intro call member
    simp only [claims, List.mem_cons, List.not_mem_nil, or_false] at member
    rcases member with first | second | third <;> subst call
    all_goals first | exact trivial | exact fun name kept => nomatch kept
  have unknown : ∀ call ∈ claims, ¬CarriesSubDomains call.candidate := by
    intro call member
    simp only [claims, List.mem_cons, List.not_mem_nil, or_false] at member
    rcases member with first | second | third <;> subst call
    all_goals exact fun kept => nomatch kept
  refine ⟨general.1 claims proper unknown, ?_, ?_⟩
  · rw [subDomainsAt_visible]
    simp only [claims, List.foldl_cons, List.foldl_nil, Call.serve, Request.action, update, claimOf,
      Engagement.subDomains, Text.isBlank_eq]
    decide +kernel
  · refine (general.2 1 0 _ _ "w" "v" "env-one" rfl rfl (by decide) (by decide) (by decide) rfl
      ?_).2
    rw [subDomainsAt_visible]
    decide +kernel

/-- A subdomain that is in use is refused to an engagement in its hosting environments, and given
to it under its path. The call fails, but it has written. -/
theorem sub_domain_shared :
    hostingStore.documents.Pairwise Exclusive ∧
      (hostingStore.perform (update (claimOf "env-one") "v")).1 =
        .error (.businessRule "subdomain 'env-one' is already in use") ∧
      (hostingStore.perform (update (trespass "w" "env-one") "v")).1 =
        .error (.serialization "invalid type: map, expected a sequence") ∧
      ¬(hostingStore.perform
        (update (trespass "w" "env-one") "v")).2.documents.Pairwise Exclusive := by
  refine ⟨exclusive_hostingStore, ?_, ?_, ?_⟩
  · simp only [update, claimOf, Engagement.subDomains, Text.isBlank_eq]
    decide +kernel
  · decide +kernel
  · rw [pairwise_exclusive_iff, subDomainsAt_visible]
    decide +kernel

end Registry

end Engagements
