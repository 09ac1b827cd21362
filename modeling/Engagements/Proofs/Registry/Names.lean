import Engagements.Proofs.Registry.Identity

/-!
Customer and project name an engagement: no sequence of requests gives two documents the same two
names.
-/
namespace Engagements.Registry

open Revision

/-- The names of the customer and the project, of a document that has both. -/
def namesOf (document : Document) : Option (String × String) :=
  match document.text? "customerName", document.text? "projectName" with
  | some customer, some project => some (customer, project)
  | _, _ => none

theorem namesOf_eq_some_iff (document : Document) (customer project : String) :
    namesOf document = some (customer, project) ↔
      document.text? "customerName" = some customer ∧
        document.text? "projectName" = some project := by
  rw [namesOf]
  cases document.text? "customerName" <;> cases document.text? "projectName" <;> simp

/-- The condition by which the names of an engagement are looked up. -/
def called (customer project : String) : Predicate :=
  (Predicate.equals "customerName" (.string customer)).and (.equals "projectName" (.string project))

theorem called_holds (customer project : String) (document : Document) :
    (called customer project).holds (.object document) =
      ((Fields.get? document "customerName").any (·.offers customer) &&
        (Fields.get? document "projectName").any (·.offers project)) := by
  rw [called, Predicate.holds_and, Predicate.holds_equals_string document
      (Engagement.segments_memberNames "customerName" (by decide)),
    Predicate.holds_equals_string document
      (Engagement.segments_memberNames "projectName" (by decide))]

theorem called_of_namesOf {document : Document} {customer project : String}
    (names : namesOf document = some (customer, project)) :
    (called customer project).holds (.object document) = true := by
  obtain ⟨first, second⟩ := (namesOf_eq_some_iff document customer project).mp names
  rw [called_holds, offers_of_text? first, offers_of_text? second]
  rfl

theorem text?_shown {document : Document} (distinct : (Fields.names document).Nodup) {name : String}
    (different : name ≠ idField) : (Catalog.shown document).text? name = document.text? name := by
  rw [Document.text?, Catalog.get?_shown distinct, if_neg different]
  rfl

/-- A field that an engagement reads as a text offers nothing but that text. -/
theorem offers_iff_of_shown {document : Document} (distinct : (Fields.names document).Nodup)
    (readable : (Engagement.ofDocument (Catalog.shown document)).isOk = true) {name : String}
    (different : name ≠ idField) (unfit : ∀ items, Engagement.fits name (.array items) = false)
    (text : String) :
    (Fields.get? document name).any (·.offers text) = true ↔
      document.text? name = some text := by
  refine offers_iff (fun items held => ?_) text
  refine not_array_of_readable readable unfit items ?_
  rw [Catalog.get?_shown distinct, if_neg different, held]

/-- A document that reads as an engagement is called by its names and by nothing else. -/
theorem namesOf_of_called {document : Document} (distinct : (Fields.names document).Nodup)
    (readable : (Engagement.ofDocument (Catalog.shown document)).isOk = true)
    {customer project : String}
    (holds : (called customer project).holds (.object document) = true) :
    namesOf document = some (customer, project) := by
  rw [called_holds, Bool.and_eq_true,
    offers_iff_of_shown distinct readable (by decide) fun _ => rfl,
    offers_iff_of_shown distinct readable (by decide) fun _ => rfl] at holds
  exact (namesOf_eq_some_iff document customer project).mpr holds

/-! What a check of names looks at. -/

/-- What a candidate leaves unnamed is looked up in the document of its identifier. -/
theorem namesAfter_ok {store : Store} {candidate : Engagement} {uuid : String}
    {names : Option String × Option String}
    (found : (store.perform (namesAfter candidate uuid)).1 = .ok names) {document : Document}
    (first : store.find? (.equals uuidField (.string uuid)) = some document)
    (distinct : (Fields.names document).Nodup) :
    names = (candidate.customerName.or (document.text? "customerName"),
      candidate.projectName.or (document.text? "projectName")) := by
  unfold namesAfter at found
  split at found
  · rename_i customer project
    cases found
    rw [customer, project]
    rfl
  · obtain ⟨stored, outage, looked, found⟩ :=
      Store.perform_bind_ok (Catalog.onlyReads_findByUuid uuid none) found
    rcases Catalog.findFirst_ok looked with ⟨none, _⟩ | ⟨document', engagement, first', read, same⟩
    · cases first.symm.trans none
    · cases first.symm.trans first'
      subst same
      have distinct' := Catalog.nodup_shown distinct
      have customer : engagement.customerName = document.text? "customerName" :=
        (Engagement.customerName_ofDocument distinct' read).trans
          (text?_shown distinct (by decide))
      have project : engagement.projectName = document.text? "projectName" :=
        (Engagement.projectName_ofDocument distinct' read).trans
          (text?_shown distinct (by decide))
      cases found
      rw [Option.bind_some, Option.bind_some, customer, project]
      cases candidate.customerName <;> cases candidate.projectName <;> rfl

/-- A check of names lets pass nothing but what has no two names, and names that no document has
but one that reads as an engagement of the same identifier. -/
theorem owner_of_checkNames {store : Store} {candidate : Engagement} {uuid : String}
    (passed : (store.perform (checkNames candidate uuid)).1 = .ok ())
    (supplied : ¬(candidate.customerName = none ∧ candidate.projectName = none))
    {document : Document}
    (first : store.find? (.equals uuidField (.string uuid)) = some document)
    (distinct : (Fields.names document).Nodup) {customer project : String}
    (customerAfter : candidate.customerName.or (document.text? "customerName") = some customer)
    (projectAfter : candidate.projectName.or (document.text? "projectName") = some project)
    {owner : Document} (owned : store.find? (called customer project) = some owner) :
    ∃ engagement, Engagement.ofDocument (Catalog.shown owner) = .ok engagement ∧
      engagement.uuid = some uuid := by
  have named : ¬(candidate.customerName.isNone && candidate.projectName.isNone) = true := by
    simpa using supplied
  rw [checkNames, if_neg named] at passed
  obtain ⟨names, outage, both, passed⟩ :=
    Store.perform_bind_ok (onlyReads_namesAfter candidate uuid) passed
  have both := namesAfter_ok both first distinct
  rw [customerAfter, projectAfter] at both
  subst both
  obtain ⟨found, outage', looked, passed⟩ :=
    Store.perform_bind_ok (Catalog.onlyReads_findFirst _ none) passed
  rcases Catalog.findFirst_ok looked with ⟨none, _⟩ | ⟨owner', engagement, owned', read, same⟩
  · cases owned.symm.trans none
  · cases owned.symm.trans owned'
    subst same
    refine ⟨engagement, read, ?_⟩
    by_contra other
    simp only [ne_eq, other, not_false_eq_true, if_true] at passed
    cases passed

/-! What a write does to the names of a document. -/

theorem text?_image {candidate : Engagement} (proper : candidate.Proper) {name : String}
    (get : Engagement → Option String) (set : Engagement → Option String → Engagement)
    (inside : Member.optional name .text get set ∈ Engagement.members) {launching : Bool}
    (mutable : isImmutable launching name = false) (different : name ≠ versionField)
    {version : String} {document : Document} {text : String}
    (held : Document.text? name (image version candidate.toDocument launching document) =
      some text) : (get candidate).or (document.text? name) = some text := by
  refine get?_image_of_member proper inside mutable different
    (fun value => ∀ text, value.bind Value.asString? = some text →
      (get candidate).or (document.text? name) = some text) ?_ ?_ text held
  · intro path value carried begins below old _ text object
    obtain ⟨next, rest, split⟩ := List.exists_cons_of_ne_nil below
    rw [split] at object
    cases object
  · intro text first
    change ((Option.map Value.string (get candidate)).or _).bind Value.asString? = _ at first
    cases supplied : get candidate <;> rw [supplied] at first <;> exact first

theorem namesOf_image {candidate : Engagement} (proper : candidate.Proper) {launching : Bool}
    {version : String} {document : Document} {customer project : String}
    (names : namesOf (image version candidate.toDocument launching document) =
      some (customer, project)) :
    candidate.customerName.or (document.text? "customerName") = some customer ∧
      candidate.projectName.or (document.text? "projectName") = some project := by
  obtain ⟨first, second⟩ := (namesOf_eq_some_iff _ customer project).mp names
  constructor
  · exact text?_image proper (·.customerName) (fun r v => { r with customerName := v })
      (by simp [Engagement.members]) (by cases launching <;> decide) (by decide) first
  · exact text?_image proper (·.projectName) (fun r v => { r with projectName := v })
      (by simp [Engagement.members]) (by cases launching <;> decide) (by decide) second

/-- Two documents do not have both names in common. -/
def NamedApart (first second : Document) : Prop :=
  ∀ names, namesOf first = some names → namesOf second ≠ some names

theorem NamedApart.symm (first second : Document) (apart : NamedApart first second) :
    NamedApart second first := fun names held held' => apart names held' held

theorem pairwise_namedApart_iff (documents : List Document) :
    documents.Pairwise NamedApart ↔ (documents.filterMap namesOf).Nodup := by
  rw [List.Nodup, List.pairwise_filterMap]
  constructor
  · refine List.Pairwise.imp fun {first second} apart names held names' held' same => ?_
    exact apart names held (same ▸ held')
  · refine List.Pairwise.imp fun {first second} apart names held held' => ?_
    exact apart names held names held' rfl

/-- Where names were checked that some document has, the document that they are written to has
them already. -/
theorem namesOf_of_checked {store : Store} (identified : Identified store.documents)
    {place : Nat} {document : Document} (stored : store.documents[place]? = some document)
    {uuid : String} (own : uuidOf document = some uuid) {candidate : Engagement}
    (checked : (store.perform (checkNames candidate uuid)).1 = .ok ())
    (supplied : ¬(candidate.customerName = none ∧ candidate.projectName = none))
    {customer project : String}
    (customerAfter : candidate.customerName.or (document.text? "customerName") = some customer)
    (projectAfter : candidate.projectName.or (document.text? "projectName") = some project)
    {rival : Document} (present : rival ∈ store.documents)
    (held : namesOf rival = some (customer, project)) :
    namesOf document = some (customer, project) := by
  have found : (store.find? (called customer project)).isSome = true :=
    List.find?_isSome.mpr ⟨rival, present, called_of_namesOf held⟩
  obtain ⟨owner, found⟩ := Option.isSome_iff_exists.mp found
  have distinct := identified.named document (List.mem_of_getElem? stored)
  obtain ⟨engagement, read, same⟩ := owner_of_checkNames checked supplied
    (identified.find?_uuid stored own) distinct customerAfter projectAfter found
  obtain ⟨holds, index, bound, here, _⟩ := List.find?_eq_some_iff_getElem.mp found
  have stored' : store.documents[index]? = some owner := here ▸ List.getElem?_eq_getElem bound
  have distinct' := identified.named owner (List.mem_of_getElem? stored')
  have owns : uuidOf owner = some uuid := by
    rw [← same, Engagement.uuid_ofDocument (Catalog.nodup_shown distinct') read]
    exact (text?_shown distinct' (by decide)).symm
  rw [identified.place_eq stored own stored' owns, stored] at stored'
  cases stored'
  exact namesOf_of_called distinct (by rw [read]; rfl) holds

theorem namedApart_serve {store : Store} (identified : Identified store.documents)
    (unique : store.documents.Pairwise NamedApart) {call : Call} (proper : call.request.Proper) :
    (call.serve store).documents.Pairwise NamedApart := by
  refine pairwise_serve NamedApart.symm unique call ?_
  rintro place document version passed target stored other rival elsewhere stored'
    ⟨customer, project⟩ written held
  obtain ⟨customerAfter, projectAfter⟩ := namesOf_image (Call.proper proper) written
  have apart : namesOf document ≠ some (customer, project) := by
    intro owned
    exact related_of_pairwise NamedApart.symm unique stored' stored elsewhere _ held owned
  by_cases supplied : call.candidate.customerName = none ∧ call.candidate.projectName = none
  · rw [supplied.1, Option.none_or] at customerAfter
    rw [supplied.2, Option.none_or] at projectAfter
    exact apart ((namesOf_eq_some_iff document customer project).mpr ⟨customerAfter, projectAfter⟩)
  · obtain ⟨uuid, named, own⟩ := identified.uuid_of_target (Call.proper proper) target stored
    -- A launch supplies no name, so the call is an update, of which the names were checked.
    obtain ⟨request, now, outage⟩ := call
    cases request with
    | launch subject expected launchedBy email => exact supplied ⟨rfl, rfl⟩
    | update candidate expected =>
        have checked := (Request.checked_of_passes named passed).1
        have present := List.mem_of_getElem? stored'
        have met : Identified
            (Call.met ⟨.update candidate expected, now, outage⟩ store).documents := identified
        exact apart (namesOf_of_checked met stored own checked supplied customerAfter projectAfter
          present held)

/-- Two projects of the same name, each of its own customer. -/
def projectStore : Store :=
  ⟨[[("_id", .string "a"), ("uuid", .string "u"), ("lastUpdate", .string "v"),
      ("customerName", .string "Acme"), ("projectName", .string "One")],
    [("_id", .string "b"), ("uuid", .string "w"), ("lastUpdate", .string "v"),
      ("customerName", .string "Bolt"), ("projectName", .string "One")]], 0, ⟨0, 0⟩, 5000, none⟩

/-- The first update would give the second project the names of the first one; once it has another
name of its own, its customer can be changed. -/
def renamings : List Call :=
  [⟨.update { Engagement.empty with uuid := some "w", customerName := some "Acme" } "v", 7, none⟩,
    ⟨.update { Engagement.empty with uuid := some "w", projectName := some "Two" } "v", 8, none⟩,
    ⟨.launch "w" (Version.token 8) "Sam" "s", 9, none⟩,
    ⟨.update { Engagement.empty with uuid := some "w", customerName := some "Acme" }
      (Version.token 9), 10, none⟩]

end Engagements.Registry
