import Engagements.Proofs.Engagement.Rewriting
import Engagements.Proofs.Registry

/-!
An engagement that is read and written back. Its document keeps all but its version when the items
of its lists hold nothing that is not modelled, and when the fields that are not modelled lead back
to where they came from as paths.
-/
namespace Engagements.Registry

open Revision Record

/-- Two documents agree in all fields but one, up to the order of fields. -/
def sameApartFrom (field : String) (document other : Document) : Bool :=
  (Value.object (document.filter fun entry => entry.1 != field)).same
    (.object (other.filter fun entry => entry.1 != field))

theorem sameApartFrom_iff {field : String} {document other : Document}
    (names : (Fields.names document).Nodup) (names' : (Fields.names other).Nodup) :
    sameApartFrom field document other = true ↔
      ∀ name, name ≠ field →
        Value.SameField (Fields.get? document name) (Fields.get? other name) := by
  rw [sameApartFrom, Value.same_object_iff (Fields.nodup_filter names _)
    (Fields.nodup_filter names' _)]
  refine forall_congr' fun name => ?_
  rw [Fields.get?_filter document (· != field), Fields.get?_filter other (· != field)]
  by_cases same : name = field
  · simp only [same, bne_self_eq_false, Bool.false_eq_true, if_false, ne_eq, not_true_eq_false,
      false_implies, iff_true]
    exact Option.Rel.none
  · simp [same]

/-- What a candidate writes of its modelled fields. -/
def carried (token : String) (candidate : Engagement) : Fields :=
  Fields.insert ((writeMembers Engagement.members candidate).filter fun entry =>
    !isImmutable false entry.1) versionField (.string token)

theorem nodup_carried (token : String) (candidate : Engagement) :
    (Fields.names (carried token candidate)).Nodup :=
  nodup_changes (nodup_writeMembers Engagement.schema.distinct candidate) false token

theorem get?_carried (token : String) (candidate : Engagement) (name : String) :
    Fields.get? (carried token candidate) name =
      if name = versionField then some (.string token)
      else if isImmutable false name then none
      else Fields.get? (writeMembers Engagement.members candidate) name :=
  get?_changes (writeMembers Engagement.members candidate) false token name

theorem segments_carried {token : String} {candidate : Engagement} :
    ∀ entry ∈ carried token candidate, segments entry.1 = [entry.1] := by
  intro entry member
  apply Engagement.segments_memberNames
  rcases Fields.mem_of_mem_insert member with stamped | written
  · rw [stamped]
    change versionField ∈ Engagement.memberNames
    decide
  · exact names_writeMembers (List.mem_map.mpr ⟨entry, (List.mem_filter.mp written).1, rfl⟩)

section ReadBack

variable {document : Document} {engagement : Engagement}

theorem nodup_extra (distinct : (Fields.names document).Nodup)
    (read : Engagement.ofDocument (Catalog.shown document) = .ok engagement) :
    (Fields.names engagement.extra).Nodup := by
  rw [Engagement.extra_ofDocument (Catalog.nodup_shown distinct) read]
  exact Fields.nodup_filter (Catalog.nodup_shown distinct) _

theorem toDocument_eq (distinct : (Fields.names document).Nodup)
    (read : Engagement.ofDocument (Catalog.shown document) = .ok engagement) :
    engagement.toDocument = writeMembers Engagement.members engagement ++ engagement.extra := by
  apply Fields.insertAll_of_nodup
  rw [Fields.names, List.map_append]
  refine List.nodup_append.mpr
    ⟨nodup_writeMembers Engagement.schema.distinct engagement, nodup_extra distinct read, ?_⟩
  rintro name written other extra rfl
  exact Engagement.proper_ofDocument read name extra (names_writeMembers written)

theorem changes_eq (distinct : (Fields.names document).Nodup)
    (read : Engagement.ofDocument (Catalog.shown document) = .ok engagement)
    (versioned : engagement.lastUpdate.isSome = true) (token : String) :
    changes engagement.toDocument false token = carried token engagement ++ engagement.extra := by
  have mutable : engagement.extra.filter (fun entry => !isImmutable false entry.1) =
      engagement.extra := by
    refine List.filter_eq_self.mpr fun entry member => ?_
    have unmodelled :=
      Engagement.proper_ofDocument read _ (List.mem_map.mpr ⟨entry, member, rfl⟩)
    have foreign : entry.1 ∉ serverFields := by
      intro server
      have modelled : ∀ field ∈ serverFields, field ∈ Engagement.memberNames := by decide
      exact unmodelled (modelled _ server)
    simp [isImmutable, foreign]
  have present : versionField ∈ Fields.names ((writeMembers Engagement.members engagement).filter
      fun entry => !isImmutable false entry.1) := by
    have inside : Member.optional "lastUpdate" .text Engagement.lastUpdate
        (fun r v => { r with lastUpdate := v }) ∈ Engagement.members := by simp [Engagement.members]
    have written := get?_writeMembers Engagement.schema.distinct inside engagement
    rw [← Fields.get?_isSome_iff, Fields.get?_filter _ (!isImmutable false ·)]
    change Fields.get? _ versionField = engagement.lastUpdate.map Value.string at written
    have mutable : isImmutable false versionField = false := by decide
    rw [mutable, Bool.not_false, if_pos rfl, written, Option.isSome_map]
    exact versioned
  rw [changes, toDocument_eq distinct read, List.filter_append, mutable]
  exact Fields.insert_append present _ _

theorem image_eq (distinct : (Fields.names document).Nodup)
    (read : Engagement.ofDocument (Catalog.shown document) = .ok engagement)
    (versioned : engagement.lastUpdate.isSome = true) (token : String) :
    image token engagement.toDocument false document =
      Store.assign (Fields.insertAll document (carried token engagement)) engagement.extra := by
  rw [image, changes_eq distinct read versioned, Store.assign_append,
    Store.assign_eq_insertAll segments_carried]

theorem get?_written (distinct : (Fields.names document).Nodup)
    (read : Engagement.ofDocument (Catalog.shown document) = .ok engagement)
    {member : Member Engagement} (inside : member ∈ Engagement.members) {rewrite : Value → Value}
    (renders : member.Renders rewrite) (visible : member.name ≠ idField) :
    Fields.get? (writeMembers Engagement.members engagement) member.name =
      (Fields.get? document member.name).bind fun value =>
        if value.isNull then none else some (rewrite value) := by
  rw [get?_writeMembers Engagement.schema.distinct inside,
    Engagement.write_ofDocument (Catalog.nodup_shown distinct) read inside renders,
    Catalog.get?_shown distinct, if_neg visible]

/-- Writing back what is modelled leaves a field as it was, unless it is a list or the version. -/
theorem get?_insertAll_carried (distinct : (Fields.names document).Nodup)
    (read : Engagement.ofDocument (Catalog.shown document) = .ok engagement) (token : String)
    {name : String} (other : name ≠ versionField) (single : name ∉ Engagement.listNames) :
    Fields.get? (Fields.insertAll document (carried token engagement)) name =
      Fields.get? document name := by
  rw [Fields.get?_insertAll document (nodup_carried token engagement), get?_carried, if_neg other]
  by_cases server : name ∈ serverFields
  · simp [isImmutable, server]
  · have mutable : isImmutable false name = false := by simp [isImmutable, server]
    rw [mutable, if_neg Bool.false_ne_true]
    by_cases modelled : name ∈ Engagement.memberNames
    · obtain ⟨member, inside, named⟩ := List.mem_map.mp modelled
      subst named
      have visible : member.name ≠ idField := by
        intro same
        rw [same] at server
        exact server (by decide)
      rcases Engagement.renders_id_of_mutable member inside with owned | list | renders
      · exact absurd owned server
      · exact absurd list single
      · rw [get?_written distinct read inside renders visible]
        cases Fields.get? document member.name with
        | none => rfl
        | some value => cases null : value.isNull <;> simp [null]
    · have unwritten : Fields.get? (writeMembers Engagement.members engagement) name = none :=
        (Fields.get?_eq_none_iff _ name).mpr fun written => modelled (names_writeMembers written)
      rw [unwritten, Option.none_or]

/-- A list that is not null is written as it was read. -/
theorem get?_insertAll_list (distinct : (Fields.names document).Nodup)
    (read : Engagement.ofDocument (Catalog.shown document) = .ok engagement) (token : String)
    {name : String} {names : List String} {rewrite : Value → Value}
    (listed : Engagement.Listed name names rewrite) (list : name ∈ Engagement.listNames) :
    Fields.get? (Fields.insertAll document (carried token engagement)) name =
      (Fields.get? document name).map fun value =>
        if value.isNull then value else rewrite value := by
  obtain ⟨member, inside, named, renders⟩ := listed.renders
  have apart : ∀ name ∈ Engagement.listNames,
      name ≠ versionField ∧ isImmutable false name = false ∧ name ≠ idField := by decide
  obtain ⟨other, mutable, visible⟩ := apart name list
  subst named
  rw [Fields.get?_insertAll document (nodup_carried token engagement), get?_carried, if_neg other,
    mutable, if_neg Bool.false_ne_true, get?_written distinct read inside renders visible]
  cases Fields.get? document member.name with
  | none => rfl
  | some value => cases null : value.isNull <;> simp [null]

/-- Where the document that is written reads again, no path leads below a list or the version. -/
theorem apart_of_readable
    (read : Engagement.ofDocument (Catalog.shown document) = .ok engagement) (base : Document)
    (readable : (Engagement.ofDocument (Store.assign base engagement.extra)).isOk = true)
    {name : String} (owned : name ∈ versionField :: Engagement.listNames) :
    ∀ entry ∈ engagement.extra, (segments entry.1).head? ≠ some name := by
  intro entry member begins
  have modelled : ∀ name ∈ versionField :: Engagement.listNames, name ∈ Engagement.memberNames := by
    decide
  have below : ∀ entry ∈ engagement.extra, (segments entry.1).head? = some name →
      (segments entry.1).tail ≠ [] := by
    intro entry member begins ended
    have same : entry.1 = name := by
      apply segments_injective
      rw [Engagement.segments_memberNames name (modelled name owned), segments_eq_cons begins,
        ended]
    exact Engagement.proper_ofDocument read _ (List.mem_map.mpr ⟨entry, member, rfl⟩)
      (same ▸ modelled name owned)
  obtain ⟨fields, object⟩ := Store.get?_assign_below ⟨entry, member, begins⟩ below base
  rw [Engagement.isOk_ofDocument, List.all_eq_true] at readable
  have fits := readable _ (Fields.mem_of_get? object)
  rw [Engagement.fits_object fields name owned] at fits
  cases fits

/-- The items of the lists hold nothing but what is modelled of them. -/
def KnowsItems (document : Document) : Prop :=
  ∀ entry ∈ Engagement.itemFields, ∀ items,
    Fields.get? document entry.1 = some (.array items) → ∀ item ∈ items, item.isKnown entry.2 = true

/-- A document stays the same when some of its fields are written into it by their names as
paths. -/
def LeadsBack (document : Document) (extra : Fields) : Prop :=
  (Value.object (Store.assign document extra)).same (.object document) = true

theorem fits_stored (distinct : (Fields.names document).Nodup)
    (read : Engagement.ofDocument (Catalog.shown document) = .ok engagement) {name : String}
    (visible : name ≠ idField) {value : Value} (stored : Fields.get? document name = some value) :
    Engagement.fits name value = true := by
  have readable := Engagement.isOk_ofDocument (Catalog.shown document)
  rw [read] at readable
  have found : Fields.get? (Catalog.shown document) name = some value := by
    rw [Catalog.get?_shown distinct, if_neg visible, stored]
  exact List.all_eq_true.mp readable.symm _ (Fields.mem_of_get? found)

theorem sameField_list_iff (distinct : (Value.object document).Distinct)
    (read : Engagement.ofDocument (Catalog.shown document) = .ok engagement) (token : String)
    {entry : String × List String} (inside : entry ∈ Engagement.itemFields) :
    Value.SameField (Fields.get? (Fields.insertAll document (carried token engagement)) entry.1)
        (Fields.get? document entry.1) ↔
      ∀ items, Fields.get? document entry.1 = some (.array items) →
        ∀ item ∈ items, item.isKnown entry.2 = true := by
  obtain ⟨rewrite, listed⟩ := Engagement.listed entry inside
  have list : entry.1 ∈ Engagement.listNames := List.mem_map.mpr ⟨entry, inside, rfl⟩
  have visible : entry.1 ≠ idField := by
    intro same
    rw [same] at list
    exact absurd list (by decide)
  rw [get?_insertAll_list distinct.names read token listed list]
  cases stored : Fields.get? document entry.1 with
  | none =>
      simp only [Option.map_none, reduceCtorEq, false_implies, implies_true, iff_true]
      exact Option.Rel.none
  | some value =>
      rw [Option.map_some]
      cases null : value.isNull with
      | true =>
          rw [if_pos rfl]
          refine iff_of_true (Option.Rel.some (Value.same_refl (distinct.get? stored))) ?_
          intro items same
          cases same
          cases null
      | false =>
          rw [if_neg Bool.false_ne_true]
          have same := listed.same_iff value (distinct.get? stored)
            (fits_stored distinct.names read visible stored) null
          constructor
          · intro alike items array
            cases alike with
            | some alike => exact same.mp alike items (Option.some.inj array)
          · intro known
            exact Option.Rel.some (same.mpr fun items array => known items (congrArg some array))

/-- A document that is written back and reads again keeps all but its version just when its lists
and its unmodelled fields do. -/
theorem sameApartFrom_image_iff (distinct : (Value.object document).Distinct)
    (read : Engagement.ofDocument (Catalog.shown document) = .ok engagement)
    (versioned : engagement.lastUpdate.isSome = true) (token : String)
    (readable : (Engagement.ofDocument
      (image token engagement.toDocument false document)).isOk = true) :
    sameApartFrom versionField (image token engagement.toDocument false document) document = true ↔
      KnowsItems document ∧ LeadsBack document engagement.extra := by
  have names := distinct.names
  have nodup : (Fields.names (image token engagement.toDocument false document)).Nodup :=
    Store.nodup_assign names _
  rw [sameApartFrom_iff nodup names, LeadsBack,
    Value.same_object_iff (Store.nodup_assign names _) names]
  rw [image_eq names read versioned] at readable ⊢
  -- No path reaches the lists and the version, and nothing but paths reaches any other field.
  have written : ∀ name ∈ versionField :: Engagement.listNames,
      Fields.get? (Store.assign (Fields.insertAll document (carried token engagement))
        engagement.extra) name =
        Fields.get? (Fields.insertAll document (carried token engagement)) name :=
    fun name owned => Store.get?_assign_of_apart (apart_of_readable read _ readable owned) _
  have back : ∀ name ∈ versionField :: Engagement.listNames,
      Fields.get? (Store.assign document engagement.extra) name = Fields.get? document name :=
    fun name owned => Store.get?_assign_of_apart (apart_of_readable read _ readable owned) _
  have others : ∀ name ∉ versionField :: Engagement.listNames,
      Fields.get? (Store.assign (Fields.insertAll document (carried token engagement))
        engagement.extra) name = Fields.get? (Store.assign document engagement.extra) name := by
    intro name foreign
    rw [List.mem_cons, not_or] at foreign
    exact Store.get?_assign_congr (get?_insertAll_carried names read token foreign.1 foreign.2) _
  constructor
  · intro same
    constructor
    · intro entry inside
      have list : entry.1 ∈ Engagement.listNames := List.mem_map.mpr ⟨entry, inside, rfl⟩
      have apart : versionField ∉ Engagement.listNames := by decide
      have alike := same entry.1 fun version => apart (version ▸ list)
      rw [written entry.1 (List.mem_cons_of_mem _ list)] at alike
      exact (sameField_list_iff distinct read token inside).mp alike
    · intro name
      by_cases owned : name ∈ versionField :: Engagement.listNames
      · rw [back name owned]
        exact Value.sameField_refl distinct name
      · rw [← others name owned]
        exact same name fun version => owned (version ▸ List.mem_cons_self)
  · rintro ⟨known, leads⟩ name other
    by_cases list : name ∈ Engagement.listNames
    · obtain ⟨entry, inside, named⟩ := List.mem_map.mp list
      subst named
      rw [written entry.1 (List.mem_cons_of_mem _ list)]
      exact (sameField_list_iff distinct read token inside).mpr (known entry inside)
    · rw [others name (by simp [other, list])]
      exact leads name

end ReadBack

/-- The documents before and after agree, apart from the version of the one at a place. -/
def SameApartFromVersion (place : Nat) (before after : List Document) : Prop :=
  after.length = before.length ∧ ∀ index document updated, before[index]? = some document →
    after[index]? = some updated →
      if index = place then sameApartFrom versionField updated document = true
      else updated = document

theorem sameApartFromVersion_set {place : Nat} {documents : List Document} {document : Document}
    (stored : documents[place]? = some document) (updated : Document) :
    SameApartFromVersion place documents (documents.set place updated) ↔
      sameApartFrom versionField updated document = true := by
  have bound := (List.getElem?_eq_some_iff.mp stored).1
  constructor
  · rintro ⟨_, same⟩
    have here := same place document updated stored (List.getElem?_set_self bound)
    rwa [if_pos rfl] at here
  · intro same
    refine ⟨List.length_set, fun index before after old new => ?_⟩
    split
    · rename_i here
      subst here
      rw [stored] at old
      rw [List.getElem?_set_self bound] at new
      cases old
      cases new
      exact same
    · rename_i elsewhere
      rw [List.getElem?_set_ne (Ne.symm elsewhere), old] at new
      exact (Option.some.inj new).symm

/-- An engagement that was read names the engagement it was read from. -/
theorem subject?_of_read {document : Document} {engagement : Engagement} {uuid : String}
    (distinct : (Fields.names document).Nodup)
    (read : Engagement.ofDocument (Catalog.shown document) = .ok engagement)
    (named : engagement.uuid.isSome = true)
    (offers : (Fields.get? document uuidField).any (·.offers uuid) = true) :
    subject? engagement.toDocument = some uuid := by
  have known : engagement.uuid = (Fields.get? document uuidField).bind Value.asString? := by
    rw [Engagement.uuid_ofDocument (Catalog.nodup_shown distinct) read,
      Catalog.get?_shown distinct]
    rfl
  rw [subject?_toDocument (Engagement.proper_ofDocument read)]
  cases stored : Fields.get? document uuidField with
  | none =>
      rw [stored] at offers
      cases offers
  | some value =>
      rw [stored] at offers known
      cases value with
      | string s =>
          have same : s = uuid := by simpa [Value.offers] using offers
          rw [known, ← same]
          rfl
      | _ =>
          rw [known] at named
          cases named

theorem target?_of_find? {candidate document : Document} {store : Store} {uuid version : String}
    (subject : subject? candidate = some uuid)
    (found : store.find? (.equals uuidField (.string uuid)) = some document)
    (current : Fields.get? document versionField = some (.string version)) :
    ∃ place, store.documents[place]? = some document ∧
      target? candidate version store.documents = some place := by
  obtain ⟨holds, place, bound, here, before⟩ := List.find?_eq_some_iff_getElem.mp found
  rw [Predicate.holds_equals_string document segments_uuidField] at holds
  refine ⟨place, List.getElem?_eq_some_iff.mpr ⟨bound, here⟩, ?_⟩
  rw [target?, subject, Option.bind_some]
  refine List.findIdx?_eq_some_iff_getElem.mpr ⟨bound, ?_, fun earlier early => ?_⟩
  · rw [condition_holds, here, holds, current]
    simp [Value.offers]
  · have not := before earlier early
    rw [Predicate.holds_equals_string _ segments_uuidField, Bool.not_eq_true'] at not
    rw [condition_holds, not, Bool.false_and]
    exact Bool.false_ne_true

/-- An engagement that is read and written back with success, while nothing else is written, keeps
the store but for its version just when nothing in the items of its lists is unknown or null, and
its unmodelled fields lead back by their names as paths to where they were. -/
theorem write_back_iff (store later : Store) (uuid version : String)
    (engagement updated : Engagement)
    (formed : ∀ document ∈ store.documents, (Value.object document).Distinct)
    (read : (store.perform (get uuid none)).1 = .ok engagement)
    (current : engagement.lastUpdate = some version)
    (unchanged : later.documents = store.documents)
    (accepted : (later.perform (update engagement version)).1 = .ok updated) :
    ∃ place document, store.find? (.equals uuidField (.string uuid)) = some document ∧
      store.documents[place]? = some document ∧
      (SameApartFromVersion place store.documents
          (later.perform (update engagement version)).2.documents ↔
        KnowsItems document ∧ LeadsBack document engagement.extra) := by
  obtain ⟨document, found, read⟩ := get_ok read
  have distinct := formed document (List.mem_of_find?_eq_some found)
  have offers := List.find?_some found
  rw [Predicate.holds_equals_string document segments_uuidField] at offers
  have named : engagement.uuid.isSome = true := by
    by_contra unnamed
    rw [Option.not_isSome_iff_eq_none] at unnamed
    rw [update, unnamed] at accepted
    cases accepted
  have stamped : Fields.get? document versionField = some (.string version) := by
    have known := Engagement.lastUpdate_ofDocument (Catalog.nodup_shown distinct.names) read
    rw [current, Catalog.get?_shown distinct.names] at known
    obtain ⟨value, here, text⟩ := Option.bind_eq_some_iff.mp known.symm
    cases value with
    | string s =>
        cases text
        exact here
    | _ => cases text
  have subject := subject?_of_read distinct.names read named offers
  obtain ⟨place, stored, target⟩ := target?_of_find? subject found stamped
  refine ⟨place, document, found, stored, ?_⟩
  cases (Request.update engagement version).outcome later with
  | kept documents failed => exact absurd (congrArg _ accepted) (failed updated)
  | wrote place' document' passed target' stored' documents answered =>
      change target? engagement.toDocument version later.documents = some place' at target'
      rw [unchanged] at target' stored' documents
      rw [target] at target'
      cases target'
      rw [stored] at stored'
      cases stored'
      change (later.perform (update engagement version)).2.documents = _ at documents
      rw [documents, sameApartFromVersion_set stored]
      have readable : (Engagement.ofDocument
          (image later.clock.issue.1 engagement.toDocument false document)).isOk = true := by
        change (later.perform (update engagement version)).1.map some = (Engagement.ofDocument
          (image _ engagement.toDocument false document)).map some at answered
        rw [accepted] at answered
        cases made : Engagement.ofDocument
            (image later.clock.issue.1 engagement.toDocument false document) with
        | error error =>
            rw [made] at answered
            cases answered
        | ok engagement => rfl
      exact sameApartFrom_image_iff distinct read (by rw [current]; rfl) _ readable

def categoryStore (category : Fields) : Store :=
  ⟨[[("_id", .string "a"), ("uuid", .string "u"), ("lastUpdate", .string "v"),
    ("categories", .array [.object category]), ("note", .string "n")]], 0, ⟨0, 0⟩, 5000, none⟩

def categorized (category : Category) : Engagement :=
  { Engagement.empty with
    uuid := some "u"
    lastUpdate := some "v"
    categories := some [category]
    extra := [("note", .string "n")] }

/-- An item that is known is kept, in whatever order its fields come. -/
theorem known_item_written_back :
    SameApartFromVersion 0 (categoryStore [("count", .int 3), ("name", .string "x")]).documents
      ((categoryStore [("count", .int 3), ("name", .string "x")]).perform
        (update (categorized ⟨some "x", some 3⟩) "v")).2.documents := by
  have item : (Value.object [("count", .int 3), ("name", .string "x")]).Distinct := by
    refine Value.Distinct.object (by decide) fun field member => ?_
    rcases List.mem_pair.mp member with rfl | rfl
    · exact Value.Distinct.number _
    · exact Value.Distinct.string _
  have formed : ∀ document ∈
      (categoryStore [("count", .int 3), ("name", .string "x")]).documents,
      (Value.object document).Distinct := by
    intro document member
    cases List.mem_singleton.mp member
    refine Value.Distinct.object (by decide) fun field member => ?_
    simp only [List.mem_cons, List.not_mem_nil, or_false] at member
    rcases member with rfl | rfl | rfl | rfl | rfl
    case inr.inr.inr.inl =>
      refine Value.Distinct.array fun other inside => ?_
      rw [List.mem_singleton.mp inside]
      exact item
    all_goals exact Value.Distinct.string _
  obtain ⟨place, document, found, stored, same⟩ :=
    write_back_iff (categoryStore [("count", .int 3), ("name", .string "x")])
      (categoryStore [("count", .int 3), ("name", .string "x")]) "u" "v"
      (categorized ⟨some "x", some 3⟩)
      { categorized ⟨some "x", some 3⟩ with
        storeId := some "a"
        lastUpdate := some (Version.token 1) }
      formed (by decide +kernel) rfl rfl (by decide +kernel)
  have first : place = 0 := Nat.lt_one_iff.mp (List.getElem?_eq_some_iff.mp stored).1
  subst first
  cases stored
  refine same.mpr ⟨?_, by unfold LeadsBack; decide +kernel⟩
  intro entry inside items held
  simp only [Engagement.itemFields, List.mem_cons, List.not_mem_nil, or_false] at inside
  rcases inside with rfl | rfl | rfl | rfl
  · cases held
    intro other inside
    rw [List.mem_singleton.mp inside]
    decide
  all_goals cases held

/-- What an item holds beside the known fields is lost. -/
theorem unknown_item_lost :
    ((categoryStore [("name", .string "x"), ("note", .string "y")]).perform (get "u" none)).1 =
        .ok (categorized ⟨some "x", none⟩) ∧
      ((categoryStore [("name", .string "x"), ("note", .string "y")]).perform
        (update (categorized ⟨some "x", none⟩) "v")).1.isOk = true ∧
      ¬SameApartFromVersion 0
        (categoryStore [("name", .string "x"), ("note", .string "y")]).documents
        ((categoryStore [("name", .string "x"), ("note", .string "y")]).perform
          (update (categorized ⟨some "x", none⟩) "v")).2.documents := by
  refine ⟨by decide +kernel, by decide +kernel, ?_⟩
  have after : ((categoryStore [("name", .string "x"), ("note", .string "y")]).perform
      (update (categorized ⟨some "x", none⟩) "v")).2.documents =
        (categoryStore [("name", .string "x"), ("note", .string "y")]).documents.set 0
          [("_id", .string "a"), ("uuid", .string "u"), ("lastUpdate", .string (Version.token 1)),
            ("categories", .array [.object [("name", .string "x")]]), ("note", .string "n")] := by
    decide +kernel
  rw [after, sameApartFromVersion_set rfl]
  decide +kernel

end Engagements.Registry
