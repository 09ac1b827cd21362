import Engagements.Proofs.Registry.SubDomains

/-!
Looking up the engagement that owns a subdomain. What is asked for is a text, of which every
character stands for itself in any case.
-/
namespace Engagements

/-- Texts of equal length whose characters are equal up to case, one by one. -/
def Text.Alike (first second : String) : Prop :=
  List.Forall₂ (fun c d => Unicode.foldCase c = Unicode.foldCase d) first.toList second.toList

theorem Text.alike_iff (first second : String) :
    Alike first second ↔ caseFolded first = caseFolded second := by
  rw [Alike, caseFolded, caseFolded, ← List.forall₂_eq_eq_eq, List.forall₂_map_left_iff,
    List.forall₂_map_right_iff]

instance (first second : String) : Decidable (Text.Alike first second) :=
  decidable_of_iff _ (Text.alike_iff first second).symm

theorem Codec.isOk_of_mapM {α : Type} {codec : Codec α} {items : List Value}
    (read : (items.mapM codec.read).isOk = true) :
    ∀ item ∈ items, (codec.read item).isOk = true := by
  induction items with
  | nil => exact fun _ member => nomatch member
  | cons item items ih =>
      rw [List.mapM_cons] at read
      cases first : codec.read item with
      | error reason =>
          rw [first] at read
          cases read
      | ok a =>
          rw [first] at read
          refine List.forall_mem_cons.mpr ⟨by rw [first]; rfl, ih ?_⟩
          cases rest : items.mapM codec.read with
          | error reason =>
              rw [rest] at read
              cases read
          | ok list => rfl

theorem HostingEnvironment.steady : ∀ member ∈ members, member.Steady := by
  simp only [members, List.forall_mem_cons, List.not_mem_nil, false_implies, implies_true, and_true]
  repeat' apply And.intro
  all_goals exact Member.steady_optional _ _ _ _

/-- A hosting environment has no list in the place of its subdomain. -/
theorem HostingEnvironment.not_array_of_readable {item : Value}
    (readable : (codec.read item).isOk = true) (items : List Value) :
    item.field? "ocpSubDomain" ≠ some (.array items) := by
  intro held
  cases item with
  | object fields =>
      change (Record.readFields members _ _ fields).isOk = true at readable
      rw [Record.isOk_readFields steady _ _ ⟨none, none, none, none, none, none⟩,
        List.all_eq_true] at readable
      cases readable _ (Fields.mem_of_get? held)
  | _ => cases held

namespace Registry

open Revision

theorem resolve_subDomainField (document : Document) :
    (Value.object document).resolve Catalog.subDomainField =
      (Fields.get? document hostingField).toList.flatMap (·.step "ocpSubDomain") := by
  rw [Value.resolve, segments_subDomainField]
  simp [Value.resolveSegments, Value.step, Value.field?]

theorem not_array_at_subDomainField {document : Document}
    (readable : (Engagement.ofDocument document).isOk = true) (items : List Value) :
    .array items ∉ (Value.object document).resolve Catalog.subDomainField := by
  intro reached
  rw [resolve_subDomainField] at reached
  obtain ⟨value, stored, below⟩ := List.mem_flatMap.mp reached
  have held := Option.mem_toList.mp stored
  rw [Engagement.isOk_ofDocument, List.all_eq_true] at readable
  have fits := readable _ (Fields.mem_of_get? held)
  cases value with
  | array environments =>
      obtain ⟨item, inside, leads⟩ := List.mem_filterMap.mp below
      have each : (environments.mapM HostingEnvironment.codec.read).isOk = true := by
        change ((environments.mapM HostingEnvironment.codec.read).map _).isOk = true at fits
        cases read : environments.mapM HostingEnvironment.codec.read with
        | error reason =>
            rw [read] at fits
            cases fits
        | ok list => rfl
      exact HostingEnvironment.not_array_of_readable (Codec.isOk_of_mapM each item inside) items
        leads
  | object fields => cases fits
  | _ => cases below

/-- A document is another one than that left aside, and has a text at the path of subdomains that
is the given one up to case. -/
def Owns (subDomain : String) (aside : Option String) (document : Document) : Prop :=
  (∀ uuid ∈ aside, uuidOf document ≠ some uuid) ∧
    ∃ value ∈ (Value.object document).resolve Catalog.subDomainField, ∃ text ∈ value.asString?,
      Text.Alike text subDomain

instance (subDomain : String) (aside : Option String) (document : Document) :
    Decidable (Owns subDomain aside document) :=
  inferInstanceAs (Decidable (_ ∧ _))

/-- The condition by which the owner of a subdomain is looked up. -/
def ownership (subDomain : String) : Option String → Predicate
  | some uuid => takenFrom uuid subDomain
  | none => .like Catalog.subDomainField (Pattern.exactly subDomain)

theorem findBySubDomain_eq (subDomain : String) (aside : Option String) :
    Catalog.findBySubDomain subDomain aside =
      Catalog.findFirst (ownership subDomain aside) none := by
  cases aside <;> rfl

/-- In a document that reads as an engagement, the pattern of a subdomain looks at the texts that
its path reaches. -/
theorem holds_like_subDomain {document : Document}
    (readable : (Engagement.ofDocument document).isOk = true) (subDomain : String) :
    (Predicate.like Catalog.subDomainField (Pattern.exactly subDomain)).holds (.object document) =
        true ↔
      ∃ value ∈ (Value.object document).resolve Catalog.subDomainField, ∃ text ∈ value.asString?,
        Text.Alike text subDomain := by
  simp only [Predicate.holds_like_exactly, Value.filterMap_candidates, List.mem_flatMap,
    Text.alike_iff]
  constructor
  · rintro ⟨text, ⟨value, reached, offered⟩, same⟩
    refine ⟨value, reached, text, ?_, same⟩
    cases value with
    | array items => exact absurd reached (not_array_at_subDomainField readable items)
    | _ => exact Option.mem_toList.mp offered
  · rintro ⟨value, reached, text, read, same⟩
    refine ⟨text, ⟨value, reached, ?_⟩, same⟩
    cases value with
    | array items => cases read
    | _ => exact Option.mem_toList.mpr read

theorem holds_ownership {document : Document}
    (readable : (Engagement.ofDocument document).isOk = true) (subDomain : String)
    (aside : Option String) :
    (ownership subDomain aside).holds (.object document) = true ↔
      Owns subDomain aside document := by
  cases aside with
  | none => simp [ownership, Owns, holds_like_subDomain readable]
  | some uuid =>
      have other : (Predicate.equals uuidField (.string uuid)).holds (.object document) = true ↔
          uuidOf document = some uuid := by
        rw [Predicate.holds_equals_string document segments_uuidField]
        exact offers_iff (not_array_of_readable readable fun _ => rfl) uuid
      rw [ownership, takenFrom, Predicate.holds_and, Predicate.holds_negate, Bool.and_eq_true,
        Bool.not_eq_true', Bool.eq_false_iff, ne_eq, other, holds_like_subDomain readable, Owns]
      simp [and_comm]

theorem isOk_shown {document : Document} (distinct : (Fields.names document).Nodup)
    (readable : (Engagement.ofDocument document).isOk = true) :
    ∃ engagement, Engagement.ofDocument (Catalog.shown document) = .ok engagement := by
  have all : (Engagement.ofDocument (Catalog.shown document)).isOk = true := by
    rw [Engagement.isOk_ofDocument, List.all_eq_true] at readable ⊢
    intro field member
    have left := (Fields.erase_perm distinct idField).subset member
    exact readable field (List.mem_of_mem_filter left)
  cases read : Engagement.ofDocument (Catalog.shown document) with
  | error error =>
      rw [read] at all
      cases all
  | ok engagement => exact ⟨engagement, rfl⟩

/-- Where every document reads as an engagement, the lookup of a subdomain finds the first document
that has it and is not left aside, and nothing where there is none. The subdomain may be any text:
each of its characters stands for itself, in any case, and for nothing else. -/
theorem findBySubDomain_is_exact (store : Store) (struck : store.outage = none)
    (named : ∀ document ∈ store.documents, (Fields.names document).Nodup)
    (readable : ∀ document ∈ store.documents, (Engagement.ofDocument document).isOk = true)
    (subDomain : String) (aside : Option String) :
    (∀ before document after, store.documents = before ++ document :: after →
        Owns subDomain aside document → (∀ earlier ∈ before, ¬Owns subDomain aside earlier) →
          ∃ engagement, Engagement.ofDocument (Catalog.shown document) = .ok engagement ∧
            store.perform (Catalog.findBySubDomain subDomain aside) =
              (.ok (some engagement), store)) ∧
      ((∀ document ∈ store.documents, ¬Owns subDomain aside document) →
        store.perform (Catalog.findBySubDomain subDomain aside) = (.ok none, store)) := by
  have holds : ∀ document ∈ store.documents,
      ((ownership subDomain aside).holds (.object document) = true ↔
        Owns subDomain aside document) :=
    fun document member => holds_ownership (readable document member) subDomain aside
  rw [findBySubDomain_eq, Catalog.perform_findFirst, struck]
  constructor
  · intro before document after split owns first
    have stored : document ∈ store.documents := by simp [split]
    have found : store.find? (ownership subDomain aside) = some document := by
      refine List.find?_eq_some_iff_append.mpr ⟨(holds document stored).mpr owns, before, after,
        split, fun earlier member => ?_⟩
      have stored' : earlier ∈ store.documents := by simp [split, member]
      simpa using mt (holds earlier stored').mp (first earlier member)
    obtain ⟨engagement, read⟩ := isOk_shown (named document stored) (readable document stored)
    exact ⟨engagement, read, by simp only [found, read]; rfl⟩
  · intro none
    have missing : store.find? (ownership subDomain aside) = .none :=
      List.find?_eq_none.mpr fun document member =>
        mt (holds document member).mp (none document member)
    simp only [missing]

def hosting (uuid subDomain : String) : Document :=
  [("_id", .string uuid), ("uuid", .string uuid),
    ("hostingEnvironments", .array [.object [("ocpSubDomain", .string subDomain)]])]

/-- In the first subdomain a letter stands where the other two have a dot. -/
def dottedStore : Store :=
  ⟨[hosting "u" "axb", hosting "v" "A.B", hosting "w" "a.b"], 0, ⟨0, 0⟩, 5000, none⟩

theorem dots_are_looked_up :
    (∃ engagement, engagement.uuid = some "v" ∧
        dottedStore.perform (Catalog.findBySubDomain "a.b" none) =
          (.ok (some engagement), dottedStore)) ∧
      (∃ engagement, engagement.uuid = some "w" ∧
        dottedStore.perform (Catalog.findBySubDomain "a.b" (some "v")) =
          (.ok (some engagement), dottedStore)) ∧
        dottedStore.perform (Catalog.findBySubDomain "a.b\n" none) = (.ok none, dottedStore) := by
  have exact_of := findBySubDomain_is_exact dottedStore rfl (by decide) (by decide)
  refine ⟨?_, ?_, (exact_of "a.b\n" none).2 (by decide +kernel)⟩
  · obtain ⟨engagement, read, found⟩ := (exact_of "a.b" none).1 [hosting "u" "axb"]
      (hosting "v" "A.B") [hosting "w" "a.b"] rfl (by decide +kernel) (by decide +kernel)
    cases read
    exact ⟨_, rfl, found⟩
  · obtain ⟨engagement, read, found⟩ := (exact_of "a.b" (some "v")).1
      [hosting "u" "axb", hosting "v" "A.B"] (hosting "w" "a.b") [] rfl (by decide +kernel)
      (by decide +kernel)
    cases read
    exact ⟨_, rfl, found⟩

end Registry

end Engagements
