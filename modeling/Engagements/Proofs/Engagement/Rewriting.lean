import Engagements.Proofs.Codec.Rewriting
import Engagements.Proofs.Engagement.RoundTrip
import Engagements.Revision

/-!
What an engagement that was read writes again of each field. Texts and flags are written as they
were; the items of lists lose what their records do not know.
-/
namespace Engagements

open Codec Member Record

theorem faithful_category : Category.codec.Faithful (Category.members.map (·.name)) := by
  refine faithful_codec _ Category.schema (by decide) ?_
  simp only [Category.members, List.forall_mem_cons, List.not_mem_nil, false_implies, implies_true,
    and_true]
  exact ⟨renders_exact _ exact_text fun _ _ => rfl, renders_exact _ exact_signed64 fun _ _ => rfl⟩

theorem faithful_artifact : Artifact.codec.Faithful (Artifact.members.map (·.name)) := by
  refine faithful_codec _ Artifact.schema (by decide) ?_
  simp only [Artifact.members, List.forall_mem_cons, List.not_mem_nil, false_implies, implies_true,
    and_true]
  repeat' apply And.intro
  all_goals exact renders_exact _ exact_text fun _ _ => rfl

theorem faithful_hostingEnvironment :
    HostingEnvironment.codec.Faithful (HostingEnvironment.members.map (·.name)) := by
  refine faithful_codec _ HostingEnvironment.schema (by decide) ?_
  simp only [HostingEnvironment.members, List.forall_mem_cons, List.not_mem_nil, false_implies,
    implies_true, and_true]
  repeat' apply And.intro
  all_goals exact renders_exact _ exact_text fun _ _ => rfl

theorem faithful_engagementUser :
    EngagementUser.codec.Faithful (EngagementUser.members.map (·.name)) := by
  refine faithful_codec _ EngagementUser.schema (by decide) ?_
  simp only [EngagementUser.members, List.forall_mem_cons, List.not_mem_nil, false_implies,
    implies_true, and_true]
  repeat' apply And.intro
  all_goals exact renders_exact _ exact_text fun _ _ => rfl

namespace Engagement

/-- The lists that a client writes, with the names that their items know. -/
def itemFields : List (String × List String) :=
  [("categories", Category.members.map (·.name)), ("artifacts", Artifact.members.map (·.name)),
    ("hostingEnvironments", HostingEnvironment.members.map (·.name)),
    ("engagementUsers", EngagementUser.members.map (·.name))]

def listNames : List String := itemFields.map Prod.fst

/-- What a client writes that is no list is written as it was read. -/
theorem renders_id_of_mutable : ∀ member ∈ members,
    member.name ∈ Revision.serverFields ∨ member.name ∈ listNames ∨ member.Renders id := by
  simp only [members, List.forall_mem_cons, List.not_mem_nil, false_implies, implies_true, and_true]
  repeat' apply And.intro
  all_goals first
    | exact Or.inl (by decide)
    | exact Or.inr (Or.inl (by decide))
    | exact Or.inr (Or.inr (renders_exact _ exact_text fun _ _ => rfl))
    | exact Or.inr (Or.inr (renders_exact _ exact_flag fun _ _ => rfl))

/-- A list that is read and written again. -/
structure Listed (field : String) (names : List String) (rewrite : Value → Value) : Prop where
  renders : ∃ member ∈ members, member.name = field ∧ member.Renders rewrite
  same_iff : ∀ value : Value, value.Distinct → fits field value = true → value.isNull = false →
    ((rewrite value).same value = true ↔
      ∀ items, value = .array items → ∀ item ∈ items, item.isKnown names = true)

theorem listed_optional {α : Type} {field : String} {names : List String} {codec : Codec α}
    (get : Engagement → Option (List α)) (set : Engagement → Option (List α) → Engagement)
    (inside : optional field (.listOf codec) get set ∈ members)
    (law : ∀ record list, get (set record list) = list) (faithful : codec.Faithful names) :
    Listed field names (listOf codec).rewrite where
  renders := ⟨_, inside, rfl, renders_optional field _ law⟩
  same_iff := by
    intro value distinct fits present
    have named : (optional field (listOf codec) get set).name = field := rfl
    rw [Engagement.fits, ← named, readField_of_mem schema.distinct inside] at fits
    simp only [Member.optional, present, Bool.false_eq_true, if_false] at fits
    apply same_rewrite_listOf_iff faithful distinct
    cases read : (listOf codec).read value with
    | error reason =>
        rw [read] at fits
        cases fits
    | ok list => rfl

theorem listed : ∀ entry ∈ itemFields, ∃ rewrite, Listed entry.1 entry.2 rewrite := by
  simp only [itemFields, List.forall_mem_cons, List.not_mem_nil, false_implies, implies_true,
    and_true]
  refine ⟨⟨_, listed_optional categories (fun r v => { r with categories := v }) (by simp [members])
    (fun _ _ => rfl) faithful_category⟩, ⟨_, listed_optional artifacts
    (fun r v => { r with artifacts := v }) (by simp [members]) (fun _ _ => rfl) faithful_artifact⟩,
    ⟨_, listed_optional hostingEnvironments (fun r v => { r with hostingEnvironments := v })
    (by simp [members]) (fun _ _ => rfl) faithful_hostingEnvironment⟩, ⟨_, listed_optional
    engagementUsers (fun r v => { r with engagementUsers := v }) (by simp [members])
    (fun _ _ => rfl) faithful_engagementUser⟩⟩

/-- No list and no version is read from an object. -/
theorem fits_object (fields : Fields) :
    ∀ name ∈ Revision.versionField :: listNames, fits name (.object fields) = false := by
  intro name member
  simp only [listNames, itemFields, List.map_cons, List.map_nil, List.mem_cons, List.not_mem_nil,
    or_false] at member
  rcases member with rfl | rfl | rfl | rfl | rfl <;> rfl

end Engagement

end Engagements
