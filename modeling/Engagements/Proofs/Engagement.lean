import Engagements.Engagement
import Engagements.Proofs.Codec
import Engagements.Proofs.Path

/-!
Engagements as they come out of a document, and as they go into one. Each modelled field is read
from the field of its name, and what is not modelled is kept.
-/
namespace Engagements

open Member Record

/-! The records inside an engagement. -/

theorem CreationDetails.schema : Schema CreationDetails.members where
  distinct := by decide
  apart := by
    simp only [CreationDetails.members, List.pairwise_cons, List.forall_mem_cons, List.not_mem_nil,
      false_implies, implies_true, and_true, List.Pairwise.nil]
    repeat' apply And.intro
    all_goals exact apart_optional _ _ _ _ (by intros; rfl) (by intros; rfl)

theorem Launch.schema : Schema Launch.members where
  distinct := by decide
  apart := by
    simp only [Launch.members, List.pairwise_cons, List.forall_mem_cons, List.not_mem_nil,
      false_implies, implies_true, and_true, List.Pairwise.nil]
    repeat' apply And.intro
    all_goals exact apart_optional _ _ _ _ (by intros; rfl) (by intros; rfl)

theorem StatusMessage.schema : Schema StatusMessage.members where
  distinct := by decide
  apart := by
    simp only [StatusMessage.members, List.pairwise_cons, List.forall_mem_cons, List.not_mem_nil,
      false_implies, implies_true, and_true, List.Pairwise.nil]
    exact apart_optional _ _ _ _ (by intros; rfl) (by intros; rfl)

theorem Status.schema : Schema Status.members where
  distinct := by decide
  apart := by
    simp only [Status.members, List.pairwise_cons, List.forall_mem_cons, List.not_mem_nil,
      false_implies, implies_true, and_true, List.Pairwise.nil]
    exact ⟨keeps_optional _ _ (by intros; rfl), keeps_defaulted _ _ _ (by intros; rfl)⟩

theorem Commit.schema : Schema Commit.members where
  distinct := by decide
  apart := by
    simp only [Commit.members, List.pairwise_cons, List.forall_mem_cons, List.not_mem_nil,
      false_implies, implies_true, and_true, List.Pairwise.nil]
    repeat' apply And.intro
    all_goals exact apart_optional _ _ _ _ (by intros; rfl) (by intros; rfl)

theorem Category.schema : Schema Category.members where
  distinct := by decide
  apart := by
    simp only [Category.members, List.pairwise_cons, List.forall_mem_cons, List.not_mem_nil,
      false_implies, implies_true, and_true, List.Pairwise.nil]
    exact apart_optional _ _ _ _ (by intros; rfl) (by intros; rfl)

theorem Artifact.schema : Schema Artifact.members where
  distinct := by decide
  apart := by
    simp only [Artifact.members, List.pairwise_cons, List.forall_mem_cons, List.not_mem_nil,
      false_implies, implies_true, and_true, List.Pairwise.nil]
    repeat' apply And.intro
    all_goals exact apart_optional _ _ _ _ (by intros; rfl) (by intros; rfl)

theorem HostingEnvironment.schema : Schema HostingEnvironment.members where
  distinct := by decide
  apart := by
    simp only [HostingEnvironment.members, List.pairwise_cons, List.forall_mem_cons,
      List.not_mem_nil, false_implies, implies_true, and_true, List.Pairwise.nil]
    repeat' apply And.intro
    all_goals exact apart_optional _ _ _ _ (by intros; rfl) (by intros; rfl)

theorem EngagementUser.schema : Schema EngagementUser.members where
  distinct := by decide
  apart := by
    simp only [EngagementUser.members, List.pairwise_cons, List.forall_mem_cons, List.not_mem_nil,
      false_implies, implies_true, and_true, List.Pairwise.nil]
    repeat' apply And.intro
    all_goals exact apart_optional _ _ _ _ (by intros; rfl) (by intros; rfl)

namespace Engagement

def memberNames : List String := members.map (·.name)

theorem schema : Schema members where
  distinct := by decide
  apart := by
    simp only [members, List.pairwise_cons, List.forall_mem_cons, List.not_mem_nil, false_implies,
      implies_true, and_true, List.Pairwise.nil]
    repeat' apply And.intro
    all_goals exact apart_optional _ _ _ _ (by intros; rfl) (by intros; rfl)

theorem keeps_extra : ∀ member ∈ members, member.Keeps extra := by
  simp only [members, List.forall_mem_cons, List.not_mem_nil, false_implies, implies_true, and_true]
  repeat' apply And.intro
  all_goals exact keeps_optional _ _ (by intros; rfl)

theorem write_empty : ∀ member ∈ members, member.write empty = none := by
  simp only [members, List.forall_mem_cons, List.not_mem_nil, false_implies, implies_true, and_true]
  repeat' apply And.intro
  all_goals rfl

theorem write_addExtra : ∀ member ∈ members, ∀ engagement name value,
    member.write (addExtra engagement name value) = member.write engagement := by
  simp only [members, List.forall_mem_cons, List.not_mem_nil, false_implies, implies_true, and_true]
  repeat' apply And.intro
  all_goals intros; rfl

theorem ofDocument_ok {document : Document} {engagement : Engagement}
    (read : ofDocument document = .ok engagement) :
    readFields members addExtra empty document = .ok engagement := by
  unfold ofDocument at read
  cases found : readFields members addExtra empty document with
  | error reason =>
      rw [found] at read
      cases read
  | ok other =>
      rw [found] at read
      cases read
      rfl

theorem ofDocument_error {document : Document} (failed : (ofDocument document).isOk = false) :
    ∃ reason, ofDocument document = .error (.serialization reason) := by
  unfold ofDocument at failed ⊢
  cases found : readFields members addExtra empty document with
  | error reason => exact ⟨reason, rfl⟩
  | ok engagement =>
      rw [found] at failed
      cases failed

/-- What a member writes again after a document has been read. -/
theorem write_ofDocument {document : Document} {engagement : Engagement}
    (distinct : (Fields.names document).Nodup) (read : ofDocument document = .ok engagement)
    {member : Member Engagement} (inside : member ∈ members) {rewrite : Value → Value}
    (renders : member.Renders rewrite) :
    member.write engagement =
      (Fields.get? document member.name).bind fun value =>
        if value.isNull then none else some (rewrite value) := by
  rw [write_readFields schema inside renders (write_addExtra member inside) distinct
    (ofDocument_ok read), write_empty member inside]
  cases Fields.get? document member.name <;> rfl

theorem extra_ofDocument {document : Document} {engagement : Engagement}
    (distinct : (Fields.names document).Nodup) (read : ofDocument document = .ok engagement) :
    engagement.extra = document.filter fun field => field.1 ∉ memberNames := by
  rw [view_readFields keeps_extra (fun _ _ _ => rfl) (ofDocument_ok read)]
  exact Fields.insertAll_of_nodup (Fields.nodup_filter distinct _)

/-- A text comes from a field that holds a text, and is absent where there is none. -/
theorem text_ofDocument {document : Document} {engagement : Engagement}
    (distinct : (Fields.names document).Nodup) (read : ofDocument document = .ok engagement)
    {name : String} {get : Engagement → Option String}
    (set : Engagement → Option String → Engagement)
    (inside : optional name .text get set ∈ members)
    (law : ∀ record field, get (set record field) = field) :
    get engagement = (Fields.get? document name).bind Value.asString? := by
  have wrote := write_ofDocument distinct read inside (renders_optional name .text law)
  change (get engagement).map Value.string = (Fields.get? document name).bind _ at wrote
  cases stored : Fields.get? document name with
  | none =>
      rw [stored] at wrote
      exact Option.map_eq_none_iff.mp wrote
  | some value =>
      rw [stored, Option.bind_some, Codec.exact_text value] at wrote
      cases value with
      | null => exact Option.map_eq_none_iff.mp wrote
      | string s =>
          obtain ⟨text, held, same⟩ := Option.map_eq_some_iff.mp wrote
          cases same
          exact held
      | _ =>
          obtain ⟨text, _, same⟩ := Option.map_eq_some_iff.mp wrote
          cases same

theorem uuid_ofDocument {document : Document} {engagement : Engagement}
    (distinct : (Fields.names document).Nodup) (read : ofDocument document = .ok engagement) :
    engagement.uuid = (Fields.get? document "uuid").bind Value.asString? :=
  text_ofDocument distinct read (fun r v => { r with uuid := v }) (by simp [members]) fun _ _ => rfl

theorem customerName_ofDocument {document : Document} {engagement : Engagement}
    (distinct : (Fields.names document).Nodup) (read : ofDocument document = .ok engagement) :
    engagement.customerName = (Fields.get? document "customerName").bind Value.asString? :=
  text_ofDocument distinct read (fun r v => { r with customerName := v }) (by simp [members])
    fun _ _ => rfl

theorem projectName_ofDocument {document : Document} {engagement : Engagement}
    (distinct : (Fields.names document).Nodup) (read : ofDocument document = .ok engagement) :
    engagement.projectName = (Fields.get? document "projectName").bind Value.asString? :=
  text_ofDocument distinct read (fun r v => { r with projectName := v }) (by simp [members])
    fun _ _ => rfl

theorem lastUpdate_ofDocument {document : Document} {engagement : Engagement}
    (distinct : (Fields.names document).Nodup) (read : ofDocument document = .ok engagement) :
    engagement.lastUpdate = (Fields.get? document "lastUpdate").bind Value.asString? :=
  text_ofDocument distinct read (fun r v => { r with lastUpdate := v }) (by simp [members])
    fun _ _ => rfl

theorem isLaunched_ofDocument {document : Document} {engagement : Engagement}
    (distinct : (Fields.names document).Nodup) (read : ofDocument document = .ok engagement) :
    engagement.isLaunched = (Fields.get? document "launch").any (!·.isNull) := by
  have inside : optional "launch" Launch.codec launch (fun r v => { r with launch := v }) ∈
      members := by simp [members]
  have wrote := write_ofDocument distinct read inside
    (renders_optional "launch" Launch.codec fun _ _ => rfl)
  change engagement.launch.map Launch.codec.write = (Fields.get? document "launch").bind _ at wrote
  have written : (engagement.launch.map Launch.codec.write).isSome = engagement.launch.isSome :=
    Option.isSome_map
  rw [isLaunched, ← written, wrote]
  cases Fields.get? document "launch" with
  | none => rfl
  | some value => by_cases null : value.isNull = true <;> simp [null]

/-- A candidate carries a path that goes on below a field. -/
def ReachesBelow (field : String) (candidate : Engagement) : Prop :=
  ∃ path ∈ Fields.names candidate.extra,
    (segments path).head? = some field ∧ (segments path).tail ≠ []

theorem mem_names_toDocument {engagement : Engagement} {name : String} :
    name ∈ Fields.names engagement.toDocument ↔
      name ∈ Fields.names (writeMembers members engagement) ∨
        name ∈ Fields.names engagement.extra :=
  Fields.mem_names_insertAll _ _ name

/-- What an engagement keeps beside its modelled fields has other names than they. -/
def Proper (engagement : Engagement) : Prop :=
  ∀ name ∈ Fields.names engagement.extra, name ∉ memberNames

theorem proper_ofDocument {document : Document} {engagement : Engagement}
    (read : ofDocument document = .ok engagement) : engagement.Proper := by
  intro name kept
  rw [view_readFields keeps_extra (fun _ _ _ => rfl) (ofDocument_ok read)] at kept
  obtain ⟨field, inside, same⟩ := List.mem_map.mp kept
  rcases Fields.mem_of_mem_insertAll inside with before | added
  · cases before
  · rw [← same]
    exact of_decide_eq_true (List.mem_filter.mp added).2

theorem nodup_toDocument (engagement : Engagement) :
    (Fields.names engagement.toDocument).Nodup :=
  Fields.nodup_insertAll (nodup_writeMembers schema.distinct engagement) _

theorem get?_toDocument {engagement : Engagement} (proper : engagement.Proper)
    {member : Member Engagement} (inside : member ∈ members) :
    Fields.get? engagement.toDocument member.name = member.write engagement := by
  have unshadowed : member.name ∉ Fields.names engagement.extra := by
    intro shadowed
    exact proper _ shadowed (List.mem_map.mpr ⟨member, inside, rfl⟩)
  rw [toDocument, Fields.get?_insertAll_of_absent _ unshadowed,
    get?_writeMembers schema.distinct inside]

theorem segments_memberNames : ∀ name ∈ memberNames, segments name = [name] := by decide

end Engagement

end Engagements
