import Engagements.Proofs.Codec.RoundTrip
import Engagements.Proofs.Engagement

/-!
Which documents read as engagements: those of which every modelled field does. What an engagement
writes for a field reads again, and the whole document reads as the engagement that wrote it.
-/
namespace Engagements

open Codec Member Record

/-! The records inside an engagement. -/

theorem restores_creationDetails (creationDetails : CreationDetails) :
    CreationDetails.codec.Restores creationDetails :=
  restores_codec CreationDetails.schema (by decide)
    (.cons (copies_text _ (fun _ => rfl) _) <|
      .cons (copies_text _ (fun _ => rfl) _) <|
      .cons (copies_text _ (fun _ => rfl) _) .nil) rfl

theorem restores_launch (launch : Launch) :
    Launch.codec.Restores launch :=
  restores_codec Launch.schema (by decide)
    (.cons (copies_text _ (fun _ => rfl) _) <|
      .cons (copies_text _ (fun _ => rfl) _) <|
      .cons (copies_text _ (fun _ => rfl) _) .nil) rfl

theorem restores_statusMessage (statusMessage : StatusMessage) :
    StatusMessage.codec.Restores statusMessage :=
  restores_codec StatusMessage.schema (by decide)
    (.cons (copies_text _ (fun _ => rfl) _) <|
      .cons (copies_text _ (fun _ => rfl) _) .nil) rfl

theorem restores_status (status : Status) :
    Status.codec.Restores status := by
  refine restores_codec Status.schema (by decide)
    (.cons (copies_text _ (fun _ => rfl) _) <|
      .cons (copies_defaulted _ (fun _ => rfl) ?_ ?_) .nil) rfl
  · intro messages others none none'
    rw [List.isEmpty_iff.mp none, List.isEmpty_iff.mp none']
  · exact restores_listOf fun message _ => restores_statusMessage message

theorem restores_commit (commit : Commit) :
    Commit.codec.Restores commit :=
  restores_codec Commit.schema (by decide)
    (.cons (copies_text _ (fun _ => rfl) _) <|
      .cons (copies_text _ (fun _ => rfl) _) <|
      .cons (copies_text _ (fun _ => rfl) _) <|
      .cons (copies_text _ (fun _ => rfl) _) <|
      .cons (copies_text _ (fun _ => rfl) _) .nil) rfl

theorem restores_category (category : Category)
    (bounded : ∀ count, category.count = some count → Width.isSigned 64 count = true) :
    Category.codec.Restores category :=
  restores_codec Category.schema (by decide)
    (.cons (copies_text _ (fun _ => rfl) _) <|
      .cons (copies_optional _ (fun _ => rfl) fun count present =>
        restores_signed64 (bounded count present)) .nil) rfl

theorem restores_artifact (artifact : Artifact) :
    Artifact.codec.Restores artifact :=
  restores_codec Artifact.schema (by decide)
    (.cons (copies_text _ (fun _ => rfl) _) <|
      .cons (copies_text _ (fun _ => rfl) _) <|
      .cons (copies_text _ (fun _ => rfl) _) <|
      .cons (copies_text _ (fun _ => rfl) _) .nil) rfl

theorem restores_hostingEnvironment (hostingEnvironment : HostingEnvironment) :
    HostingEnvironment.codec.Restores hostingEnvironment :=
  restores_codec HostingEnvironment.schema (by decide)
    (.cons (copies_text _ (fun _ => rfl) _) <|
      .cons (copies_text _ (fun _ => rfl) _) <|
      .cons (copies_text _ (fun _ => rfl) _) <|
      .cons (copies_text _ (fun _ => rfl) _) <|
      .cons (copies_text _ (fun _ => rfl) _) <|
      .cons (copies_text _ (fun _ => rfl) _) .nil) rfl

theorem restores_engagementUser (engagementUser : EngagementUser) :
    EngagementUser.codec.Restores engagementUser :=
  restores_codec EngagementUser.schema (by decide)
    (.cons (copies_text _ (fun _ => rfl) _) <|
      .cons (copies_text _ (fun _ => rfl) _) <|
      .cons (copies_text _ (fun _ => rfl) _) <|
      .cons (copies_text _ (fun _ => rfl) _) .nil) rfl

namespace Engagement

/-- The integers of an engagement have 64 bits. -/
structure Bounded (engagement : Engagement) : Prop where
  projectId : ∀ id, engagement.projectId = some id → Width.isSigned 64 id = true
  counts : ∀ categories, engagement.categories = some categories → ∀ category ∈ categories,
    ∀ count, category.count = some count → Width.isSigned 64 count = true

/-- The members copy all that is modelled of an engagement. -/
theorem copies {engagement : Engagement} (bounded : engagement.Bounded) :
    ∃ copies,
      List.Forall₂ (fun member copy => Member.Copies member engagement copy) members copies ∧
      ∀ target : Engagement, copies.foldl (fun record copy => copy record) target =
        { engagement with extra := target.extra } := by
  refine ⟨_,
    .cons (copies_text _ (fun _ => rfl) _) <|
    .cons (copies_text _ (fun _ => rfl) _) <|
    .cons (copies_optional _ (fun _ => rfl) fun id present =>
      restores_signed64 (bounded.projectId id present)) <|
    .cons (copies_text _ (fun _ => rfl) _) <|
    .cons (copies_text _ (fun _ => rfl) _) <|
    .cons (copies_text _ (fun _ => rfl) _) <|
    .cons (copies_text _ (fun _ => rfl) _) <|
    .cons (copies_text _ (fun _ => rfl) _) <|
    .cons (copies_text _ (fun _ => rfl) _) <|
    .cons (copies_text _ (fun _ => rfl) _) <|
    .cons (copies_text _ (fun _ => rfl) _) <|
    .cons (copies_text _ (fun _ => rfl) _) <|
    .cons (copies_text _ (fun _ => rfl) _) <|
    .cons (copies_optional _ (fun _ => rfl) fun _ _ => restores_flag _) <|
    .cons (copies_text _ (fun _ => rfl) _) <|
    .cons (copies_optional _ (fun _ => rfl) fun _ _ => restores_creationDetails _) <|
    .cons (copies_optional _ (fun _ => rfl) fun _ _ => restores_launch _) <|
    .cons (copies_optional _ (fun _ => rfl) fun _ _ => restores_status _) <|
    .cons (copies_optional _ (fun _ => rfl) fun _ _ =>
      restores_listOf fun commit _ => restores_commit commit) <|
    .cons (copies_optional _ (fun _ => rfl) fun categories present =>
      restores_listOf fun category inside =>
        restores_category category (bounded.counts categories present category inside)) <|
    .cons (copies_optional _ (fun _ => rfl) fun _ _ =>
      restores_listOf fun artifact _ => restores_artifact artifact) <|
    .cons (copies_optional _ (fun _ => rfl) fun _ _ =>
      restores_listOf fun hostingEnvironment _ => restores_hostingEnvironment hostingEnvironment) <|
    .cons (copies_optional _ (fun _ => rfl) fun _ _ =>
      restores_listOf fun engagementUser _ => restores_engagementUser engagementUser) .nil,
    fun _ => rfl⟩

theorem steady : ∀ member ∈ members, member.Steady := by
  simp only [members, List.forall_mem_cons, List.not_mem_nil, false_implies, implies_true, and_true]
  repeat' apply And.intro
  all_goals exact steady_optional _ _ _ _

/-- Whether a value can be read into the modelled field of a name; any value can be kept in a
field that is not modelled. -/
def fits (name : String) (value : Value) : Bool :=
  (readField members addExtra empty name value).isOk

theorem isOk_ofDocument (document : Document) :
    (ofDocument document).isOk = document.all fun field => fits field.1 field.2 := by
  have each := isOk_readFields steady addExtra empty empty document
  unfold ofDocument fits
  rw [← each]
  cases readFields members addExtra empty document <;> rfl

theorem fits_of_not_mem {name : String} (unmodelled : name ∉ memberNames) (value : Value) :
    fits name value = true := by
  rw [fits, readField_of_not_mem unmodelled]
  rfl

/-- What is written for a member can be read again. -/
theorem fits_of_written {engagement : Engagement} (bounded : engagement.Bounded)
    {field : String × Value} (written : field ∈ writeMembers members engagement) :
    fits field.1 field.2 = true := by
  obtain ⟨member, inside, wrote⟩ := List.mem_filterMap.mp written
  obtain ⟨value, present, made⟩ := Option.map_eq_some_iff.mp wrote
  obtain ⟨copies, each, _⟩ := copies bounded
  obtain ⟨copy, copied⟩ := copies_of_mem each inside
  rw [← made, fits, readField_of_mem schema.distinct inside, copied.written value present]
  rfl

/-- What is not modelled follows the written members as it is kept. -/
theorem toDocument_of_proper {engagement : Engagement} (proper : engagement.Proper)
    (named : (Fields.names engagement.extra).Nodup) :
    engagement.toDocument = writeMembers members engagement ++ engagement.extra := by
  refine Fields.insertAll_of_nodup ?_
  rw [Fields.names, List.map_append]
  refine List.nodup_append.mpr ⟨nodup_writeMembers schema.distinct engagement, named, ?_⟩
  intro name written other kept same
  exact proper other kept (same ▸ names_writeMembers written)

theorem foldl_addExtra (engagement : Engagement) (fields : Fields) :
    fields.foldl (fun record field => addExtra record field.1 field.2) engagement =
      { engagement with extra := Fields.insertAll engagement.extra fields } := by
  induction fields generalizing engagement with
  | nil => rfl
  | cons field fields ih => exact ih (addExtra engagement field.1 field.2)

/-- An engagement is read as it was written, just when none of the fields that it keeps beside its
modelled ones has the name of one of them. -/
theorem ofDocument_toDocument_iff {engagement : Engagement} (bounded : engagement.Bounded)
    (named : (Fields.names engagement.extra).Nodup) :
    ofDocument engagement.toDocument = .ok engagement ↔ engagement.Proper := by
  refine ⟨proper_ofDocument, fun proper => ?_⟩
  obtain ⟨copies, each, whole⟩ := copies bounded
  have modelled : copies.foldl (fun record copy => copy record) empty =
      { engagement with extra := [] } := whole empty
  have kept : Fields.insertAll [] engagement.extra = engagement.extra :=
    Fields.insertAll_of_nodup named
  have read : readFields members addExtra empty engagement.toDocument = .ok engagement := by
    calc readFields members addExtra empty engagement.toDocument
      _ = readFields members addExtra empty
            (writeMembers members engagement ++ engagement.extra) := by
          rw [toDocument_of_proper proper named]
      _ = readFields members addExtra { engagement with extra := [] } engagement.extra := by
          rw [readFields_writeMembers schema.distinct (fun _ inside => inside) schema.apart addExtra
            each write_empty, modelled]
      _ = .ok (engagement.extra.foldl (fun record field => addExtra record field.1 field.2)
            { engagement with extra := [] }) :=
          readFields_unmodelled addExtra proper _
      _ = .ok engagement := by rw [foldl_addExtra, kept]
  rw [ofDocument, read]
  rfl

/-- Lists without items, a status without messages, a launch without a word about it, and names
that look like paths. -/
def sparse : Engagement :=
  { empty with
    projectId := some (-9223372036854775808)
    launch := some ⟨none, none, none⟩
    status := some ⟨none, []⟩
    commits := some []
    categories := some [⟨none, some 9223372036854775807⟩, ⟨some "", none⟩]
    extra := [("launch.by", .null), ("tags", .array [.array [], .object [("_id", .null)]])] }

theorem ofDocument_toDocument_sparse : ofDocument sparse.toDocument = .ok sparse := by
  refine (ofDocument_toDocument_iff ⟨?_, ?_⟩ (by decide)).mpr ?_
  · intro id present
    cases present
    decide
  · intro categories present
    cases present
    decide
  · intro name kept
    revert name
    decide

end Engagement

end Engagements
