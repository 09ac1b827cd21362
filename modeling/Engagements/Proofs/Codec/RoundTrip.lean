import Engagements.Proofs.Codec
import Mathlib.Data.List.Forall2

/-!
Records are read as they were written: each member copies its own field, and together they copy
the record.
-/
namespace Engagements

namespace Codec

variable {α : Type}

/-- A value is read as it was written, and it is not written as a null. -/
structure Restores (codec : Codec α) (a : α) : Prop where
  read_write : codec.read (codec.write a) = .ok a
  present : (codec.write a).isNull = false

theorem restores_text (s : String) : text.Restores s := ⟨rfl, rfl⟩

theorem restores_flag (b : Bool) : flag.Restores b := ⟨rfl, rfl⟩

theorem restores_signed64 {n : Int} (fits : Width.isSigned 64 n = true) : signed64.Restores n where
  read_write := by simp only [signed64, Value.int, integerOf, fits, if_true]
  present := rfl

theorem restores_listOf {codec : Codec α} {items : List α}
    (each : ∀ item ∈ items, codec.Restores item) : (listOf codec).Restores items where
  read_write := by
    change (items.map codec.write).mapM codec.read = .ok items
    induction items with
    | nil => rfl
    | cons head tail ih =>
        have rest := ih fun item member => each item (List.mem_cons_of_mem _ member)
        rw [List.map_cons, List.mapM_cons, (each head List.mem_cons_self).read_write, rest]
        rfl
  present := rfl

end Codec

namespace Member

variable {σ α : Type}

/-- What the member has written of one record, it reads into another one. A field that it leaves
out is taken as it is in a record that has nothing to write for it. -/
structure Copies (member : Member σ) (source : σ) (copy : σ → σ) : Prop where
  written : ∀ value, member.write source = some value →
    ∀ target, member.read target value = .ok (copy target)
  absent : member.write source = none →
    ∀ target, member.write target = none → copy target = target

theorem copies_optional (name : String) {codec : Codec α} {get : σ → Option α}
    {set : σ → Option α → σ} (law : ∀ record, set record (get record) = record) {source : σ}
    (restores : ∀ a, get source = some a → codec.Restores a) :
    (optional name codec get set).Copies source fun target => set target (get source) where
  written := by
    intro value wrote target
    obtain ⟨a, present, made⟩ := Option.map_eq_some_iff.mp wrote
    obtain ⟨read, shown⟩ := restores a present
    subst made
    simp only [optional, shown, Bool.false_eq_true, if_false, read, present]
    rfl
  absent := by
    intro wrote target blank
    rw [Option.map_eq_none_iff.mp wrote, ← Option.map_eq_none_iff.mp blank, law]

theorem copies_text (name : String) {get : σ → Option String} {set : σ → Option String → σ}
    (law : ∀ record, set record (get record) = record) (source : σ) :
    (optional name Codec.text get set).Copies source fun target => set target (get source) :=
  copies_optional name law fun s _ => Codec.restores_text s

theorem copies_defaulted (name : String) {codec : Codec α} {get : σ → α} {set : σ → α → σ}
    {hidden : α → Bool} (law : ∀ record, set record (get record) = record)
    (single : ∀ a b, hidden a = true → hidden b = true → a = b) {source : σ}
    (restores : codec.Restores (get source)) :
    (defaulted name codec get set hidden).Copies source fun target => set target (get source) where
  written := by
    intro value wrote target
    simp only [defaulted] at wrote ⊢
    by_cases left : hidden (get source) = true
    · rw [if_pos left] at wrote
      cases wrote
    · rw [if_neg left, Option.some.injEq] at wrote
      rw [← wrote, restores.read_write]
      rfl
  absent := by
    intro wrote target blank
    simp only [defaulted, ite_eq_left_iff, reduceCtorEq, imp_false, Bool.not_eq_true,
      Bool.not_eq_false] at wrote blank
    rw [single _ _ wrote blank, law]

theorem copies_of_mem {members : List (Member σ)} {source : σ} {copies : List (σ → σ)}
    (each : List.Forall₂ (fun member copy => member.Copies source copy) members copies)
    {member : Member σ} (inside : member ∈ members) : ∃ copy, member.Copies source copy := by
  induction each with
  | nil => cases inside
  | cons first _ ih =>
      rcases List.mem_cons.mp inside with here | later
      · exact ⟨_, here ▸ first⟩
      · exact ih later

end Member

namespace Record

variable {σ : Type}

theorem readField_of_mem {members : List (Member σ)} (distinct : (members.map (·.name)).Nodup)
    {unknown : σ → String → Value → σ} {member : Member σ} (inside : member ∈ members) (record : σ)
    (value : Value) :
    readField members unknown record member.name value = member.read record value := by
  unfold readField
  cases found : members.find? fun other => other.name == member.name with
  | none => exact absurd (List.find?_eq_none.mp found member inside) (by simp)
  | some other =>
      have same : other.name = member.name := by simpa using List.find?_some found
      rw [List.inj_on_of_nodup_map distinct (List.mem_of_find?_eq_some found) inside same]

theorem readField_of_not_mem {members : List (Member σ)} {name : String}
    (unmodelled : name ∉ members.map (·.name)) (unknown : σ → String → Value → σ) (record : σ)
    (value : Value) :
    readField members unknown record name value = .ok (unknown record name value) := by
  unfold readField
  cases found : members.find? fun member => member.name == name with
  | none => rfl
  | some member =>
      have named : member.name = name := by simpa using List.find?_some found
      exact absurd (List.mem_map.mpr ⟨member, List.mem_of_find?_eq_some found, named⟩) unmodelled

/-- The members are read one after another, and each copies its field. -/
theorem readFields_writeMembers {all members : List (Member σ)}
    (distinct : (all.map (·.name)).Nodup) (inside : ∀ member ∈ members, member ∈ all)
    (apart : members.Pairwise Member.Apart) (unknown : σ → String → Value → σ) {source : σ}
    {copies : List (σ → σ)}
    (each : List.Forall₂ (fun member copy => member.Copies source copy) members copies)
    {target : σ} (blank : ∀ member ∈ members, member.write target = none) (rest : Fields) :
    readFields all unknown target (writeMembers members source ++ rest) =
      readFields all unknown (copies.foldl (fun record copy => copy record) target) rest := by
  induction each generalizing target with
  | nil => rfl
  | @cons member copy members copies first _ ih =>
      obtain ⟨others, apart⟩ := List.pairwise_cons.mp apart
      have later : ∀ other ∈ members, other ∈ all :=
        fun other known => inside other (List.mem_cons_of_mem _ known)
      rw [writeMembers, List.filterMap_cons, List.foldl_cons]
      cases wrote : member.write source with
      | none =>
          have same := first.absent wrote target (blank member List.mem_cons_self)
          rw [same]
          exact ih later apart fun other known => blank other (List.mem_cons_of_mem _ known)
      | some value =>
          have read := first.written value wrote target
          change readFields all unknown target
            ((member.name, value) :: (writeMembers members source ++ rest)) = _
          rw [readFields_cons, readField_of_mem distinct (inside member List.mem_cons_self), read]
          refine ih later apart fun other known => ?_
          rw [(others other known).forth target value _ read]
          exact blank other (List.mem_cons_of_mem _ known)

/-- Fields that no member has the name of are taken up one after another, whatever they hold. -/
theorem readFields_unmodelled {members : List (Member σ)} (unknown : σ → String → Value → σ)
    {fields : Fields} (apart : ∀ name ∈ fields.names, name ∉ members.map (·.name)) (record : σ) :
    readFields members unknown record fields =
      .ok (fields.foldl (fun record field => unknown record field.1 field.2) record) := by
  induction fields generalizing record with
  | nil => rfl
  | cons field fields ih =>
      obtain ⟨name, value⟩ := field
      have unmodelled : name ∉ members.map (·.name) := apart name List.mem_cons_self
      have taken : readField members unknown record name value =
          .ok (unknown record name value) := readField_of_not_mem unmodelled unknown record value
      rw [readFields_cons, taken]
      exact ih (fun other later => apart other (List.mem_cons_of_mem _ later)) _

/-- A record that all members together copy is read as it was written. -/
theorem restores_codec {name : String} {empty source : σ} {members : List (Member σ)}
    (schema : Schema members) (blank : ∀ member ∈ members, member.write empty = none)
    {copies : List (σ → σ)}
    (each : List.Forall₂ (fun member copy => member.Copies source copy) members copies)
    (whole : copies.foldl (fun record copy => copy record) empty = source) :
    (codec name empty members).Restores source where
  read_write := by
    have read := readFields_writeMembers schema.distinct (fun _ member => member) schema.apart
      (fun record _ _ => record) each blank []
    rw [List.append_nil, whole] at read
    exact read
  present := rfl

end Record

end Engagements
