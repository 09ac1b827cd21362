import Engagements.Codec
import Engagements.Proofs.Fields
import Mathlib.Data.List.Pairwise

/-!
Reading and writing records member by member. What a record writes for a member comes from the
field of that name and from nothing else.
-/
namespace Engagements

namespace Codec

variable {α : Type}

/-- A value that is read and written again; one that cannot be read stays as it is. -/
def rewrite (codec : Codec α) (value : Value) : Value :=
  match codec.read value with
  | .ok a => codec.write a
  | .error _ => value

/-- The codec writes every value as it has read it. -/
def Exact (codec : Codec α) : Prop := ∀ value, codec.rewrite value = value

theorem exact_text : text.Exact := by
  intro value
  cases value <;> rfl

theorem exact_flag : flag.Exact := by
  intro value
  cases value <;> rfl

theorem exact_signed64 : signed64.Exact := by
  intro value
  cases value with
  | number n =>
      cases n with
      | integer n =>
          simp only [rewrite, signed64, integerOf]
          by_cases fits : Width.isSigned 64 n = true
          · rw [if_pos fits]
            rfl
          · rw [if_neg fits]
      | double d => rfl
  | _ => rfl

end Codec

namespace Member

variable {σ α β : Type}

/-- What the member writes once a value has been read into it. -/
def Renders (member : Member σ) (rewrite : Value → Value) : Prop :=
  ∀ record value next, member.read record value = .ok next →
    member.write next = if value.isNull then none else some (rewrite value)

/-- Reading the member leaves alone what is seen of the record. -/
def Keeps (member : Member σ) (view : σ → α) : Prop :=
  ∀ record value next, member.read record value = .ok next → view next = view record

/-- Neither of the members changes what the other one writes. -/
structure Apart (member other : Member σ) : Prop where
  forth : member.Keeps other.write
  back : other.Keeps member.write

instance : Std.Symm (@Apart σ) where
  symm _ _ apart := ⟨apart.back, apart.forth⟩

/-- Whether a value can be read into the member does not depend on the record. -/
def Steady (member : Member σ) : Prop :=
  ∀ record other value, (member.read record value).isOk = (member.read other value).isOk

theorem renders_optional (name : String) (codec : Codec α) {get : σ → Option α}
    {set : σ → Option α → σ} (law : ∀ record field, get (set record field) = field) :
    (optional name codec get set).Renders codec.rewrite := by
  intro record value next read
  simp only [optional] at read ⊢
  by_cases null : value.isNull = true
  · rw [if_pos null, Except.ok.injEq] at read
    rw [if_pos null, ← read, law]
    rfl
  · rw [if_neg null] at read
    rw [if_neg null]
    cases found : codec.read value with
    | error reason =>
        rw [found] at read
        cases read
    | ok a =>
        rw [found] at read
        cases read
        rw [law, Codec.rewrite, found]
        rfl

theorem keeps_optional (name : String) (codec : Codec α) {get : σ → Option α}
    {set : σ → Option α → σ} {view : σ → β}
    (apart : ∀ record field, view (set record field) = view record) :
    (optional name codec get set).Keeps view := by
  intro record value next read
  simp only [optional] at read
  by_cases null : value.isNull = true
  · rw [if_pos null, Except.ok.injEq] at read
    rw [← read, apart]
  · rw [if_neg null] at read
    cases found : codec.read value with
    | error reason =>
        rw [found] at read
        cases read
    | ok a =>
        rw [found] at read
        cases read
        rw [apart]

theorem keeps_defaulted (name : String) (codec : Codec α) {get : σ → α} {set : σ → α → σ}
    (hidden : α → Bool) {view : σ → β}
    (apart : ∀ record field, view (set record field) = view record) :
    (defaulted name codec get set hidden).Keeps view := by
  intro record value next read
  simp only [defaulted] at read
  cases found : codec.read value with
  | error reason =>
      rw [found] at read
      cases read
  | ok a =>
      rw [found] at read
      cases read
      exact apart record a

theorem apart_optional (name name' : String) (codec : Codec α) (codec' : Codec β)
    {get : σ → Option α} {set : σ → Option α → σ} {get' : σ → Option β} {set' : σ → Option β → σ}
    (first : ∀ record field, get' (set record field) = get' record)
    (second : ∀ record field, get (set' record field) = get record) :
    (optional name codec get set).Apart (optional name' codec' get' set') where
  forth := keeps_optional name codec fun record field => by simp only [optional, first]
  back := keeps_optional name' codec' fun record field => by simp only [optional, second]

theorem steady_optional (name : String) (codec : Codec α) (get : σ → Option α)
    (set : σ → Option α → σ) : (optional name codec get set).Steady := by
  intro record other value
  simp only [optional]
  by_cases null : value.isNull = true
  · rw [if_pos null, if_pos null]
    rfl
  · rw [if_neg null, if_neg null]
    cases codec.read value <;> rfl

end Member

namespace Record

variable {σ : Type}

/-- The members have names of their own, and none disturbs another. -/
structure Schema (members : List (Member σ)) : Prop where
  distinct : (members.map (·.name)).Nodup
  apart : members.Pairwise Member.Apart

theorem Schema.keeps {members : List (Member σ)} (schema : Schema members) {member other : Member σ}
    (inside : member ∈ members) (inside' : other ∈ members) (different : member.name ≠ other.name) :
    member.Keeps other.write :=
  (schema.apart.forall inside inside' fun same => different (congrArg _ same)).forth

theorem Schema.eq_of_name {members : List (Member σ)} (schema : Schema members)
    {member other : Member σ} (inside : member ∈ members) (inside' : other ∈ members)
    (same : member.name = other.name) : member = other :=
  List.inj_on_of_nodup_map schema.distinct inside inside' same

/-- Reads one field of an object. -/
def readField (members : List (Member σ)) (unknown : σ → String → Value → σ) (record : σ)
    (name : String) (value : Value) : Reading σ :=
  match members.find? fun member => member.name == name with
  | some member => member.read record value
  | none => .ok (unknown record name value)

theorem readFields_cons (members : List (Member σ)) (unknown : σ → String → Value → σ) (record : σ)
    (name : String) (value : Value) (fields : Fields) :
    readFields members unknown record ((name, value) :: fields) =
      (readField members unknown record name value).bind fun next =>
        readFields members unknown next fields := by
  rw [readFields, readField]
  cases members.find? fun member => member.name == name <;> rfl

theorem readFields_cons_ok {members : List (Member σ)} {unknown : σ → String → Value → σ}
    {record last : σ} {name : String} {value : Value} {fields : Fields}
    (read : readFields members unknown record ((name, value) :: fields) = .ok last) :
    ∃ next, readField members unknown record name value = .ok next ∧
      readFields members unknown next fields = .ok last := by
  rw [readFields_cons] at read
  cases field : readField members unknown record name value with
  | error reason =>
      rw [field] at read
      cases read
  | ok next =>
      rw [field] at read
      exact ⟨next, rfl, read⟩

theorem readField_ok {members : List (Member σ)} {unknown : σ → String → Value → σ}
    {record next : σ} {name : String} {value : Value}
    (read : readField members unknown record name value = .ok next) :
    (∃ member ∈ members, member.name = name ∧ member.read record value = .ok next) ∨
      name ∉ members.map (·.name) ∧ next = unknown record name value := by
  unfold readField at read
  split at read
  · rename_i member found
    have named : member.name = name := by simpa using List.find?_some found
    exact Or.inl ⟨member, List.mem_of_find?_eq_some found, named, read⟩
  · rename_i none
    cases read
    refine Or.inr ⟨?_, rfl⟩
    intro known
    obtain ⟨member, inside, same⟩ := List.mem_map.mp known
    exact absurd same (by simpa using List.find?_eq_none.mp none member inside)

theorem isOk_readField {members : List (Member σ)} (steady : ∀ member ∈ members, member.Steady)
    (unknown : σ → String → Value → σ) (record other : σ) (name : String) (value : Value) :
    (readField members unknown record name value).isOk =
      (readField members unknown other name value).isOk := by
  unfold readField
  cases found : members.find? fun member => member.name == name with
  | none => rfl
  | some member => exact steady member (List.mem_of_find?_eq_some found) record other value

/-- The fields of an object can be read just when each of them can. -/
theorem isOk_readFields {members : List (Member σ)} (steady : ∀ member ∈ members, member.Steady)
    (unknown : σ → String → Value → σ) (record base : σ) (fields : Fields) :
    (readFields members unknown record fields).isOk =
      fields.all fun field => (readField members unknown base field.1 field.2).isOk := by
  induction fields generalizing record with
  | nil => rfl
  | cons field fields ih =>
      obtain ⟨name, value⟩ := field
      rw [readFields_cons, List.all_cons, isOk_readField steady unknown base record]
      cases readField members unknown record name value with
      | error reason => rfl
      | ok next => exact ih next

/-- What is written for a member after the fields of an object have been read. -/
theorem write_readFields {members : List (Member σ)} (schema : Schema members)
    {unknown : σ → String → Value → σ} {member : Member σ} (inside : member ∈ members)
    {rewrite : Value → Value} (renders : member.Renders rewrite)
    (ignored : ∀ record name value, member.write (unknown record name value) = member.write record)
    {fields : Fields} (distinct : fields.names.Nodup) {record last : σ}
    (read : readFields members unknown record fields = .ok last) :
    member.write last =
      match Fields.get? fields member.name with
      | none => member.write record
      | some value => if value.isNull then none else some (rewrite value) := by
  induction fields generalizing record with
  | nil =>
      cases read
      rfl
  | cons field fields ih =>
      obtain ⟨name, value⟩ := field
      simp only [Fields.names, List.map_cons, List.nodup_cons] at distinct
      obtain ⟨next, first, rest⟩ := readFields_cons_ok read
      rw [ih distinct.2 rest]
      by_cases same : name = member.name
      · subst same
        have absent : Fields.get? fields member.name = none :=
          (Fields.get?_eq_none_iff fields member.name).mpr distinct.1
        rw [absent, Fields.get?, if_pos rfl]
        rcases readField_ok first with ⟨other, inside', named, written⟩ | ⟨missing, _⟩
        · rw [schema.eq_of_name inside' inside named] at written
          exact renders record value next written
        · exact absurd (List.mem_map.mpr ⟨member, inside, rfl⟩) missing
      · have kept : member.write next = member.write record := by
          rcases readField_ok first with ⟨other, inside', named, written⟩ | ⟨_, left⟩
          · exact schema.keeps inside' inside (named ▸ same) record value next written
          · rw [left, ignored]
        rw [Fields.get?, if_neg same, kept]

/-- The fields that no member is named for end up in what holds the unknown ones. -/
theorem view_readFields {members : List (Member σ)} {unknown : σ → String → Value → σ}
    {view : σ → Fields} (kept : ∀ member ∈ members, member.Keeps view)
    (added : ∀ record name value,
      view (unknown record name value) = Fields.insert (view record) name value)
    {fields : Fields} {record last : σ}
    (read : readFields members unknown record fields = .ok last) :
    view last =
      Fields.insertAll (view record)
        (fields.filter fun field => field.1 ∉ members.map (·.name)) := by
  induction fields generalizing record with
  | nil =>
      cases read
      rfl
  | cons field fields ih =>
      obtain ⟨name, value⟩ := field
      obtain ⟨next, first, rest⟩ := readFields_cons_ok read
      rw [ih rest]
      rcases readField_ok first with ⟨member, inside, named, written⟩ | ⟨missing, left⟩
      · have known : name ∈ members.map (·.name) := List.mem_map.mpr ⟨member, inside, named⟩
        rw [kept member inside record value next written,
          List.filter_cons_of_neg (by simpa using known)]
      · rw [left, added, List.filter_cons_of_pos (by simpa using missing)]
        rfl

theorem names_writeMembers {members : List (Member σ)} {record : σ} {name : String}
    (written : name ∈ Fields.names (writeMembers members record)) :
    name ∈ members.map (·.name) := by
  obtain ⟨field, inside, same⟩ := List.mem_map.mp written
  obtain ⟨member, known, wrote⟩ := List.mem_filterMap.mp inside
  obtain ⟨value, _, made⟩ := Option.map_eq_some_iff.mp wrote
  exact List.mem_map.mpr ⟨member, known, by rw [← same, ← made]⟩

theorem nodup_writeMembers {members : List (Member σ)}
    (distinct : (members.map (·.name)).Nodup) (record : σ) :
    (Fields.names (writeMembers members record)).Nodup := by
  induction members with
  | nil => exact List.nodup_nil
  | cons member members ih =>
      obtain ⟨absent, distinct⟩ := List.nodup_cons.mp distinct
      rw [writeMembers, List.filterMap_cons]
      cases member.write record with
      | none => exact ih distinct
      | some value =>
          exact List.nodup_cons.mpr ⟨fun again => absent (names_writeMembers again), ih distinct⟩

theorem get?_writeMembers {members : List (Member σ)} (distinct : (members.map (·.name)).Nodup)
    {member : Member σ} (inside : member ∈ members) (record : σ) :
    Fields.get? (writeMembers members record) member.name = member.write record := by
  induction members with
  | nil => cases inside
  | cons first members ih =>
      obtain ⟨absent, distinct⟩ := List.nodup_cons.mp distinct
      rw [writeMembers, List.filterMap_cons]
      rcases List.mem_cons.mp inside with here | later
      · subst here
        cases member.write record with
        | none =>
            refine (Fields.get?_eq_none_iff _ _).mpr fun again => absent ?_
            exact names_writeMembers again
        | some value => simp [Fields.get?]
      · have different : first.name ≠ member.name := by
          intro same
          exact absent (List.mem_map.mpr ⟨member, later, same.symm⟩)
        cases first.write record with
        | none => exact ih distinct later
        | some value =>
            simp only [Option.map_some, Fields.get?, different, if_false]
            exact ih distinct later

end Record

end Engagements
