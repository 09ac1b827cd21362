import Engagements.Proofs.Codec
import Engagements.Proofs.Value

/-!
What becomes of a value that is read into a record and written again. It stays the same, up to the
order of fields, when the record knows all of its fields and none of them is null.
-/
namespace Engagements

/-- An object of fields with the given names, none of them null. -/
def Value.isKnown (names : List String) : Value → Bool
  | .object fields => fields.all fun field => names.contains field.1 && !field.2.isNull
  | _ => false

theorem Value.isKnown_object_iff (names : List String) (fields : Fields) :
    (Value.object fields).isKnown names = true ↔
      ∀ field ∈ fields, field.1 ∈ names ∧ field.2.isNull = false := by
  simp [Value.isKnown]

namespace Codec

variable {α : Type}

/-- A value that the codec reads and writes again stays the same just when its fields are known. -/
def Faithful (codec : Codec α) (names : List String) : Prop :=
  ∀ value : Value, value.Distinct → (codec.read value).isOk = true →
    ((codec.rewrite value).same value = true ↔ value.isKnown names = true)

end Codec

theorem Member.renders_exact {σ α : Type} (name : String) {codec : Codec α} (exact : codec.Exact)
    {get : σ → Option α} {set : σ → Option α → σ}
    (law : ∀ record field, get (set record field) = field) :
    (optional name codec get set).Renders id := by
  have same : codec.rewrite = id := funext exact
  rw [← same]
  exact renders_optional name codec law

namespace Record

variable {σ : Type} {empty record : σ} {members : List (Member σ)}

theorem same_write_iff (schema : Schema members)
    (blank : ∀ member ∈ members, member.write empty = none)
    (exact : ∀ member ∈ members, member.Renders id) {fields : Fields}
    (distinct : (Value.object fields).Distinct)
    (read : readFields members (fun record _ _ => record) empty fields = .ok record) :
    (Value.object (writeMembers members record)).same (.object fields) = true ↔
      ∀ field ∈ fields, field.1 ∈ members.map (·.name) ∧ field.2.isNull = false := by
  have wrote : ∀ member ∈ members, Fields.get? (writeMembers members record) member.name =
      (Fields.get? fields member.name).bind fun value =>
        if value.isNull then none else some value := by
    intro member inside
    rw [get?_writeMembers schema.distinct inside,
      write_readFields schema inside (exact member inside) (fun _ _ _ => rfl) distinct.names read,
      blank member inside]
    cases Fields.get? fields member.name <;> rfl
  rw [Value.same_object_iff (nodup_writeMembers schema.distinct record) distinct.names]
  constructor
  · intro each field inside
    have alike := (each field.1).isSome
    rw [Fields.get?_of_mem distinct.names inside, Option.isSome_some,
      Fields.get?_isSome_iff] at alike
    have known := names_writeMembers alike
    obtain ⟨member, inside', named⟩ := List.mem_map.mp known
    refine ⟨known, ?_⟩
    rw [← Fields.get?_isSome_iff, ← named, wrote member inside', named,
      Fields.get?_of_mem distinct.names inside] at alike
    cases null : field.2.isNull with
    | false => rfl
    | true => simp [null] at alike
  · intro known name
    cases found : Fields.get? fields name with
    | none =>
        have absent : Fields.get? (writeMembers members record) name = none := by
          rw [Fields.get?_eq_none_iff]
          intro written
          obtain ⟨member, inside, named⟩ := List.mem_map.mp (names_writeMembers written)
          rw [← named, ← Fields.get?_isSome_iff, wrote member inside, named, found] at written
          cases written
        rw [absent]
        exact Option.Rel.none
    | some value =>
        obtain ⟨modelled, present⟩ := known (name, value) (Fields.mem_of_get? found)
        obtain ⟨member, inside, named⟩ := List.mem_map.mp modelled
        have kept : Fields.get? (writeMembers members record) name = some value := by
          change member.name = name at named
          change value.isNull = false at present
          rw [← named, wrote member inside, named, found, Option.bind_some, present]
          rfl
        rw [kept]
        exact Option.Rel.some (Value.same_refl (distinct.get? found))

theorem faithful_codec (name : String) (schema : Schema members)
    (blank : ∀ member ∈ members, member.write empty = none)
    (exact : ∀ member ∈ members, member.Renders id) :
    (codec name empty members).Faithful (members.map (·.name)) := by
  intro value distinct isOk
  cases read : (codec name empty members).read value with
  | error reason =>
      rw [read] at isOk
      cases isOk
  | ok record =>
      rw [Codec.rewrite, read]
      cases value with
      | object fields =>
          rw [Value.isKnown_object_iff]
          exact same_write_iff schema blank exact distinct read
      | array items => simp [codec, Value.same, Value.isKnown]
      | _ => cases read

end Record

namespace Codec

variable {α : Type} {codec : Codec α} {names : List String}

theorem map_rewrite_of_mapM {items : List Value} {list : List α}
    (read : items.mapM codec.read = .ok list) :
    items.map codec.rewrite = list.map codec.write ∧
      ∀ item ∈ items, (codec.read item).isOk = true := by
  induction items generalizing list with
  | nil =>
      cases read
      exact ⟨rfl, fun _ member => by cases member⟩
  | cons head tail ih =>
      rw [List.mapM_cons] at read
      cases first : codec.read head with
      | error reason =>
          rw [first] at read
          cases read
      | ok a =>
          cases others : tail.mapM codec.read with
          | error reason =>
              rw [first, others] at read
              cases read
          | ok rest =>
              rw [first, others] at read
              cases read
              obtain ⟨rewritten, each⟩ := ih others
              refine ⟨?_, List.forall_mem_cons.mpr ⟨by rw [first]; rfl, each⟩⟩
              rw [List.map_cons, List.map_cons, rewritten, rewrite, first]

theorem rewrite_listOf {items : List Value}
    (isOk : ((listOf codec).read (.array items)).isOk = true) :
    (listOf codec).rewrite (.array items) = .array (items.map codec.rewrite) ∧
      ∀ item ∈ items, (codec.read item).isOk = true := by
  change (items.mapM codec.read).isOk = true at isOk
  cases read : items.mapM codec.read with
  | error reason =>
      rw [read] at isOk
      cases isOk
  | ok list =>
      obtain ⟨rewritten, each⟩ := map_rewrite_of_mapM read
      have read : (listOf codec).read (.array items) = .ok list := read
      rw [rewritten, rewrite, read]
      exact ⟨rfl, each⟩

/-- A list stays the same just when each of its items does. -/
theorem same_rewrite_listOf_iff (faithful : codec.Faithful names) {value : Value}
    (distinct : value.Distinct) (isOk : ((listOf codec).read value).isOk = true) :
    ((listOf codec).rewrite value).same value = true ↔
      ∀ items, value = .array items → ∀ item ∈ items, item.isKnown names = true := by
  cases value with
  | array items =>
      obtain ⟨rewritten, each⟩ := rewrite_listOf isOk
      rw [rewritten, Value.same_array_map_iff]
      constructor
      · intro alike others same item member
        cases same
        exact (faithful item (distinct.items item member) (each item member)).mp (alike item member)
      · intro known item member
        exact (faithful item (distinct.items item member) (each item member)).mpr
          (known items rfl item member)
  | _ => cases isOk

end Codec

end Engagements
