import Engagements.Proofs.Predicate
import Engagements.Proofs.Search.Reading
import Engagements.Proofs.Value

/-!
Predicates that compare with scalars, as all those do that a search text asks for. Two of them that
are the same hold of the same documents.
-/
namespace Engagements

namespace Value

variable {value other : Value}

theorem key_of_same {n m : Number} (alike : n.same m = true) : n.toDouble.key = m.toDouble.key := by
  cases n <;> cases m <;> simp_all [Number.same, Number.toDouble]

/-- What is the same as a scalar is equal to it, but for the sign of a zero. -/
inductive SameScalar : Value → Value → Prop
  | number {n m : Number} (keys : n.toDouble.key = m.toDouble.key) :
      SameScalar (number n) (number m)
  | equal (value : Value) : SameScalar value value

theorem sameScalar_of_same (scalar : value.isScalar = true) (alike : value.same other = true) :
    SameScalar value other := by
  cases value with
  | null => cases other <;> first | exact .equal _ | simp [same] at alike
  | bool b =>
      cases other <;> simp [same] at alike
      exact alike ▸ .equal _
  | number n =>
      cases other <;> simp [same] at alike
      exact .number (key_of_same alike)
  | string s =>
      cases other <;> simp [same] at alike
      exact alike ▸ .equal _
  | array | object => cases scalar

theorem SameScalar.agrees (alike : SameScalar value other) (candidate : Value) :
    candidate.agrees value = candidate.agrees other := by
  cases alike with
  | number keys => cases candidate <;> simp [Value.agrees, keys, same]
  | equal => rfl

theorem SameScalar.order (alike : SameScalar value other) (candidate : Value) :
    candidate.order value = candidate.order other := by
  cases alike with
  | number keys => cases candidate <;> simp [Value.order, keys, kindRank]
  | equal => rfl

theorem SameScalar.comparable (alike : SameScalar value other) (candidate : Value) :
    Predicate.comparable candidate value = Predicate.comparable candidate other := by
  cases alike with
  | number keys => cases candidate <;> rfl
  | equal => rfl

end Value

namespace Predicate

mutual
/-- The values that a predicate compares with. -/
def values : Predicate → List Value
  | equals _ value | compares _ _ value => [value]
  | like _ _ | unlike _ _ | presence _ _ => []
  | all parts | any parts => valuesOfAll parts
  | not inner => inner.values
termination_by structural predicate => predicate

def valuesOfAll : List Predicate → List Value
  | [] => []
  | predicate :: predicates => predicate.values ++ valuesOfAll predicates
termination_by structural predicates => predicates
end

/-- A predicate that compares with scalars only. -/
def IsScalar (predicate : Predicate) : Prop := ∀ value ∈ predicate.values, value.isScalar = true

instance (predicate : Predicate) : Decidable predicate.IsScalar :=
  inferInstanceAs (Decidable (∀ value ∈ predicate.values, _))

theorem mem_valuesOfAll (value : Value) (predicates : List Predicate) :
    value ∈ valuesOfAll predicates ↔ ∃ predicate ∈ predicates, value ∈ predicate.values := by
  induction predicates with
  | nil => simp [valuesOfAll]
  | cons predicate predicates ih => simp [valuesOfAll, ih]

theorem forall_valuesOfAll (predicates : List Predicate) :
    (∀ value ∈ valuesOfAll predicates, value.isScalar = true) ↔
      ∀ predicate ∈ predicates, predicate.IsScalar := by
  simp only [mem_valuesOfAll, IsScalar]
  exact ⟨fun each p member v inside => each v ⟨p, member, inside⟩,
    fun each v ⟨p, member, inside⟩ => each p member v inside⟩

theorem isScalar_all_iff (parts : List Predicate) :
    (all parts).IsScalar ↔ ∀ part ∈ parts, part.IsScalar := forall_valuesOfAll parts

theorem isScalar_any_iff (parts : List Predicate) :
    (any parts).IsScalar ↔ ∀ part ∈ parts, part.IsScalar := forall_valuesOfAll parts

variable {predicate : Predicate}

/-! Predicates that are the same. -/

theorem holdsAll_eq_map (document : Value) (parts : List Predicate) :
    holdsAll document parts = (parts.map (holds document)).all id := by
  rw [holdsAll_eq_all, List.all_map]
  rfl

theorem holdsAny_eq_map (document : Value) (parts : List Predicate) :
    holdsAny document parts = (parts.map (holds document)).any id := by
  rw [holdsAny_eq_any, List.any_map]
  rfl

mutual
/-- Predicates that are the same hold of the same documents. -/
theorem holds_of_same (document : Value) (p q : Predicate) (scalar : p.IsScalar)
    (alike : p.same q = true) : p.holds document = q.holds document := by
  cases p with
  | equals field value =>
      cases q with
      | equals field' value' =>
          obtain ⟨named, alike⟩ := Bool.and_eq_true_iff.mp alike
          have plain : value.isScalar = true := scalar value List.mem_cons_self
          have equal := Value.sameScalar_of_same plain alike
          simp only [holds, beq_iff_eq.mp named, equal.agrees]
      | _ => cases alike
  | compares field comparison value =>
      cases q with
      | compares field' comparison' value' =>
          simp only [same, Bool.and_eq_true, beq_iff_eq] at alike
          obtain ⟨⟨rfl, rfl⟩, alike⟩ := alike
          have plain : value.isScalar = true := scalar value List.mem_cons_self
          have equal := Value.sameScalar_of_same plain alike
          simp only [holds, equal.comparable, equal.order]
      | _ => cases alike
  | like field pattern =>
      cases q with
      | like field' pattern' =>
          simp only [same, Bool.and_eq_true, beq_iff_eq] at alike
          rw [alike.1, alike.2]
      | _ => cases alike
  | unlike field pattern =>
      cases q with
      | unlike field' pattern' =>
          simp only [same, Bool.and_eq_true, beq_iff_eq] at alike
          rw [alike.1, alike.2]
      | _ => cases alike
  | presence field shown =>
      cases q with
      | presence field' shown' =>
          simp only [same, Bool.and_eq_true, beq_iff_eq] at alike
          rw [alike.1, alike.2]
      | _ => cases alike
  | all parts =>
      cases q with
      | all others =>
          have parted := map_holds_of_sameAll document parts others
            ((isScalar_all_iff parts).mp scalar) alike
          rw [holds, holds, holdsAll_eq_map, holdsAll_eq_map, parted]
      | _ => cases alike
  | any parts =>
      cases q with
      | any others =>
          have parted := map_holds_of_sameAll document parts others
            ((isScalar_any_iff parts).mp scalar) alike
          rw [holds, holds, holdsAny_eq_map, holdsAny_eq_map, parted]
      | _ => cases alike
  | not inner =>
      cases q with
      | not inner' => rw [holds, holds, holds_of_same document inner inner' scalar alike]
      | _ => cases alike
termination_by structural p

theorem map_holds_of_sameAll (document : Value) (parts others : List Predicate)
    (scalar : ∀ part ∈ parts, part.IsScalar) (alike : sameAll parts others = true) :
    parts.map (holds document) = others.map (holds document) := by
  cases parts with
  | nil =>
      cases others with
      | nil => rfl
      | cons other others => cases alike
  | cons part parts =>
      cases others with
      | nil => cases alike
      | cons other others =>
          obtain ⟨first, rest⟩ := List.forall_mem_cons.mp scalar
          obtain ⟨alike, others_alike⟩ := Bool.and_eq_true_iff.mp alike
          rw [List.map_cons, List.map_cons, holds_of_same document part other first alike,
            map_holds_of_sameAll document parts others rest others_alike]
termination_by structural parts
end

/-! What a search text asks for. -/

theorem isScalar_of_mem_conjuncts {part : Predicate} (scalar : predicate.IsScalar)
    (member : part ∈ predicate.conjuncts) : part.IsScalar := by
  cases predicate with
  | all parts => exact (isScalar_all_iff parts).mp scalar part member
  | _ => exact List.mem_singleton.mp member ▸ scalar

theorem isScalar_allOf {predicates : List Predicate}
    (scalar : ∀ part ∈ predicates, part.IsScalar) :
    ∀ predicate ∈ allOf predicates, predicate.IsScalar := by
  have parts : ∀ part ∈ predicates.flatMap conjuncts, part.IsScalar := by
    intro part member
    obtain ⟨whole, inside, here⟩ := List.mem_flatMap.mp member
    exact isScalar_of_mem_conjuncts (scalar whole inside) here
  intro predicate made
  rw [allOf] at made
  split at made
  · cases made
  · rename_i only
    rw [only] at parts
    exact Option.some.inj made ▸ parts _ List.mem_cons_self
  · rename_i flat _ _
    rw [← Option.some.inj made]
    exact (isScalar_all_iff _).mpr parts

theorem isScalar_anyOf {predicates : List Predicate}
    (scalar : ∀ part ∈ predicates, part.IsScalar) :
    ∀ predicate ∈ anyOf predicates, predicate.IsScalar := by
  intro predicate made
  match predicates with
  | [] => cases made
  | [only] => exact Option.some.inj made ▸ scalar _ List.mem_cons_self
  | first :: second :: rest =>
      rw [← Option.some.inj made]
      exact (isScalar_any_iff _).mpr scalar

end Predicate

namespace Search

open Predicate

theorem isScalar_read_kind {kind : FieldKind} {raw : String} {sought : Value}
    (read : kind.read raw = .ok sought) : sought.isScalar = true := by
  cases kind with
  | string => exact Except.ok.inj read ▸ rfl
  | integer =>
      rw [FieldKind.read] at read
      split at read
      · exact Except.ok.inj read ▸ rfl
      · cases read
  | boolean =>
      rw [FieldKind.read] at read
      split at read
      · exact Except.ok.inj read ▸ rfl
      · exact Except.ok.inj read ▸ rfl
      · cases read
  | date =>
      rw [FieldKind.read] at read
      cases found : Date.read raw with
      | ok date =>
          rw [found] at read
          exact Except.ok.inj read ▸ rfl
      | error reason =>
          rw [found] at read
          cases read

theorem isScalar_coerce {path raw : String} {sought : Value} (read : coerce path raw = .ok sought) :
    sought.isScalar = true := by
  rw [coerce] at read
  split at read
  · cases read
  · exact isScalar_read_kind (ok_of_mapError read)

theorem isScalar_asked {component : Component} {predicate : Predicate}
    (asked : component.Asks predicate) : predicate.IsScalar := by
  cases asked with
  | equals free read => exact List.forall_mem_singleton.mpr (isScalar_coerce read)
  | _ => exact List.forall_mem_nil _

theorem isScalar_added {piece : String} {part : Progress} (added : Adds piece part) :
    ∀ predicate ∈ part.predicates, predicate.IsScalar := by
  cases added with
  | condition visible read asked => exact List.forall_mem_singleton.mpr (isScalar_asked asked)
  | _ => exact List.forall_mem_nil _

theorem isScalar_state (state : EngagementState) (today : String) :
    (state.predicate today).IsScalar := by
  cases state with
  | upcoming => exact List.forall_mem_nil _
  | active | past => exact List.forall_mem_singleton.mpr rfl
  | terminating => exact List.forall_mem_cons.mpr ⟨rfl, List.forall_mem_singleton.mpr rfl⟩

theorem isScalar_endDateBound (comparison : Comparison) (date : Option Date) :
    ∀ predicate ∈ Temporal.endDateBound comparison date, predicate.IsScalar := by
  cases date with
  | none => exact List.forall_mem_nil _
  | some date => exact List.forall_mem_singleton.mpr (List.forall_mem_singleton.mpr rfl)

theorem isScalar_temporal (temporal : Temporal) (today : Date) :
    ∀ predicate ∈ temporal.predicates today, predicate.IsScalar := by
  rw [Temporal.predicates, List.forall_mem_append, List.forall_mem_append]
  refine ⟨⟨fun predicate chosen => ?_, isScalar_endDateBound _ _⟩, isScalar_endDateBound _ _⟩
  refine isScalar_anyOf ?_ predicate (Option.mem_toList.mp chosen)
  intro part member
  obtain ⟨state, _, rfl⟩ := List.mem_map.mp member
  exact isScalar_state state _

/-- A search text asks for scalars only. -/
theorem isScalar_read {today : Date} {text : String} {expression : Expression}
    (done : read today text = .ok expression) :
    ∀ predicate ∈ expression.predicate, predicate.IsScalar := by
  obtain ⟨readable, rfl⟩ := (read_eq_ok_iff today text expression).mp done
  refine isScalar_allOf (List.forall_mem_append.mpr ⟨?_, isScalar_temporal _ today⟩)
  intro predicate member
  obtain ⟨part, inside, asked⟩ := List.mem_flatMap.mp member
  obtain ⟨piece, here, rfl⟩ := List.mem_map.mp inside
  exact isScalar_added (adds_partOf (readable piece here)) predicate asked

end Search

end Engagements
