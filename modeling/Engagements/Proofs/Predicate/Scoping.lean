import Engagements.Proofs.Path.Containment
import Engagements.Proofs.Predicate

/-!
The conjuncts that are asked again below a path. They are chosen by the segments of their fields.
-/
namespace Engagements.Predicate

/-- A predicate mentions some field, and only fields whose segments go on from those of a path. -/
def SpeaksUnder (path : String) (predicate : Predicate) : Prop :=
  predicate.fields ≠ [] ∧ ∀ field ∈ predicate.fields, segments path <+: segments field

instance (path : String) : DecidablePred (SpeaksUnder path) := fun predicate =>
  inferInstanceAs (Decidable (predicate.fields ≠ [] ∧ _))

theorem isScoped_eq (path : String) (predicate : Predicate) :
    predicate.isScoped path = decide (SpeaksUnder path predicate) := by
  rw [Bool.eq_iff_iff, decide_eq_true_iff, isScoped, SpeaksUnder, Bool.and_eq_true,
    List.all_eq_true]
  simp only [isUnder_iff_segments, Bool.not_eq_true', List.isEmpty_eq_false_iff]

mutual
/-- The conditions of a conjunction, those of conjunctions inside it among them; any other predicate
is a condition by itself. -/
def parts : Predicate → List Predicate
  | all predicates => partsOfAll predicates
  | other => [other]
termination_by structural predicate => predicate

def partsOfAll : List Predicate → List Predicate
  | [] => []
  | predicate :: predicates => predicate.parts ++ partsOfAll predicates
termination_by structural predicates => predicates
end

theorem partsOfAll_eq (predicates : List Predicate) :
    partsOfAll predicates = predicates.flatMap parts := by
  induction predicates with
  | nil => rfl
  | cons predicate predicates ih => rw [partsOfAll, ih, List.flatMap_cons]

theorem flatMap_parts_conjuncts (predicate : Predicate) :
    predicate.conjuncts.flatMap parts = predicate.parts := by
  cases predicate with
  | all predicates => rw [conjuncts, parts, partsOfAll_eq]
  | _ => exact List.append_nil _

theorem parts_allOf (predicates : List Predicate) :
    (allOf predicates).toList.flatMap parts = predicates.flatMap parts := by
  have flat : (predicates.flatMap conjuncts).flatMap parts = predicates.flatMap parts := by
    rw [List.flatMap_assoc]
    exact List.flatMap_congr fun predicate _ => flatMap_parts_conjuncts predicate
  rw [← flat, allOf]
  split
  · rename_i none
    rw [none]
    rfl
  · rename_i only
    rw [only]
    rfl
  · rw [Option.toList_some, List.flatMap_singleton, parts, partsOfAll_eq]

theorem allOf_eq_none_iff (predicates : List Predicate) :
    allOf predicates = none ↔ ∀ predicate ∈ predicates, predicate.conjuncts = [] := by
  rw [← List.flatMap_eq_nil_iff, allOf]
  split <;> simp_all

theorem conjuncts_ne_nil {path : String} {predicate : Predicate}
    (speaks : SpeaksUnder path predicate) : predicate.conjuncts ≠ [] := by
  cases predicate with
  | all predicates =>
      rintro rfl
      exact speaks.1 rfl
  | _ => exact List.cons_ne_nil _ _

/-- A predicate, or none, asks for some predicates in their order and for nothing else. Those that
are conjunctions themselves are taken apart. -/
structure Conjoins (whole : Option Predicate) (predicates : List Predicate) : Prop where
  parts : whole.toList.flatMap parts = predicates.flatMap parts
  none : whole = none ↔ predicates = []
  single : (∀ predicate ∈ predicates, predicate.conjuncts = [predicate]) →
    whole.toList.flatMap conjuncts = predicates

theorem conjoins_allOf {predicates : List Predicate}
    (some : ∀ predicate ∈ predicates, predicate.conjuncts ≠ []) :
    Conjoins (allOf predicates) predicates where
  parts := parts_allOf predicates
  none := by
    rw [allOf_eq_none_iff]
    constructor
    · intro empty
      exact List.eq_nil_iff_forall_not_mem.mpr fun predicate member =>
        some predicate member (empty predicate member)
    · rintro rfl
      exact nofun
  single := by
    intro single
    by_cases empty : predicates = []
    · rw [empty]
      rfl
    · obtain ⟨whole, made, together⟩ :=
        Option.map_eq_some_iff.mp (conjuncts_allOf empty single)
      rw [made, Option.toList_some, List.flatMap_singleton, together]

/-- A path lies under another one exactly if its segments begin with those of the other, which the
bytes of both tell as well, and this orders the paths. What is asked again below a path are the
conjuncts of a predicate that mention some field, and only fields whose segments begin with those of
the path. -/
theorem containment_goes_by_segments :
    (∀ path container,
        isUnder path container = true ↔ segments container <+: segments path) ∧
      (∀ path container, isUnder path container = true ↔
        path = container ∨ Text.bytes container <+: Text.bytes path ∧
          (Text.bytes path)[(Text.bytes container).length]? = some '.'.toUInt8) ∧
      IsPartialOrder String (fun path container => isUnder path container = true) ∧
      ∀ (predicate : Predicate) (path : String),
        Conjoins (predicate.scopedTo path) (predicate.conjuncts.filter (SpeaksUnder path)) := by
  refine ⟨isUnder_iff_segments, isUnder_iff_bytes, isPartialOrder_isUnder, ?_⟩
  intro predicate path
  rw [scopedTo, funext (isScoped_eq path)]
  refine conjoins_allOf fun conjunct member => ?_
  exact conjuncts_ne_nil (of_decide_eq_true (List.mem_filter.mp member).2)

end Engagements.Predicate
