import Engagements.Proofs.Path
import Mathlib.Data.List.Sort
import Mathlib.Data.String.Basic
import Mathlib.Order.Compare

/-!
Sets of texts as ascending lists, and the place of a path among those that it leads to.
-/
namespace Engagements.Text

theorem eraseReps_loop_eq {α : Type} (r : α → α → Bool) (a : α) (as before : List α) :
    List.eraseRepsBy.loop r a as before =
      before.reverse ++ List.eraseRepsBy.loop r a as [] := by
  induction as generalizing a before with
  | nil => simp [List.eraseRepsBy.loop]
  | cons b as ih =>
      rw [List.eraseRepsBy.loop, List.eraseRepsBy.loop]
      cases r a b with
      | true => exact ih a before
      | false =>
          dsimp only
          rw [ih b (a :: before), ih b [a]]
          simp

theorem eraseReps_cons_cons (a b : String) (rest : List String) :
    (a :: b :: rest).eraseReps =
      if a = b then (a :: rest).eraseReps else a :: (b :: rest).eraseReps := by
  change List.eraseRepsBy.loop _ a (b :: rest) [] = _
  rw [List.eraseRepsBy.loop]
  by_cases same : a = b
  · rw [if_pos same, beq_iff_eq.mpr same]
    rfl
  · rw [if_neg same, beq_eq_false_iff_ne.mpr same]
    exact eraseReps_loop_eq _ b rest [a]

theorem mem_eraseReps_cons (first text : String) (rest : List String) :
    text ∈ (first :: rest).eraseReps ↔ text ∈ first :: rest := by
  induction rest generalizing first with
  | nil => rfl
  | cons second rest ih =>
      rw [eraseReps_cons_cons]
      split
      · rename_i same
        rw [ih, same]
        simp
      · rw [List.mem_cons, ih, ← List.mem_cons]

theorem ascending_eraseReps {texts : List String} (sorted : texts.Pairwise (· ≤ ·)) :
    texts.eraseReps.Pairwise (· < ·) := by
  cases texts with
  | nil => exact List.Pairwise.nil
  | cons first rest =>
      induction rest generalizing first with
      | nil => exact List.pairwise_singleton _ _
      | cons second rest ih =>
          obtain ⟨least, others⟩ := List.pairwise_cons.mp sorted
          rw [eraseReps_cons_cons]
          split
          · obtain ⟨_, later⟩ := List.pairwise_cons.mp others
            refine ih first (List.pairwise_cons.mpr ⟨fun text inside => ?_, later⟩)
            exact least text (List.mem_cons_of_mem _ inside)
          · rename_i different
            refine List.pairwise_cons.mpr ⟨fun text inside => ?_, ih second others⟩
            have before : first < second :=
              lt_of_le_of_ne (least second List.mem_cons_self) different
            rcases List.mem_cons.mp ((mem_eraseReps_cons second text rest).mp inside) with
              rfl | later
            · exact before
            · exact lt_of_lt_of_le before ((List.pairwise_cons.mp others).1 text later)

theorem mem_sortedSet (text : String) (texts : List String) :
    text ∈ sortedSet texts ↔ text ∈ texts := by
  have members : (text ∈ texts.mergeSort fun a b => compare a b != .gt) ↔ text ∈ texts :=
    List.mem_mergeSort
  rw [← members, sortedSet]
  cases texts.mergeSort fun a b => compare a b != .gt with
  | nil => rfl
  | cons first rest => exact mem_eraseReps_cons first text rest

theorem ascending_sortedSet (texts : List String) : (sortedSet texts).Pairwise (· < ·) := by
  have sorted : (texts.mergeSort fun a b => compare a b != .gt).Pairwise (· ≤ ·) := by
    refine (List.pairwise_mergeSort ?_ ?_ texts).imp fun {a b} before => ?_
    · intro a b c first second
      simp only [bne_iff_ne, compare_le_iff_le] at *
      exact le_trans first second
    · intro a b
      simp only [Bool.or_eq_true, bne_iff_ne, compare_le_iff_le]
      exact le_total a b
    · exact compare_le_iff_le.mp (bne_iff_ne.mp before)
  exact ascending_eraseReps sorted

theorem sortedSet_of_ascending {texts : List String} (ascending : texts.Pairwise (· < ·)) :
    sortedSet texts = texts :=
  (ascending_sortedSet texts).eq_of_mem_iff ascending fun text => mem_sortedSet text texts

end Engagements.Text

namespace Engagements

/-- A path does not stand before those that lead to it. -/
theorem segments_prefix_le {path other : String} (leads : segments other <+: segments path) :
    other ≤ path := by
  have under := (isUnder_iff_segments path other).mpr leads
  rw [isUnder, Bool.or_eq_true, beq_iff_eq, List.isPrefixOf_iff_prefix] at under
  rcases under with same | continued
  · exact le_of_eq same.symm
  · rw [← not_lt, String.lt_iff_toList_lt]
    exact ((List.prefix_append _ _).trans continued).le

end Engagements
