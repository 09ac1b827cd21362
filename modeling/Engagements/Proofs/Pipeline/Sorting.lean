import Engagements.Pipeline.Run
import Engagements.Proofs.Value.Order

/-!
Sorting by keys: the first key on which two documents differ decides, and documents that no key
tells apart stay in the order in which they came. There is one such arrangement only.
-/
namespace Engagements

namespace Document

/-- No key tells two documents apart. -/
def Ties (keys : List SortKey) (left right : Document) : Prop :=
  ∀ key ∈ keys, (sortValue left key).order (sortValue right key) = .eq

instance (keys : List SortKey) (left right : Document) : Decidable (Ties keys left right) :=
  inferInstanceAs (Decidable (∀ key ∈ keys, _))

/-- The first key that tells two documents apart puts the left one first: by the lesser value in
ascending order, and by the greater one in descending order. -/
def Precedes (keys : List SortKey) (left right : Document) : Prop :=
  ∃ before key after, keys = before ++ key :: after ∧ Ties before left right ∧
    (sortValue left key).order (sortValue right key) =
      match key.order with
      | .ascending => .lt
      | .descending => .gt

theorem apply_order_eq_iff (order : SortOrder) (compared : Ordering) :
    order.apply compared = .eq ↔ compared = .eq := by
  cases order <;> cases compared <;> decide

theorem apply_order_lt_iff (order : SortOrder) (compared : Ordering) :
    order.apply compared = .lt ↔
      compared = match order with
        | .ascending => .lt
        | .descending => .gt := by
  cases order <;> cases compared <;> decide

theorem orderBy_eq_iff (keys : List SortKey) (left right : Document) :
    orderBy keys left right = .eq ↔ Ties keys left right := by
  induction keys with
  | nil => exact iff_of_true rfl (List.forall_mem_nil _)
  | cons key keys ih =>
      rw [orderBy, Ordering.then_eq_eq, apply_order_eq_iff, ih, Ties, Ties, List.forall_mem_cons]

theorem orderBy_lt_iff (keys : List SortKey) (left right : Document) :
    orderBy keys left right = .lt ↔ Precedes keys left right := by
  induction keys with
  | nil =>
      refine iff_of_false nofun ?_
      rintro ⟨before, key, after, split, _⟩
      cases before <;> cases split
  | cons key keys ih =>
      rw [orderBy, Ordering.then_eq_lt, apply_order_lt_iff, apply_order_eq_iff, ih]
      constructor
      · rintro (first | ⟨same, before, decider, after, split, ties, decided⟩)
        · exact ⟨[], key, keys, rfl, List.forall_mem_nil _, first⟩
        · exact ⟨key :: before, decider, after, by rw [split, List.cons_append],
            List.forall_mem_cons.mpr ⟨same, ties⟩, decided⟩
      · rintro ⟨before, decider, after, split, ties, decided⟩
        cases before with
        | nil =>
            obtain ⟨rfl, rfl⟩ := List.cons.inj split
            exact Or.inl decided
        | cons first before =>
            obtain ⟨rfl, rfl⟩ := List.cons.inj split
            obtain ⟨same, ties⟩ := List.forall_mem_cons.mp ties
            exact Or.inr ⟨same, before, decider, after, rfl, ties, decided⟩

theorem swap_apply_order (order : SortOrder) (compared : Ordering) :
    (order.apply compared).swap = order.apply compared.swap := by
  cases order <;> rfl

theorem swap_orderBy (keys : List SortKey) (left right : Document) :
    (orderBy keys left right).swap = orderBy keys right left := by
  induction keys with
  | nil => rfl
  | cons key keys ih =>
      rw [orderBy, orderBy, Ordering.swap_then, swap_apply_order, Value.swap_order, ih]

theorem chained_orderBy (keys : List SortKey) (a b c : Document) :
    Chained (orderBy keys a b) (orderBy keys b c) (orderBy keys a c) := by
  induction keys with
  | nil => exact ⟨fun _ => rfl, fun _ => rfl, fun _ => rfl⟩
  | cons key keys ih =>
      have values := Value.chained_order (sortValue a key) (sortValue b key) (sortValue c key)
      have decided : Chained
          (key.order.apply ((sortValue a key).order (sortValue b key)))
          (key.order.apply ((sortValue b key).order (sortValue c key)))
          (key.order.apply ((sortValue a key).order (sortValue c key))) := by
        cases key.order with
        | ascending => exact values
        | descending => exact values.swap
      exact decided.andThen fun _ _ => ih

instance (keys : List SortKey) : Std.TransCmp (orderBy keys) where
  eq_swap {a b} := (swap_orderBy keys b a).symm
  isLE_trans {a b c} before after := (chained_orderBy keys a b c).isLE before after

end Document

/-! Sorting in general. -/

namespace Sorting

variable {α : Type} {compared : α → α → Ordering}

/-- In a list that is in order, no item is greater than one behind it. -/
def InOrder (compared : α → α → Ordering) (list : List α) : Prop :=
  list.Pairwise fun earlier later => (compared earlier later).isLE = true

/-- The items of a list with which a given one compares as equal. -/
def peers (compared : α → α → Ordering) (item : α) (list : List α) : List α :=
  list.filter fun other => compared item other == .eq

theorem ne_gt_eq_isLE (left right : α) :
    (compared left right != .gt) = (compared left right).isLE := by
  cases compared left right <;> rfl

theorem mem_peers (item other : α) (list : List α) :
    other ∈ peers compared item list ↔ other ∈ list ∧ compared item other = .eq := by
  rw [peers, List.mem_filter, beq_iff_eq]

theorem peers_cons {item first : α} (level : compared item first = .eq) (list : List α) :
    peers compared item (first :: list) = first :: peers compared item list := by
  simp [peers, level]

variable [Std.TransCmp compared]

theorem isLE_total (left right : α) :
    ((compared left right).isLE || (compared right left).isLE) = true := by
  cases here : compared left right with
  | lt => rfl
  | eq => rfl
  | gt =>
      rw [Std.OrientedCmp.lt_of_gt here]
      rfl

theorem inOrder_mergeSort (list : List α) :
    InOrder compared (list.mergeSort fun left right => compared left right != .gt) := by
  simp only [ne_gt_eq_isLE]
  exact List.pairwise_mergeSort (fun _ _ _ => Std.TransCmp.isLE_trans) isLE_total list

/-- Items that compare as equal are not moved past each other. -/
theorem peers_mergeSort (list : List α) (item : α) :
    peers compared item (list.mergeSort fun left right => compared left right != .gt) =
      peers compared item list := by
  simp only [ne_gt_eq_isLE]
  have level : (peers compared item list).Pairwise fun left right =>
      (compared left right).isLE = true := by
    refine List.pairwise_of_forall_mem_list fun left here right there => ?_
    have before := ((mem_peers item left list).mp here).2
    have after := ((mem_peers item right list).mp there).2
    rw [← Std.TransCmp.congr_left before, after]
    rfl
  have kept : (peers compared item list).Sublist
      (list.mergeSort fun left right => (compared left right).isLE) :=
    List.sublist_mergeSort (fun _ _ _ => Std.TransCmp.isLE_trans) isLE_total level
      List.filter_sublist
  have among := kept.filter fun other => compared item other == .eq
  rw [peers, List.filter_filter] at among
  simp only [Bool.and_self] at among
  have lengths := ((list.mergeSort_perm fun left right => (compared left right).isLE).filter
    fun other => compared item other == .eq).length_eq
  exact (among.eq_of_length lengths.symm).symm

theorem isLE_of_inOrder {first item : α} {list : List α}
    (ordered : InOrder compared (first :: list)) (member : item ∈ first :: list) :
    (compared first item).isLE = true := by
  rcases List.mem_cons.mp member with rfl | later
  · have same : compared item item = .eq := Std.ReflCmp.compare_self
    rw [same]
    rfl
  · exact List.rel_of_pairwise_cons ordered later

theorem subset_of_peers {first second : List α}
    (alike : ∀ item, peers compared item first = peers compared item second) :
    first ⊆ second := by
  intro item member
  have same : compared item item = .eq := Std.ReflCmp.compare_self
  have among := (mem_peers item item first).mpr ⟨member, same⟩
  rw [alike] at among
  exact ((mem_peers item item second).mp among).1

/-- A list in order is determined by the order among the items that compare as equal. -/
theorem eq_of_peers {first second : List α} (ordered : InOrder compared first)
    (ordered' : InOrder compared second)
    (alike : ∀ item, peers compared item first = peers compared item second) :
    first = second := by
  induction first generalizing second with
  | nil => exact (List.subset_nil.mp (subset_of_peers fun item => (alike item).symm)).symm
  | cons a first ih =>
      cases second with
      | nil => exact List.subset_nil.mp (subset_of_peers alike)
      | cons b second =>
          have before := isLE_of_inOrder ordered
            (subset_of_peers (fun item => (alike item).symm) List.mem_cons_self)
          have after := isLE_of_inOrder ordered' (subset_of_peers alike List.mem_cons_self)
          have level : compared a b = .eq := Std.OrientedCmp.isLE_antisymm before after
          have self : compared a a = .eq := Std.ReflCmp.compare_self
          have heads := alike a
          rw [peers_cons self, peers_cons level] at heads
          obtain rfl := (List.cons.inj heads).1
          refine congrArg (a :: ·) (ih ordered.of_cons ordered'.of_cons fun item => ?_)
          have tails := alike item
          by_cases same : compared item a = .eq
          · rw [peers_cons same, peers_cons same] at tails
            exact (List.cons.inj tails).2
          · simpa [peers, same] using tails

end Sorting

namespace Document

theorem inOrder_iff (keys : List SortKey) (documents : List Document) :
    Sorting.InOrder (orderBy keys) documents ↔
      documents.Pairwise fun earlier later => ¬Precedes keys later earlier := by
  refine List.Pairwise.iff fun earlier later => ?_
  rw [← orderBy_lt_iff, ← Std.OrientedCmp.gt_iff_lt, Ordering.isLE_iff_ne_gt]

theorem peers_eq (keys : List SortKey) (document : Document) (documents : List Document) :
    Sorting.peers (orderBy keys) document documents =
      documents.filter fun other => Ties keys document other := by
  refine List.filter_congr fun other _ => ?_
  rw [Bool.eq_iff_iff, beq_iff_eq, decide_eq_true_iff, orderBy_eq_iff]

end Document

open Document

/-- The order of values is reflexive, turns round with its sides, and is transitive. So sorting by
any keys, of which a missing value counts as null, arranges the documents in one way only: no
document stands behind one that it precedes, and those that no key tells apart, in ascending order
or in descending order, stay in the order in which they came. -/
theorem sort_is_stable :
    (∀ a : Value, a.order a = .eq) ∧ (∀ a b : Value, b.order a = (a.order b).swap) ∧
      (∀ a b c : Value, a.order b ≠ .gt → b.order c ≠ .gt → a.order c ≠ .gt) ∧
        ∀ (keys : List SortKey) (documents : List Document), ∃ arranged,
          Stage.run documents (.sort keys) = .ok arranged ∧ arranged.Perm documents ∧
            (arranged.Pairwise fun earlier later => ¬Precedes keys later earlier) ∧
              (∀ document, (arranged.filter fun other => Ties keys document other) =
                documents.filter fun other => Ties keys document other) ∧
                ∀ others : List Document,
                  (others.Pairwise fun earlier later => ¬Precedes keys later earlier) →
                    (∀ document, (others.filter fun other => Ties keys document other) =
                      documents.filter fun other => Ties keys document other) →
                        others = arranged := by
  refine ⟨Value.order_self, fun a b => (Value.swap_order a b).symm, fun a b c before after => ?_,
    fun keys documents => ?_⟩
  · rw [ne_eq, ← Ordering.isLE_iff_ne_gt] at before after ⊢
    exact Std.TransCmp.isLE_trans before after
  simp only [← inOrder_iff, ← peers_eq]
  have stable : ∀ document, Sorting.peers (orderBy keys) document (documents.mergeSort
      fun left right => orderBy keys left right != .gt) =
        Sorting.peers (orderBy keys) document documents := Sorting.peers_mergeSort documents
  refine ⟨_, rfl, List.mergeSort_perm _ _, Sorting.inOrder_mergeSort documents, stable, ?_⟩
  intro others ordered alike
  exact Sorting.eq_of_peers ordered (Sorting.inOrder_mergeSort documents) fun item =>
    (alike item).trans (stable item).symm

/-- Two documents with one number, the second time as a double, and one without a number. -/
def numbered : List Document :=
  [[("name", .string "a"), ("number", .int 1)],
    [("name", .string "b"), ("number", .number (.double (Double.ofInt 1)))],
    [("name", .string "c")]]

theorem descending_ties_keep_order :
    Stage.run numbered (.sort [⟨"number", .descending⟩]) = .ok numbered ∧
      Stage.run numbered (.sort [⟨"number", .ascending⟩]) =
        .ok [[("name", .string "c")], [("name", .string "a"), ("number", .int 1)],
          [("name", .string "b"), ("number", .number (.double (Double.ofInt 1)))]] := by
  constructor
  · obtain ⟨arranged, ran, _, _, _, only⟩ :=
      sort_is_stable.2.2.2 [⟨"number", .descending⟩] numbered
    rw [ran, ← only numbered ?_ fun _ => rfl]
    simp only [← orderBy_lt_iff]
    decide +kernel
  · obtain ⟨arranged, ran, _, _, _, only⟩ :=
      sort_is_stable.2.2.2 [⟨"number", .ascending⟩] numbered
    rw [ran, ← only _ ?_ fun document => ?_]
    · simp only [← orderBy_lt_iff]
      decide +kernel
    · simp only [Ties, List.forall_mem_singleton]
      generalize sortValue document ⟨"number", .ascending⟩ = value
      -- A document ties with the last one or with the first two, as its own value is null or not.
      by_cases tied : value.order .null = .eq
      · rw [Value.eq_null_of_order tied]
        decide +kernel
      · have last : ¬value.order (sortValue [("name", .string "c")] ⟨"number", .ascending⟩) = .eq :=
          tied
        simp [numbered, List.filter_cons, last]

end Engagements
