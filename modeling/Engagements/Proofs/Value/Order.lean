import Engagements.Value.Order

/-!
The order of values is total: comparing two values the other way round turns the answer round, and
what two comparisons say is said of their ends.
-/
namespace Engagements

/-- What the comparisons of two neighbours and of the ends of a chain of three have to do with each
other. -/
structure Chained (first second both : Ordering) : Prop where
  left : first = .eq → both = second
  right : second = .eq → both = first
  along : first = second → both = first

namespace Chained

theorem of_transCmp {α : Type} (compared : α → α → Ordering) [Std.TransCmp compared] (a b c : α) :
    Chained (compared a b) (compared b c) (compared a c) where
  left same := Std.TransCmp.congr_left same
  right same := (Std.TransCmp.congr_right same).symm
  along same := by
    cases here : compared a b with
    | lt => exact Std.TransCmp.lt_trans here (same ▸ here)
    | eq => exact (Std.TransCmp.congr_left here).trans (same ▸ here)
    | gt => exact Std.TransCmp.gt_trans here (same ▸ here)

theorem isLE {first second both : Ordering} (chained : Chained first second both)
    (before : first.isLE = true) (after : second.isLE = true) : both.isLE = true := by
  cases first with
  | lt =>
      cases second with
      | lt => rw [chained.along rfl]; exact before
      | eq => rw [chained.right rfl]; exact before
      | gt => cases after
  | eq => rw [chained.left rfl]; exact after
  | gt => cases before

theorem swap {first second both : Ordering} (chained : Chained first second both) :
    Chained first.swap second.swap both.swap where
  left same := by rw [chained.left (Ordering.swap_eq_eq.mp same)]
  right same := by rw [chained.right (Ordering.swap_eq_eq.mp same)]
  along same := by rw [chained.along (Ordering.swap_inj.mp same)]

/-- A second comparison only matters where the first one finds no difference. -/
theorem andThen {first second both first' second' both' : Ordering}
    (chained : Chained first second both)
    (chained' : first = .eq → second = .eq → Chained first' second' both') :
    Chained (first.then first') (second.then second') (both.then both') := by
  cases first with
  | eq =>
      obtain rfl := chained.left rfl
      cases both with
      | eq => exact chained' rfl rfl
      | lt => exact ⟨fun _ => rfl, nofun, fun same => same.symm⟩
      | gt => exact ⟨fun _ => rfl, nofun, fun same => same.symm⟩
  | lt =>
      cases second with
      | eq =>
          obtain rfl := chained.right rfl
          exact ⟨nofun, fun _ => rfl, fun _ => rfl⟩
      | lt =>
          obtain rfl := chained.along rfl
          exact ⟨nofun, nofun, fun _ => rfl⟩
      | gt => exact ⟨nofun, nofun, nofun⟩
  | gt =>
      cases second with
      | eq =>
          obtain rfl := chained.right rfl
          exact ⟨nofun, fun _ => rfl, fun _ => rfl⟩
      | lt => exact ⟨nofun, nofun, nofun⟩
      | gt =>
          obtain rfl := chained.along rfl
          exact ⟨nofun, nofun, fun _ => rfl⟩

end Chained

namespace Value

/-- Values of different kinds are in the order of the kinds. -/
theorem order_eq_then (a b : Value) :
    a.order b = (compare a.kindRank b.kindRank).then (a.order b) := by
  cases a <;> cases b <;> rfl

mutual
theorem swap_order (a b : Value) : (a.order b).swap = b.order a := by
  cases a with
  | null => cases b <;> rfl
  | bool x =>
      cases b with
      | bool y => exact (Std.OrientedCmp.eq_swap : compare y.toNat x.toNat = _).symm
      | _ => rfl
  | number x =>
      cases b with
      | number y =>
          exact (Std.OrientedCmp.eq_swap : compare y.toDouble.key x.toDouble.key = _).symm
      | _ => rfl
  | string x =>
      cases b with
      | string y => exact (Std.OrientedCmp.eq_swap : compare y x = _).symm
      | _ => rfl
  | array items =>
      cases b with
      | array others => exact swap_orderItems items others
      | _ => rfl
  | object fields =>
      cases b with
      | object others => exact swap_orderFields fields others
      | _ => rfl
termination_by structural a

theorem swap_orderItems (items others : List Value) :
    (orderItems items others).swap = orderItems others items := by
  cases items with
  | nil => cases others <;> rfl
  | cons item items =>
      cases others with
      | nil => rfl
      | cons other others =>
          rw [orderItems, orderItems, Ordering.swap_then, swap_order item other,
            swap_orderItems items others]
termination_by structural items

theorem swap_orderFields (fields others : Fields) :
    (orderFields fields others).swap = orderFields others fields := by
  cases fields with
  | nil => cases others <;> rfl
  | cons field fields =>
      cases others with
      | nil => rfl
      | cons other others =>
          obtain ⟨name, value⟩ := field
          obtain ⟨otherName, otherValue⟩ := other
          have names : (compare name otherName).swap = compare otherName name :=
            Std.OrientedCmp.eq_swap.symm
          rw [orderFields, orderFields, Ordering.swap_then, Ordering.swap_then, names,
            swap_order value otherValue, swap_orderFields fields others]
termination_by structural fields
end

instance : Std.OrientedCmp order := ⟨fun {a b} => (swap_order b a).symm⟩

theorem eq_null_of_order {a : Value} (tied : a.order .null = .eq) : a = .null := by
  cases a with
  | null => rfl
  | bool | number | string | array | object => exact absurd tied (nofun : Ordering.gt ≠ .eq)

theorem order_self (a : Value) : a.order a = .eq := Std.ReflCmp.compare_self

/-- Two values of one kind. -/
inductive SameKind : Value → Value → Prop where
  | null : SameKind null null
  | bool (x y : Bool) : SameKind (bool x) (bool y)
  | number (x y : Number) : SameKind (number x) (number y)
  | string (x y : String) : SameKind (string x) (string y)
  | array (items others : List Value) : SameKind (array items) (array others)
  | object (fields others : Fields) : SameKind (object fields) (object others)

theorem sameKind_of_kindRank {a b : Value} (same : a.kindRank = b.kindRank) : SameKind a b := by
  cases a <;> cases b <;> first | constructor | simp [kindRank] at same

mutual
/-- Values of different kinds chain as their kinds do, and those of one kind as their parts do. -/
theorem chained_order (a b c : Value) : Chained (a.order b) (b.order c) (a.order c) := by
  rw [order_eq_then a b, order_eq_then b c, order_eq_then a c]
  refine (Chained.of_transCmp compare _ _ _).andThen fun same same' => ?_
  rw [Std.LawfulEqCmp.compare_eq_iff_eq] at same same'
  have kind := sameKind_of_kindRank same
  have kind' := sameKind_of_kindRank same'
  cases a with
  | null =>
      cases kind
      cases kind'
      exact ⟨fun _ => rfl, fun _ => rfl, fun _ => rfl⟩
  | bool x =>
      cases kind
      cases kind'
      exact Chained.of_transCmp compare x.toNat _ _
  | number x =>
      cases kind
      cases kind'
      exact Chained.of_transCmp compare x.toDouble.key _ _
  | string x =>
      cases kind
      cases kind'
      exact Chained.of_transCmp compare x _ _
  | array items =>
      cases kind
      cases kind'
      exact chained_orderItems items _ _
  | object fields =>
      cases kind
      cases kind'
      exact chained_orderFields fields _ _
termination_by structural a

theorem chained_orderItems (first second third : List Value) :
    Chained (orderItems first second) (orderItems second third) (orderItems first third) := by
  cases first with
  | nil =>
      cases second with
      | nil => exact ⟨fun _ => rfl, fun same => same, fun same => same.symm⟩
      | cons b second =>
          cases third with
          | nil => exact ⟨nofun, nofun, nofun⟩
          | cons c third => exact ⟨nofun, fun _ => rfl, fun _ => rfl⟩
  | cons a first =>
      cases second with
      | nil =>
          cases third with
          | nil => exact ⟨nofun, fun _ => rfl, nofun⟩
          | cons c third => exact ⟨nofun, nofun, nofun⟩
      | cons b second =>
          cases third with
          | nil => exact ⟨fun _ => rfl, nofun, fun same => same.symm⟩
          | cons c third =>
              exact (chained_order a b c).andThen fun _ _ => chained_orderItems first second third
termination_by structural first

theorem chained_orderFields (first second third : Fields) :
    Chained (orderFields first second) (orderFields second third) (orderFields first third) := by
  cases first with
  | nil =>
      cases second with
      | nil => exact ⟨fun _ => rfl, fun same => same, fun same => same.symm⟩
      | cons b second =>
          cases third with
          | nil => exact ⟨nofun, nofun, nofun⟩
          | cons c third => exact ⟨nofun, fun _ => rfl, fun _ => rfl⟩
  | cons a first =>
      cases second with
      | nil =>
          cases third with
          | nil => exact ⟨nofun, fun _ => rfl, nofun⟩
          | cons c third => exact ⟨nofun, nofun, nofun⟩
      | cons b second =>
          cases third with
          | nil => exact ⟨fun _ => rfl, nofun, fun same => same.symm⟩
          | cons c third =>
              exact (Chained.of_transCmp compare a.1 b.1 c.1).andThen fun _ _ =>
                (chained_order a.2 b.2 c.2).andThen fun _ _ => chained_orderFields first second third
termination_by structural first
end

instance : Std.TransCmp order :=
  ⟨fun {a b c} before after => (chained_order a b c).isLE before after⟩

end Value

end Engagements
