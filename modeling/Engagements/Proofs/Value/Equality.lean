import Engagements.Proofs.Value
import Engagements.Proofs.Value.Order
import Mathlib.Data.List.Sort
import Mathlib.Data.Set.Function
import Mathlib.Data.String.Basic

/-!
Equal values by normal forms. Values agree, or are level in their order, if one normal form of both
is the same; the two forms forget different things.
-/
namespace Engagements

/-! Normal forms. -/

/-- Both zeros become the one without a sign. -/
def Double.plain (d : Double) : Double := if d.rank = 0 then zero else d

theorem Double.plain_eq_iff (d e : Double) : d.plain = e.plain ↔ d.key = e.key := by
  obtain ⟨negative, rank, finite⟩ := d
  obtain ⟨negative', rank', finite'⟩ := e
  simp only [plain, key, zero]
  split_ifs <;> simp_all <;> omega

theorem Double.plain_plain (d : Double) : d.plain.plain = d.plain := by
  unfold plain
  split_ifs <;> simp_all

namespace Number

/-- The number itself, the zeros of the doubles apart. -/
def plain : Number → Number
  | integer n => integer n
  | double d => double d.plain

/-- The number as a double. -/
def measured (n : Number) : Number := double n.toDouble.plain

theorem measured_eq_iff (n m : Number) :
    n.measured = m.measured ↔ n.toDouble.key = m.toDouble.key := by
  rw [measured, measured, Number.double.injEq, Double.plain_eq_iff]

theorem same_iff (n m : Number) : n.same m = true ↔ n.plain = m.plain := by
  cases n <;> cases m <;> simp [same, plain, Double.plain_eq_iff]

theorem measured_measured (n : Number) : n.measured.measured = n.measured :=
  congrArg double (Double.plain_plain n.toDouble)

theorem measured_plain (n : Number) : n.plain.measured = n.measured := by
  cases n with
  | integer n => rfl
  | double d => exact congrArg double (Double.plain_plain d)

end Number

namespace Fields

/-- Fields in the order of their names. -/
def byName (fields : Fields) : Fields :=
  fields.insertionSort fun field other => field.1 ≤ other.1

theorem byName_perm (fields : Fields) : (byName fields).Perm fields :=
  List.perm_insertionSort _ fields

theorem byName_ascends (fields : Fields) :
    (byName fields).Pairwise fun field other => field.1 ≤ other.1 := by
  have total : Std.Total fun field other : String × Value => field.1 ≤ other.1 :=
    ⟨fun field other => le_total field.1 other.1⟩
  have trans : IsTrans (String × Value) fun field other => field.1 ≤ other.1 :=
    ⟨fun _ _ _ => le_trans⟩
  exact List.pairwise_insertionSort _ fields

/-- Ordered by their names, fields are told by which they are. -/
theorem byName_eq_iff {fields others : Fields} (distinct : fields.names.Nodup) :
    byName fields = byName others ↔ fields.Perm others := by
  constructor
  · intro same
    exact (byName_perm fields).symm.trans (same ▸ byName_perm others)
  · intro permuted
    have all : (byName fields).Perm (byName others) :=
      (byName_perm fields).trans (permuted.trans (byName_perm others).symm)
    refine all.eq_of_pairwise (fun field other member member' before after => ?_)
      (byName_ascends fields) (byName_ascends others)
    have inside : field ∈ fields := (byName_perm fields).mem_iff.mp member
    have inside' : other ∈ fields :=
      permuted.mem_iff.mpr ((byName_perm others).mem_iff.mp member')
    exact List.inj_on_of_nodup_map distinct inside inside' (le_antisymm before after)

/-- Fields with names of their own are told by what stands under every name. -/
theorem perm_iff_get? {fields others : Fields} (distinct : fields.names.Nodup)
    (distinct' : others.names.Nodup) :
    fields.Perm others ↔ ∀ name, get? fields name = get? others name := by
  constructor
  · intro permuted name
    exact (get?_perm distinct permuted name).symm
  · intro same
    refine (List.perm_ext_iff_of_nodup distinct.of_map distinct'.of_map).mpr fun (name, value) => ?_
    constructor
    · intro member
      exact mem_of_get? (same name ▸ get?_of_mem distinct member)
    · intro member
      exact mem_of_get? (same name ▸ get?_of_mem distinct' member)

theorem get?_mapped (f : Value → Value) (fields : Fields) (name : String) :
    get? (fields.map fun field => (field.1, f field.2)) name = (get? fields name).map f := by
  induction fields with
  | nil => rfl
  | cons field fields ih =>
      rw [List.map_cons, get?, get?, ih]
      split <;> rfl

end Fields

namespace Value

mutual
/-- A value with its numbers and the fields of its objects in a normal form. -/
def normal (number : Number → Number) (arranged : Fields → Fields) : Value → Value
  | .null => .null
  | .bool b => .bool b
  | .number n => .number (number n)
  | .string s => .string s
  | .array items => .array (normalItems number arranged items)
  | .object fields => .object (arranged (normalFields number arranged fields))
termination_by structural value => value

def normalItems (number : Number → Number) (arranged : Fields → Fields) :
    List Value → List Value
  | [] => []
  | item :: items => normal number arranged item :: normalItems number arranged items
termination_by structural items => items

def normalFields (number : Number → Number) (arranged : Fields → Fields) : Fields → Fields
  | [] => []
  | (name, value) :: fields =>
    (name, normal number arranged value) :: normalFields number arranged fields
termination_by structural fields => fields
end

/-- What the order of values sees: all numbers as doubles. -/
def placed : Value → Value := normal Number.measured id

/-- What the equality of values sees: fields without their order, and zeros without their sign. -/
def settled : Value → Value := normal Number.plain Fields.byName

/-- What the search for a value sees: a number by itself is taken as a double. -/
def matched : Value → Value
  | number n => number n.measured
  | value => value.settled

section Normal

variable {number : Number → Number} {arranged : Fields → Fields}

theorem normalItems_eq (items : List Value) :
    normalItems number arranged items = items.map (normal number arranged) := by
  induction items with
  | nil => rfl
  | cons item items ih => rw [normalItems, ih, List.map_cons]

theorem normalFields_eq (fields : Fields) :
    normalFields number arranged fields =
      fields.map fun field => (field.1, normal number arranged field.2) := by
  induction fields with
  | nil => rfl
  | cons field fields ih => rw [normalFields, ih, List.map_cons]

theorem normal_array (items : List Value) :
    normal number arranged (array items) = array (items.map (normal number arranged)) := by
  rw [normal, normalItems_eq]

theorem normal_object (fields : Fields) :
    normal number arranged (object fields) =
      object (arranged (fields.map fun field => (field.1, normal number arranged field.2))) := by
  rw [normal, normalFields_eq]

@[simp] theorem kindRank_normal (value : Value) :
    (normal number arranged value).kindRank = value.kindRank := by
  cases value <;> rfl

end Normal

/-! Values that are level. -/

mutual
/-- Values are level in their order if their numbers are the same doubles and all else is the
same. -/
theorem order_eq_iff (a b : Value) : a.order b = .eq ↔ a.placed = b.placed := by
  by_cases kinds : a.kindRank = b.kindRank
  · have kind := sameKind_of_kindRank kinds
    cases a with
    | null =>
        cases kind
        exact ⟨fun _ => rfl, fun _ => rfl⟩
    | bool x =>
        cases kind with
        | bool x y => cases x <;> cases y <;> decide
    | number n =>
        cases kind with
        | number n m =>
            rw [order, placed, normal, normal, number.injEq, Number.measured_eq_iff]
            exact Std.LawfulEqCmp.compare_eq_iff_eq
    | string s =>
        cases kind with
        | string s t =>
            rw [order, placed, normal, normal, string.injEq]
            exact Std.LawfulEqCmp.compare_eq_iff_eq
    | array items =>
        cases kind with
        | array items others =>
            rw [order, placed, normal_array, normal_array, array.injEq]
            exact orderItems_eq_iff items others
    | object fields =>
        cases kind with
        | object fields others =>
            rw [order, placed, normal_object, normal_object, object.injEq]
            exact orderFields_eq_iff fields others
  · have apart : a.placed ≠ b.placed := by
      intro same
      have ranks := congrArg kindRank same
      rw [placed, kindRank_normal, kindRank_normal] at ranks
      exact kinds ranks
    rw [order_eq_then, Ordering.then_eq_eq, Std.LawfulEqCmp.compare_eq_iff_eq]
    exact ⟨fun both => absurd both.1 kinds, fun same => absurd same apart⟩
termination_by structural a

theorem orderItems_eq_iff (items others : List Value) :
    orderItems items others = .eq ↔ items.map placed = others.map placed := by
  cases items with
  | nil => cases others <;> simp [orderItems]
  | cons item items =>
      cases others with
      | nil => simp [orderItems]
      | cons other others =>
          rw [orderItems, Ordering.then_eq_eq, order_eq_iff item other,
            orderItems_eq_iff items others, List.map_cons, List.map_cons, List.cons.injEq]
termination_by structural items

theorem orderFields_eq_iff (fields others : Fields) :
    orderFields fields others = .eq ↔
      fields.map (fun field => (field.1, placed field.2)) =
        others.map fun field => (field.1, placed field.2) := by
  cases fields with
  | nil => cases others <;> simp [orderFields]
  | cons field fields =>
      cases others with
      | nil => simp [orderFields]
      | cons other others =>
          obtain ⟨name, value⟩ := field
          obtain ⟨otherName, otherValue⟩ := other
          rw [orderFields, Ordering.then_eq_eq, Ordering.then_eq_eq, order_eq_iff value otherValue,
            orderFields_eq_iff fields others, List.map_cons, List.map_cons, List.cons.injEq,
            Prod.mk.injEq, Std.LawfulEqCmp.compare_eq_iff_eq, and_assoc]
termination_by structural fields
end

/-! Values that are the same. -/

theorem sameItems_iff {items others : List Value}
    (each : ∀ item ∈ items, ∀ other ∈ others,
      (item.same other = true ↔ item.settled = other.settled)) :
    sameItems items others = true ↔ items.map settled = others.map settled := by
  induction items generalizing others with
  | nil => cases others <;> simp [sameItems]
  | cons item items ih =>
      cases others with
      | nil => simp [sameItems]
      | cons other others =>
          have rest := ih fun item member other member' =>
            each item (List.mem_cons_of_mem _ member) other (List.mem_cons_of_mem _ member')
          rw [sameItems, Bool.and_eq_true, rest,
            each item List.mem_cons_self other List.mem_cons_self, List.map_cons, List.map_cons,
            List.cons.injEq]

theorem sameField_iff {first second : Option Value}
    (each : ∀ value ∈ first, ∀ other ∈ second,
      (value.same other = true ↔ value.settled = other.settled)) :
    SameField first second ↔ first.map settled = second.map settled := by
  cases first with
  | none => cases second <;> simp
  | some value =>
      cases second with
      | none => simp
      | some other => simpa using each value rfl other rfl

theorem settled_object_iff {fields others : Fields} (names : fields.names.Nodup)
    (names' : others.names.Nodup) :
    (object fields).settled = (object others).settled ↔
      ∀ name, (Fields.get? fields name).map settled = (Fields.get? others name).map settled := by
  have kept (fields : Fields) :
      Fields.names (fields.map fun field => (field.1, settled field.2)) = fields.names := by
    rw [Fields.names, List.map_map]
    rfl
  have distinct := names
  have distinct' := names'
  rw [← kept] at distinct distinct'
  calc (object fields).settled = (object others).settled
    _ ↔ Fields.byName (fields.map fun field => (field.1, settled field.2)) =
          Fields.byName (others.map fun field => (field.1, settled field.2)) := by
        rw [settled, normal_object, normal_object, object.injEq]
    _ ↔ _ := by
        rw [Fields.byName_eq_iff distinct, Fields.perm_iff_get? distinct distinct']
        exact forall_congr' fun name => by rw [Fields.get?_mapped, Fields.get?_mapped]

/-- Values are the same if they are up to the order of fields and the sign of zeros. -/
theorem same_iff {a b : Value} (distinct : a.Distinct) (distinct' : b.Distinct) :
    a.same b = true ↔ a.settled = b.settled := by
  induction distinct generalizing b with
  | null => cases b <;> simp [same, settled, normal]
  | bool x => cases b <;> simp [same, settled, normal]
  | number n => cases b <;> simp [same, settled, normal, Number.same_iff]
  | string s => cases b <;> simp [same, settled, normal]
  | array each ih =>
      cases b with
      | array others =>
          rw [same, sameItems_iff fun item member other member' =>
            ih item member (distinct'.items other member')]
          rw [settled, normal_array, normal_array, array.injEq]
      | null | bool | number | string | object => simp [same, settled, normal]
  | object names each ih =>
      cases b with
      | object others =>
          rw [same_object_iff names distinct'.names, settled_object_iff names distinct'.names]
          exact forall_congr' fun name => sameField_iff fun value found other found' =>
            ih (name, value) (Fields.mem_of_get? found) (distinct'.get? found')
      | null | bool | number | string | array => simp [same, settled, normal]

/-- Only numbers are taken for others by themselves. -/
theorem agrees_iff {a b : Value} (distinct : a.Distinct) (distinct' : b.Distinct) :
    a.agrees b = true ↔ a.matched = b.matched := by
  cases a with
  | number n =>
      cases b with
      | number m => simp [agrees, matched, Number.measured_eq_iff]
      | null | bool | string | array | object => simp [agrees, same, matched, settled, normal]
  | null | bool | string | array | object =>
      cases b with
      | number m => simp [agrees, same, matched, settled, normal]
      | null | bool | string | array | object => exact same_iff distinct distinct'

/-! Values over a set of numbers. -/

/-- The numbers in a value are of a set, and the fields of its objects are in the order of their
names. -/
inductive Over (numbers : Set Number) : Value → Prop where
  | null : Over numbers null
  | bool (b : Bool) : Over numbers (bool b)
  | number {n : Number} (member : n ∈ numbers) : Over numbers (number n)
  | string (s : String) : Over numbers (string s)
  | array {items : List Value} (each : ∀ item ∈ items, Over numbers item) :
      Over numbers (array items)
  | object {fields : Fields} (ascends : fields.Pairwise fun field other => field.1 < other.1)
      (each : ∀ field ∈ fields, Over numbers field.2) : Over numbers (object fields)

theorem Over.distinct {numbers : Set Number} {value : Value} (held : value.Over numbers) :
    value.Distinct := by
  induction held with
  | null => exact .null
  | bool b => exact .bool b
  | number => exact .number _
  | string s => exact .string s
  | array each ih => exact .array ih
  | object ascends each ih =>
      exact .object (List.pairwise_map.mpr (ascends.imp fun before => before.ne)) ih

/-- Zeros and the order of fields do not matter to the order of values once the fields are in the
order of their names. -/
theorem placed_settled {numbers : Set Number} {value : Value} (held : value.Over numbers) :
    value.settled.placed = value.placed := by
  induction held with
  | null | bool | string => rfl
  | number member => exact congrArg Value.number (Number.measured_plain _)
  | array each ih =>
      rw [settled, placed, normal_array, normal_array, normal_array, List.map_map, array.injEq]
      exact List.map_congr_left ih
  | @object fields ascends each ih =>
      have arranged : Fields.byName (fields.map fun field => (field.1, settled field.2)) =
          fields.map fun field => (field.1, settled field.2) := by
        apply List.Pairwise.insertionSort_eq
        exact List.pairwise_map.mpr (ascends.imp fun before => before.le)
      rw [settled, placed, normal_object, normal_object, normal_object, object.injEq, ← settled,
        ← placed, arranged, List.map_map]
      exact List.map_congr_left fun field member => Prod.ext rfl (ih field member)

theorem eq_of_map_eq {α β : Type} {f : α → β} {items others : List α}
    (each : ∀ item ∈ items, ∀ other ∈ others, f item = f other → item = other)
    (same : items.map f = others.map f) : items = others := by
  induction items generalizing others with
  | nil => exact (List.map_eq_nil_iff.mp same.symm).symm
  | cons item items ih =>
      cases others with
      | nil => cases same
      | cons other others =>
          obtain ⟨first, rest⟩ := List.cons.inj same
          rw [each item List.mem_cons_self other List.mem_cons_self first,
            ih (fun item member other member' => each item (List.mem_cons_of_mem _ member) other
              (List.mem_cons_of_mem _ member')) rest]

theorem sameKind_of_placed {a b : Value} (level : a.placed = b.placed) : SameKind a b :=
  sameKind_of_kindRank (by simpa [placed] using congrArg kindRank level)

/-- Where no two of the numbers are one double, values that are level are one value. -/
theorem eq_of_placed {numbers : Set Number} (apart : numbers.InjOn fun n => n.toDouble.key)
    {a b : Value} (held : a.Over numbers) (held' : b.Over numbers) (level : a.placed = b.placed) :
    a = b := by
  induction held generalizing b with
  | null =>
      cases sameKind_of_placed level
      rfl
  | bool x =>
      cases sameKind_of_placed level with
      | bool x y => exact level
  | @number n member =>
      cases sameKind_of_placed level with
      | number n m =>
          cases held' with
          | number member' =>
              have keys := (Number.measured_eq_iff n m).mp (Value.number.inj level)
              rw [apart member member' keys]
  | string s =>
      cases sameKind_of_placed level with
      | string s t => exact level
  | array each ih =>
      cases sameKind_of_placed level with
      | array items others =>
          cases held' with
          | array each' =>
              rw [placed, normal_array, normal_array, array.injEq] at level
              rw [eq_of_map_eq (fun item member other member' =>
                ih item member (each' other member')) level]
  | object ascends each ih =>
      cases sameKind_of_placed level with
      | object fields others =>
          cases held' with
          | object ascends' each' =>
              rw [placed, normal_object, normal_object, object.injEq] at level
              refine congrArg object
                (eq_of_map_eq (fun field member other member' same => ?_) level)
              obtain ⟨names, values⟩ := Prod.mk.inj same
              exact Prod.ext names (ih field member (each' other member') values)

/-- Over such numbers, what a search takes for equal is one value. -/
theorem eq_of_matched {numbers : Set Number} (apart : numbers.InjOn fun n => n.toDouble.key)
    {a b : Value} (held : a.Over numbers) (held' : b.Over numbers)
    (alike : a.matched = b.matched) : a = b := by
  have leveled {value : Value} (held : value.Over numbers) :
      value.matched.placed = value.placed := by
    cases value with
    | number n => exact congrArg Value.number (Number.measured_measured n)
    | null | bool | string | array | object => exact placed_settled held
  refine eq_of_placed apart held held' ?_
  rw [← leveled held, ← leveled held', alike]

end Value

end Engagements
