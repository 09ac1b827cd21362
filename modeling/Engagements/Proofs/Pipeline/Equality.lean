import Engagements.Proofs.Double
import Engagements.Proofs.Path
import Engagements.Proofs.Pipeline.Groups
import Engagements.Proofs.Value.Equality

/-!
Equality in searching, sorting and grouping. Grouping keeps all values apart, searching and sorting
unite some, and not the same ones; over numbers that are doubles of their own and fields in one
order the three are one.
-/
namespace Engagements.Value

/-- A search takes two values for equal exactly when sorting finds them level, and exactly when
documents with these keys are in one group. -/
structure Coincide (a b : Value) : Prop where
  sorted : a.agrees b = true ↔ a.order b = .eq
  grouped : ∀ (expr : Expr) (documents : List Document), ∀ first ∈ documents, ∀ second ∈ documents,
    DocumentGroup.keyOf expr first = a → DocumentGroup.keyOf expr second = b →
      (a.agrees b = true ↔ ∃ group ∈ DocumentGroup.ofDocuments expr documents,
        first ∈ group.documents ∧ second ∈ group.documents)

theorem keyOf_field (value : Value) :
    DocumentGroup.keyOf (.field "k") [("k", value)] = value := by
  have found : (Value.object [("k", value)]).get? "k" = some value :=
    get?_field [("k", value)] (by decide)
  rw [DocumentGroup.keyOf, Expr.eval, found, Option.getD_some]

/-- Only a value itself is grouped with it. -/
theorem coincide_iff (a b : Value) :
    Coincide a b ↔ (a.agrees b = true ↔ a = b) ∧ (a.order b = .eq ↔ a = b) := by
  constructor
  · intro coincide
    have grouped := coincide.grouped (.field "k") [[("k", a)], [("k", b)]] _ List.mem_cons_self _
      (List.mem_cons_of_mem _ List.mem_cons_self) (keyOf_field a) (keyOf_field b)
    rw [DocumentGroup.mem_ofDocuments_iff _ List.mem_cons_self
      (List.mem_cons_of_mem _ List.mem_cons_self), keyOf_field, keyOf_field] at grouped
    exact ⟨grouped, coincide.sorted.symm.trans grouped⟩
  · rintro ⟨matched, sorted⟩
    refine ⟨matched.trans sorted.symm, ?_⟩
    intro expr documents first inside second inside' key key'
    rw [DocumentGroup.mem_ofDocuments_iff expr inside inside', key, key']
    exact matched

variable {a b : Value} {numbers : Set Number}

/-- Over numbers of which no two are one double, with fields in the order of their names, the three
equalities are one. -/
theorem coincide_of_over (apart : numbers.InjOn fun n => n.toDouble.key) (held : a.Over numbers)
    (held' : b.Over numbers) : Coincide a b := by
  rw [coincide_iff, agrees_iff held.distinct held'.distinct, order_eq_iff]
  exact ⟨⟨eq_of_matched apart held held', fun same => same ▸ rfl⟩,
    ⟨eq_of_placed apart held held', fun same => same ▸ rfl⟩⟩

/-- That no two numbers are one double is also needed. -/
theorem coincide_over_iff :
    (∀ a b : Value, a.Over numbers → b.Over numbers → Coincide a b) ↔
      numbers.InjOn fun n => n.toDouble.key := by
  constructor
  · intro coincide n member m member' keys
    have one := (coincide_iff _ _).mp (coincide _ _ (.number member) (.number member'))
    have level : (number n).placed = (number m).placed :=
      congrArg number ((Number.measured_eq_iff n m).mpr keys)
    exact Value.number.inj (one.2.mp ((order_eq_iff _ _).mpr level))
  · intro apart a b held held'
    exact coincide_of_over apart held held'

/-- The three equalities are one on two values unless a search or sorting takes different ones for
equal, which they never do over numbers of which no two are one double, with fields in the order of
their names. -/
theorem equalities_coincide_iff (distinct : a.Distinct) (distinct' : b.Distinct) :
    (Coincide a b ↔ (a.matched = b.matched ∨ a.placed = b.placed → a = b)) ∧
    ∀ numbers : Set Number, (numbers.InjOn fun n => n.toDouble.key) →
      a.Over numbers → b.Over numbers → Coincide a b := by
  constructor
  · rw [coincide_iff, agrees_iff distinct distinct', order_eq_iff]
    constructor
    · rintro ⟨matched, placed⟩ (alike | level)
      · exact matched.mp alike
      · exact placed.mp level
    · intro one
      exact ⟨⟨fun alike => one (.inl alike), fun same => same ▸ rfl⟩,
        ⟨fun level => one (.inr level), fun same => same ▸ rfl⟩⟩
  · intro numbers apart held held'
    exact coincide_of_over apart held held'

/-- Integers that are doubles of their own are told apart by these. -/
theorem injOn_alone :
    {n : Number | ∃ k : Int, n = .integer k ∧ Double.Alone k.natAbs}.InjOn
      fun n => n.toDouble.key := by
  rintro _ ⟨k, rfl, _⟩ _ ⟨m, rfl, alone⟩ keys
  rw [Double.eq_of_key_ofInt alone keys]

/-- Items with a count and their tags. -/
def tagged (count : Int) (tag : String) : Value :=
  object [("count", int count), ("tags", array [string tag])]

theorem over_tagged {count : Int} (alone : Double.Alone count.natAbs) (tag : String) :
    (tagged count tag).Over {n | ∃ k : Int, n = .integer k ∧ Double.Alone k.natAbs} := by
  have ascends : "count" < "tags" := by decide
  refine .object (List.pairwise_pair.mpr ascends) fun field member => ?_
  rcases List.mem_cons.mp member with rfl | member
  · exact .number ⟨count, rfl, alone⟩
  · rw [List.mem_singleton.mp member]
    exact .array fun item member => List.mem_singleton.mp member ▸ .string tag

theorem tagged_coincide : Coincide (tagged 3 "lab") (tagged (2 ^ 53 - 1) "test") := by
  have held := over_tagged (by decide : Double.Alone (3 : Int).natAbs) "lab"
  have held' := over_tagged (by decide : Double.Alone (2 ^ 53 - 1 : Int).natAbs) "test"
  exact (equalities_coincide_iff held.distinct held'.distinct).2 _ injOn_alone held held'

/-- One as a double. -/
def floatingOne : Value := number (.double (Double.ofInt 1))

/-- Groups of documents by a field, with the number of documents in each. -/
def countedBy (field : String) : List Stage :=
  [.group (.field field) [("n", .sum (.literal (int 1)))]]

/-- Integer and double are two groups though they are found and sorted as one; inside lists they
are not even found as one, and fields in another order are found as one and not sorted as one. -/
theorem equal_values_part :
    ((int 1).agrees floatingOne = true ∧ (int 1).order floatingOne = .eq ∧
      Stage.runAll [[("_id", string "a"), ("k", int 1)], [("_id", string "b"), ("k", floatingOne)]]
          (countedBy "k") =
        .ok [[("_id", int 1), ("n", int 1)], [("_id", floatingOne), ("n", int 1)]]) ∧
    ¬Coincide (int 1) floatingOne ∧
    ¬Coincide (array [int 1]) (array [floatingOne]) ∧
    ¬Coincide (object [("a", int 1), ("b", int 2)]) (object [("b", int 2), ("a", int 1)]) := by
  refine ⟨⟨by decide +kernel, by decide +kernel, by decide +kernel⟩, ?_, ?_, ?_⟩
  · rw [coincide_iff]
    decide +kernel
  · rw [coincide_iff]
    decide +kernel
  · rw [coincide_iff]
    decide +kernel

end Engagements.Value
