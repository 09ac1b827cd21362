import Engagements.Proofs.Double
import Engagements.Proofs.Planner.Unwinding
import Engagements.Proofs.Search.Equality

/-!
Searches for an integer. The text of an integer of 64 bits is read back as the integer, and what
the search selects is what is equal to it, as far as the integer has a double to itself.
-/
namespace Engagements

/-! The text of an integer. -/

theorem le_ofDigitChars (digits : List Char) (value : Nat) :
    value ≤ Nat.ofDigitChars 10 digits value := by
  induction digits generalizing value with
  | nil => exact le_refl value
  | cons c digits ih =>
      have step := ih (10 * value + (c.toNat - '0'.toNat))
      rw [Nat.ofDigitChars_cons]
      omega

/-- The greatest number that may stand behind a sign. -/
def greatestMagnitude (negative : Bool) : Nat :=
  if negative then Width.size 63 else Width.size 63 - 1

/-- Digits are taken in as they come, if the number that they come to is in range; then all the
numbers on the way are. -/
theorem readIntegerDigits_ok {negative : Bool} {digits : List Char}
    (decimal : ∀ c ∈ digits, c.isDigit = true) {value : Nat}
    (fits : Nat.ofDigitChars 10 digits value ≤ greatestMagnitude negative) :
    readIntegerDigits negative value digits =
      .ok (if negative then -(Nat.ofDigitChars 10 digits value : Int)
        else Nat.ofDigitChars 10 digits value) := by
  induction digits generalizing value with
  | nil => rfl
  | cons c digits ih =>
      obtain ⟨digit, others⟩ := List.forall_mem_cons.mp decimal
      have next : value * 10 + Text.digitValue c = 10 * value + (c.toNat - '0'.toNat) := by
        rw [Nat.mul_comm, Text.digitValue]
      rw [Nat.ofDigitChars_cons] at fits ⊢
      have bound := Nat.le_trans (le_ofDigitChars digits _) fits
      rw [readIntegerDigits, next, digit]
      generalize 10 * value + (c.toNat - '0'.toNat) = taken at bound fits ⊢
      have positive : 0 < Width.size 63 := by decide
      have inside : (negative && decide (Width.size 63 < taken)) = false ∧
          (!negative && decide (Width.size 63 ≤ taken)) = false := by
        unfold greatestMagnitude at bound
        cases negative <;> simp at bound ⊢ <;> omega
      simp only [inside]
      exact ih others fits

theorem readInteger_toString {n : Int} (fits : Width.isSigned 64 n = true) :
    readInteger (toString n).toList = .ok n := by
  obtain ⟨low, high⟩ := (Double.isSigned_iff n).mp fits
  have size : Width.size 63 = 2 ^ 63 := rfl
  have decimal : ∀ c ∈ Nat.toDigits 10 n.natAbs, c.isDigit = true :=
    fun c member => isDigit_of_mem_toDigits member
  have number : Nat.ofDigitChars 10 (Nat.toDigits 10 n.natAbs) 0 = n.natAbs :=
    Nat.ofDigitChars_toDigits (by decide) (by decide)
  have read : ∀ negative, n.natAbs ≤ greatestMagnitude negative →
      readIntegerDigits negative 0 (Nat.toDigits 10 n.natAbs) =
        .ok (if negative then -(n.natAbs : Int) else n.natAbs) := by
    intro negative bound
    rw [readIntegerDigits_ok decimal (by rw [number]; exact bound), number]
  obtain ⟨first, others, split⟩ := List.exists_cons_of_ne_nil (Nat.toDigits_ne_nil (b := 10))
  rw [toList_toString]
  by_cases negative : n < 0
  · have bound : n.natAbs ≤ greatestMagnitude true := by
      change n.natAbs ≤ Width.size 63
      omega
    have value : -(n.natAbs : Int) = n := by omega
    have signed : readInteger ('-' :: first :: others) =
        readIntegerDigits true 0 (first :: others) := rfl
    rw [if_pos negative, List.singleton_append, split, signed, ← split, read true bound,
      if_pos rfl, value]
  · have bound : n.natAbs ≤ greatestMagnitude false := by
      change n.natAbs ≤ Width.size 63 - 1
      omega
    have value : (n.natAbs : Int) = n := by omega
    have plain : readInteger (first :: others) = readIntegerDigits false 0 (first :: others) := by
      have digit := decimal first (split ▸ List.mem_cons_self)
      have minus : first ≠ '-' := by
        rintro rfl
        cases digit
      have plus : first ≠ '+' := by
        rintro rfl
        cases digit
      unfold readInteger
      split <;> simp_all
    rw [if_neg negative, List.nil_append, split, plain, ← split, read false bound]
    exact congrArg Except.ok value

theorem code_of_mem_toString {n : Int} {c : Char} (member : c ∈ (toString n).toList) :
    45 ≤ c.toNat ∧ c.toNat ≤ 57 := by
  rw [toList_toString, List.mem_append] at member
  rcases member with sign | digit
  · have minus : c = '-' := by
      split at sign <;> simp at sign
      exact sign
    rw [minus]
    decide
  · have decimal := isDigit_of_mem_toDigits digit
    simp only [Char.isDigit, Bool.and_eq_true, decide_eq_true_eq] at decimal
    exact ⟨Nat.le_trans (by decide) decimal.1, decimal.2⟩

theorem isBlank_of_code {c : Char} (low : 33 ≤ c.toNat) (high : c.toNat ≤ 126) :
    Unicode.Property.isBlank c = false := by
  rw [Text.isBlank_char, ← Bool.not_eq_true]
  simp only [Text.blankSpans, Unicode.Span.contains, List.any_cons, List.any_nil, Bool.or_eq_true,
    Bool.and_eq_true, decide_eq_true_eq, Bool.false_eq_true, or_false]
  omega

namespace Search

theorem expressible_toString (n : Int) : Expressible (toString n) where
  trimmed := by
    have visible : ∀ c ∈ (toString n).toList, Unicode.Property.isBlank c = false := by
      intro c member
      have code := code_of_mem_toString member
      exact isBlank_of_code (by omega) (by omega)
    exact (Text.trim_eq_self_iff _).mpr ⟨fun c first => visible c (List.mem_of_mem_head? first),
      fun c last => visible c (List.mem_of_mem_getLast? last)⟩
  singleLine member := absurd (code_of_mem_toString member) (by decide)
  apart place _ ampersand :=
    absurd (code_of_mem_toString (List.mem_of_getElem? ampersand)) (by decide)

theorem coerce_toString {field : String} (kind : kindOf? field = some .integer) {n : Int}
    (fits : Width.isSigned 64 n = true) : coerce field (toString n) = .ok (.int n) := by
  rw [coerce, kind]
  simp only [FieldKind.read, (expressible_toString n).trimmed, readInteger_toString fits]
  rfl

theorem read_integer (today : Date) {field : String} (kind : kindOf? field = some .integer)
    {n : Int} (fits : Width.isSigned 64 n = true) :
    read today (equality field (toString n)) = .ok ⟨some (.equals field (.int n)), []⟩ :=
  read_equality today kind (expressible_toString n) (coerce_toString kind fits)

end Search

/-! Equality with an integer, and the order of integers. -/

namespace Value

/-- Whether a value is an integer, written as such or as a double. -/
def isInteger (n : Int) : Value → Bool
  | number (.integer m) => m == n
  | number (.double d) => d.signedUnits == n * Double.unitsInOne
  | _ => false

theorem agrees_int {n : Int} (alone : Double.Alone n.natAbs) (value : Value) :
    value.agrees (.int n) = value.isInteger n := by
  cases value with
  | number number =>
      cases number with
      | integer m =>
          have same : (Double.ofInt m).key = (Double.ofInt n).key ↔ m = n :=
            ⟨Double.eq_of_key_ofInt alone, fun equal => equal ▸ rfl⟩
          rw [Bool.eq_iff_iff]
          exact beq_iff_eq.trans (same.trans beq_iff_eq.symm)
      | double d =>
          rw [Bool.eq_iff_iff]
          exact beq_iff_eq.trans ((Double.key_eq_ofInt_iff alone d).trans beq_iff_eq.symm)
  | _ => rfl

/-- Integers are never in the wrong order, though they can tie. -/
theorem order_int_of_le {m n : Int} (ordered : m ≤ n) :
    (Value.int m).order (.int n) ≠ .gt := by
  have keys : (Double.ofInt m).key ≤ (Double.ofInt n).key := Double.key_ofInt_mono ordered
  exact compare_le_iff_le.mpr keys

theorem order_int {n : Int} (alone : Double.Alone n.natAbs) (m : Int) :
    (Value.int m).order (.int n) = compare m n := by
  have keys : (Value.int m).order (.int n) =
      compare (Double.ofInt m).key (Double.ofInt n).key := rfl
  rw [keys]
  rcases lt_trichotomy m n with less | equal | greater
  · have ordered : (Double.ofInt m).key ≤ (Double.ofInt n).key :=
      Double.key_ofInt_mono (le_of_lt less)
    have different : (Double.ofInt m).key ≠ (Double.ofInt n).key :=
      fun same => ne_of_lt less (Double.eq_of_key_ofInt alone same)
    rw [compare_lt_iff_lt.mpr less, compare_lt_iff_lt.mpr (lt_of_le_of_ne ordered different)]
  · rw [equal, compare_eq_iff_eq.mpr rfl, compare_eq_iff_eq.mpr rfl]
  · have ordered : (Double.ofInt n).key ≤ (Double.ofInt m).key :=
      Double.key_ofInt_mono (le_of_lt greater)
    have different : (Double.ofInt n).key ≠ (Double.ofInt m).key :=
      fun same => ne_of_gt greater (Double.eq_of_key_ofInt alone same.symm)
    rw [compare_gt_iff_gt.mpr greater, compare_gt_iff_gt.mpr (lt_of_le_of_ne ordered different)]

end Value

namespace Planner

/-- The filter that asks for an integer in a field. -/
def seeking (field : String) (n : Int) : FilterSpec :=
  FilterSpec.empty.searching (Search.equality field (toString n))

theorem rows_seeking (planner : Planner) {field : String}
    (kind : Search.kindOf? field = some .integer) {n : Int} (fits : Width.isSigned 64 n = true)
    (documents : List Document) :
    planner.rows (seeking field n) none documents =
      .ok (documents.filter fun document =>
        ((Value.object document).candidates field).any (·.agrees (.int n))) :=
  rows_searching planner (Search.read_integer planner.today kind fits) documents

/-- A search selects the documents that have the integer in the field, and sorting puts every other
integer on its side of it. -/
def SeeksExactly (planner : Planner) (field : String) (n : Int) : Prop :=
  (∀ documents, planner.rows (seeking field n) none documents =
      .ok (documents.filter fun document =>
        ((Value.object document).candidates field).any (·.isInteger n))) ∧
    ∀ m : Int, (Value.int m).order (.int n) = compare m n

/-- A search for an integer is exact just when no other integer has the same nearest double;
otherwise it takes one of 64 bits for the one that is sought. Sorting never reverses two integers,
but takes those for equal that a search confuses. -/
theorem integer_search_exact_when_alone (planner : Planner) {field : String}
    (kind : Search.kindOf? field = some .integer) {n : Int} (fits : Width.isSigned 64 n = true) :
    (∀ m ≤ n, (Value.int m).order (.int n) ≠ .gt) ∧
      (Double.Alone n.natAbs → planner.SeeksExactly field n) ∧
      (¬Double.Alone n.natAbs →
        ∃ m, m ≠ n ∧ (Width.isSigned 64 m = true ∨ Width.isUnsigned 64 m = true) ∧
          (Value.int m).order (.int n) = .eq ∧
          ∃ document, (Value.object document).candidates field = [.int m] ∧
            planner.rows (seeking field n) none [document] = .ok [document]) := by
  refine ⟨fun m ordered => Value.order_int_of_le ordered,
    fun alone => ⟨fun documents => ?_, Value.order_int alone⟩, fun shared => ?_⟩
  · simp only [rows_seeking planner kind fits, Value.agrees_int alone]
  · obtain ⟨m, different, wide, same⟩ := Double.exists_key_ofInt fits shared
    have tied : (Value.int m).order (.int n) = .eq := compare_eq_iff_eq.mpr same
    have agree : (Value.int m).agrees (.int n) = true := beq_iff_eq.mpr same
    have reached := Value.get?_set_self [] field (.int m)
    have shown : (Value.object (Document.set [] field (.int m))).candidates field = [.int m] := by
      rw [Value.candidates_of_get? (by rw [reached]; exact nofun), reached]
      rfl
    refine ⟨m, different, wide, tied, _, shown, ?_⟩
    rw [rows_seeking planner kind fits, List.filter_cons, shown, List.any_cons, agree]
    rfl

/-- The last integer before 2^54 that has a double to itself. -/
theorem even_integer_sought_exactly :
    (standard ⟨2020, 6, 1⟩).SeeksExactly "projectId" 18014398509481982 :=
  (integer_search_exact_when_alone (standard ⟨2020, 6, 1⟩) (by decide) (by decide)).2.1
    (by decide)

/-- The first integer that is no double is taken for the one before it. -/
theorem odd_integer_confused :
    (standard ⟨2020, 6, 1⟩).rows (seeking "projectId" 9007199254740993) none
        [[("projectId", .int 9007199254740992)]] =
      .ok [[("projectId", .int 9007199254740992)]] ∧
    (Value.int 9007199254740992).isInteger 9007199254740993 = false ∧
    (Value.int 9007199254740992).order (.int 9007199254740993) = .eq := by
  refine ⟨?_, by decide, by decide +kernel⟩
  rw [rows_seeking _ (by decide) (by decide)]
  have found : ((Value.object [("projectId", .int 9007199254740992)]).candidates "projectId").any
      (·.agrees (.int 9007199254740993)) = true := by decide +kernel
  rw [List.filter_cons, found]
  rfl

end Planner

end Engagements
