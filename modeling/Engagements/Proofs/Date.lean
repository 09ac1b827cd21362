import Engagements.Proofs.Text
import Engagements.Proofs.Version
import Mathlib.Data.Nat.Digits.Defs
import Mathlib.Data.String.Basic
import Mathlib.Order.Compare

/-!
The texts of dates in the order of texts. Texts of dates whose years have four digits and no sign
sort as the dates do; the signs of other years can turn the order around.
-/
namespace Engagements

namespace Date

/-- The order of dates in time. -/
def order (date other : Date) : Ordering :=
  (compare date.year other.year).then
    ((compare date.month other.month).then (compare date.day other.day))

/-- Dates whose year has at most five digits, and whose other parts have two. -/
structure Short (date : Date) : Prop where
  year : date.year.natAbs < 100000
  month : date.month < 100
  day : date.day < 100

/-! The texts of numbers. -/

/-- A number with enough digits is not filled up. -/
theorem padded_of_le {width n : Nat} (positive : 0 < width) (wide : 10 ^ width ≤ n) :
    padded width n = padded (width + 1) n := by
  have long : width < (Nat.toDigits 10 n).length := by
    by_contra short
    have small := (Nat.length_toDigits_le_iff (by decide) positive).mp (Nat.not_lt.mp short)
    exact absurd wide (Nat.not_le.mpr small)
  rw [← String.toList_inj, toList_padded, toList_padded,
    Nat.sub_eq_zero_of_le (Nat.le_of_lt long), Nat.sub_eq_zero_of_le long]

theorem padded_five {n : Nat} (long : 9999 < n) : padded 4 n = padded 5 n :=
  padded_of_le (by decide) long

theorem isDigit_of_mem_padded {width n : Nat} {c : Char} (member : c ∈ (padded width n).toList) :
    c.isDigit = true := by
  rw [toList_padded, List.mem_append] at member
  rcases member with zero | digit
  · rw [List.eq_of_mem_replicate zero]
    rfl
  · exact Nat.isDigit_of_mem_toDigits (by decide) (by decide) digit

/-- A sign stands before every digit. -/
theorem sign_lt_padded {sign : Char} (small : sign < '0') (width n : Nat) (back rest : List Char) :
    sign :: back < (padded width n).toList ++ rest := by
  cases split : (padded width n).toList with
  | nil =>
      rw [toList_padded, List.append_eq_nil_iff] at split
      exact absurd split.2 (Nat.toDigits_ne_nil)
  | cons c others =>
      have digit := isDigit_of_mem_padded (split ▸ List.mem_cons_self)
      rw [List.cons_append, List.cons_lt_cons_iff]
      have least : '0' ≤ c := by
        simp only [Char.isDigit, Bool.and_eq_true, decide_eq_true_eq] at digit
        exact digit.1
      exact Or.inl (lt_of_lt_of_le small least)

/-! The texts of years. -/

/-- One year's text stands before another one's, whatever follows after a hyphen. -/
def YearBefore (year other : Int) : Prop :=
  ∀ back rest, (yearText year).toList ++ '-' :: back < (yearText other).toList ++ '-' :: rest

theorem yearText_unsigned {year : Int} (first : 0 ≤ year) (last : year ≤ 9999) :
    (yearText year).toList = (padded 4 year.natAbs).toList := by
  rw [yearText, if_neg (by omega), if_neg (by omega)]

theorem yearText_late {year : Int} (late : 9999 < year) :
    (yearText year).toList = '+' :: (padded 5 year.natAbs).toList := by
  rw [yearText, if_neg (by omega), if_pos late, padded_five (by omega)]
  simp

theorem yearText_early {year : Int} (early : year < 0) :
    (yearText year).toList = '-' :: (padded 4 year.natAbs).toList := by
  rw [yearText, if_pos early]
  simp

/-- Of two years before the first, the earlier one has five digits and the later one at most four,
which count for more than the first four of the earlier one. -/
def Crosses (early late : Int) : Prop :=
  early < -9999 ∧ -9999 ≤ late ∧ late < 0 ∧ early.natAbs / 10 < late.natAbs

/-- Whether the texts of two years stand in the order of time. -/
def Aligned (year other : Int) : Prop :=
  year = other ∨ (year ≤ 9999 ∧ other ≤ 9999 ∧ (0 ≤ year ∨ 0 ≤ other)) ∨
    (9999 < year ∧ 9999 < other) ∨ Crosses year other ∨ Crosses other year

theorem yearBefore_unsigned {year other : Int} (first : 0 ≤ year) (less : year < other)
    (last : other ≤ 9999) : YearBefore year other := by
  intro back rest
  rw [yearText_unsigned first (by omega), yearText_unsigned (by omega) last]
  exact (sorted_padded 3).append_lt (by omega) (by omega) _ _

theorem yearBefore_late {year other : Int} (first : 9999 < year) (less : year < other)
    (last : other < 100000) : YearBefore year other := by
  intro back rest
  rw [yearText_late first, yearText_late (by omega), List.cons_append, List.cons_append,
    List.cons_lt_cons_iff]
  exact Or.inr ⟨rfl, (sorted_padded 4).append_lt (by omega) (by omega) _ _⟩

/-- A year with a sign stands before every year without one. -/
theorem yearBefore_signed {year other : Int} (signed : year < 0 ∨ 9999 < year) (first : 0 ≤ other)
    (last : other ≤ 9999) : YearBefore year other := by
  intro back rest
  rw [yearText_unsigned first last]
  rcases signed with early | late
  · rw [yearText_early early]
    exact sign_lt_padded (by decide) _ _ _ _
  · rw [yearText_late late]
    exact sign_lt_padded (by decide) _ _ _ _

/-- A plus sign stands before a minus sign. -/
theorem yearBefore_plus {year other : Int} (late : 9999 < year) (early : other < 0) :
    YearBefore year other := by
  intro back rest
  rw [yearText_late late, yearText_early early, List.cons_append, List.cons_append,
    List.cons_lt_cons_iff]
  exact Or.inl (by decide)

/-- Years before the first one sort by their distance from it, if they have equally many digits. -/
theorem yearBefore_early {year other : Int} (early : other < year) (before : year < 0)
    (same : -9999 ≤ other ∨ year < -9999) (least : -100000 < other) : YearBefore year other := by
  intro back rest
  rw [yearText_early before, yearText_early (by omega), List.cons_append, List.cons_append,
    List.cons_lt_cons_iff]
  refine Or.inr ⟨rfl, ?_⟩
  rcases same with short | long
  · exact (sorted_padded 3).append_lt (by omega) (by omega) _ _
  · rw [padded_five (by omega), padded_five (by omega)]
    exact (sorted_padded 4).append_lt (by omega) (by omega) _ _

/-- The last of five digits stands where a year of four digits has its hyphen. -/
theorem toList_yearText_long {year : Int} (early : year < -9999) :
    (yearText year).toList =
      '-' :: ((padded 4 (year.natAbs / 10)).toList ++ [Nat.digitChar (year.natAbs % 10)]) := by
  rw [yearText_early (by omega), padded_five (by omega), toList_padded_succ _ _ (by decide)]

theorem yearBefore_of_crosses {early late : Int} (crosses : Crosses early late)
    (least : -100000 < early) : YearBefore early late := by
  obtain ⟨long, short, before, less⟩ := crosses
  intro back rest
  rw [toList_yearText_long long, yearText_early before, List.cons_append, List.cons_append,
    List.cons_lt_cons_iff, List.append_assoc]
  exact Or.inr ⟨rfl, (sorted_padded 3).append_lt less (by omega) _ _⟩

theorem yearBefore_of_not_crosses {early late : Int} (long : early < -9999) (short : -9999 ≤ late)
    (before : late < 0) (least : -100000 < early) (apart : ¬Crosses early late) :
    YearBefore late early := by
  intro back rest
  have upTo : late.natAbs ≤ early.natAbs / 10 :=
    Nat.not_lt.mp fun less => apart ⟨long, short, before, less⟩
  rw [toList_yearText_long long, yearText_early before, List.cons_append, List.cons_append,
    List.cons_lt_cons_iff, List.append_assoc]
  refine Or.inr ⟨rfl, ?_⟩
  rcases Nat.lt_or_eq_of_le upTo with less | same
  · exact (sorted_padded 3).append_lt less (by omega) _ _
  · have hyphen : ∀ digit < 10, '-' < Nat.digitChar digit := by decide
    rw [same]
    apply List.append_left_lt
    rw [List.singleton_append, List.cons_lt_cons_iff]
    exact Or.inl (hyphen _ (Nat.mod_lt _ (by decide)))

theorem Aligned.symm {year other : Int} (aligned : Aligned year other) : Aligned other year := by
  unfold Aligned at *
  tauto

theorem yearBefore_of_aligned {year other : Int} (aligned : Aligned year other)
    (first : year.natAbs < 100000) (second : other.natAbs < 100000) (less : year < other) :
    YearBefore year other := by
  rcases aligned with same | ⟨last, last', some⟩ | ⟨late, late'⟩ | crosses | crosses
  · omega
  · by_cases unsigned : 0 ≤ year
    · exact yearBefore_unsigned unsigned less last'
    · exact yearBefore_signed (Or.inl (by omega)) (by omega) last'
  · exact yearBefore_late late less (by omega)
  · exact yearBefore_of_crosses crosses (by omega)
  · obtain ⟨long, short, before, _⟩ := crosses
    omega

theorem yearBefore_of_not_aligned {year other : Int} (misaligned : ¬Aligned year other)
    (first : year.natAbs < 100000) (less : year < other) : YearBefore other year := by
  simp only [Aligned, not_or, not_and] at misaligned
  obtain ⟨_, signed, late, crosses, _⟩ := misaligned
  by_cases after : 9999 < other
  · have year_le : year ≤ 9999 := by
      by_contra beyond
      exact late (by omega) after
    by_cases early : year < 0
    · exact yearBefore_plus after early
    · exact yearBefore_signed (Or.inr after) (by omega) year_le
  · have before : other < 0 := by
      by_contra unsigned
      exact (signed (by omega) (by omega)).2 (by omega)
    by_cases straddles : year < -9999 ∧ -9999 ≤ other
    · exact yearBefore_of_not_crosses straddles.1 straddles.2 before (by omega) crosses
    · exact yearBefore_early less before (by omega) (by omega)

/-! The texts of dates. -/

variable {date other : Date}

theorem toList_toText (date : Date) :
    date.toText.toList = (yearText date.year).toList ++ '-' ::
      ((padded 2 date.month).toList ++ '-' :: (padded 2 date.day).toList) := by
  simp [toText]

theorem order_of_year_lt (less : date.year < other.year) :
    date.order other = .lt ∧ other.order date = .gt := by
  rw [order, order, compare_lt_iff_lt.mpr less, compare_gt_iff_gt.mpr less]
  exact ⟨rfl, rfl⟩

theorem compare_toText_of_yearBefore (before : YearBefore date.year other.year) :
    compare date.toText other.toText = .lt ∧ compare other.toText date.toText = .gt := by
  have less : date.toText < other.toText := by
    rw [String.lt_iff, toList_toText, toList_toText]
    exact before _ _
  exact ⟨compare_lt_iff_lt.mpr less, compare_gt_iff_gt.mpr less⟩

theorem toText_lt_of_month (short' : other.Short) (year : date.year = other.year)
    (less : date.month < other.month) : date.toText < other.toText := by
  rw [String.lt_iff, toList_toText, toList_toText, year]
  apply List.append_left_lt
  rw [List.cons_lt_cons_iff]
  exact Or.inr ⟨rfl, (sorted_padded 1).append_lt less short'.month _ _⟩

theorem toText_lt_of_day (short' : other.Short) (year : date.year = other.year)
    (month : date.month = other.month) (less : date.day < other.day) :
    date.toText < other.toText := by
  rw [String.lt_iff, toList_toText, toList_toText, year, month]
  apply List.append_left_lt
  rw [List.cons_lt_cons_iff]
  refine Or.inr ⟨rfl, List.append_left_lt ?_⟩
  rw [List.cons_lt_cons_iff]
  exact Or.inr ⟨rfl, (sorted_padded 1).lt _ _ less short'.day⟩

theorem compare_toText_of_sameYear (short : date.Short) (short' : other.Short)
    (year : date.year = other.year) : compare date.toText other.toText = date.order other := by
  rw [order, year, compare_eq_iff_eq.mpr rfl]
  rcases lt_trichotomy date.month other.month with earlier | month | later
  · rw [compare_lt_iff_lt.mpr earlier]
    exact compare_lt_iff_lt.mpr (toText_lt_of_month short' year earlier)
  · rw [compare_eq_iff_eq.mpr month]
    rcases lt_trichotomy date.day other.day with earlier | day | later
    · rw [compare_lt_iff_lt.mpr earlier]
      exact compare_lt_iff_lt.mpr (toText_lt_of_day short' year month earlier)
    · rw [compare_eq_iff_eq.mpr day]
      have same : date.toText = other.toText := by rw [toText, toText, year, month, day]
      exact compare_eq_iff_eq.mpr same
    · rw [compare_gt_iff_gt.mpr later]
      exact compare_gt_iff_gt.mpr (toText_lt_of_day short year.symm month.symm later)
  · rw [compare_gt_iff_gt.mpr later]
    exact compare_gt_iff_gt.mpr (toText_lt_of_month short year.symm later)

theorem compare_toText_of_aligned (short : date.Short) (short' : other.Short)
    (aligned : Aligned date.year other.year) :
    compare date.toText other.toText = date.order other := by
  rcases lt_trichotomy date.year other.year with earlier | same | later
  · rw [(order_of_year_lt earlier).1]
    exact (compare_toText_of_yearBefore
      (yearBefore_of_aligned aligned short.year short'.year earlier)).1
  · exact compare_toText_of_sameYear short short' same
  · rw [(order_of_year_lt later).2]
    exact (compare_toText_of_yearBefore
      (yearBefore_of_aligned aligned.symm short'.year short.year later)).2

theorem compare_toText_of_not_aligned (short : date.Short) (short' : other.Short)
    (misaligned : ¬Aligned date.year other.year) :
    compare date.toText other.toText = (date.order other).swap ∧ date.order other ≠ .eq := by
  rcases lt_trichotomy date.year other.year with earlier | same | later
  · rw [(order_of_year_lt earlier).1]
    exact ⟨(compare_toText_of_yearBefore
      (yearBefore_of_not_aligned misaligned short.year earlier)).2, nofun⟩
  · exact absurd (Or.inl same) misaligned
  · rw [(order_of_year_lt later).2]
    exact ⟨(compare_toText_of_yearBefore (yearBefore_of_not_aligned
      (fun aligned => misaligned aligned.symm) short'.year later)).1, nofun⟩

/-- The texts of two dates compare as the dates do, unless the texts of their years are turned
around; then they compare the other way. -/
theorem compare_toText_iff (short : date.Short) (short' : other.Short) :
    compare date.toText other.toText = date.order other ↔ Aligned date.year other.year := by
  constructor
  · intro same
    by_contra misaligned
    obtain ⟨turned, different⟩ := compare_toText_of_not_aligned short short' misaligned
    rw [same] at turned
    cases found : date.order other <;> simp [found] at turned different
  · exact compare_toText_of_aligned short short'

/-! Dates that are read. -/

theorem naturalOf_lt {digits : List Char} (decimal : ∀ c ∈ digits, c.isDigit = true) :
    Text.naturalOf digits < 10 ^ digits.length := by
  have digit {c : Char} (known : c.isDigit = true) : Text.digitValue c < 10 := by
    simp only [Char.isDigit, Bool.and_eq_true, decide_eq_true_eq, UInt32.le_iff_toNat_le] at known
    have last : c.toNat ≤ 57 := known.2
    have zero : '0'.toNat = 48 := rfl
    rw [Text.digitValue, zero]
    omega
  have taken (value : Nat) (digits : List Char) (decimal : ∀ c ∈ digits, c.isDigit = true) :
      digits.foldl (fun value c => value * 10 + Text.digitValue c) value <
        (value + 1) * 10 ^ digits.length := by
    induction digits generalizing value with
    | nil => simp
    | cons c digits ih =>
        obtain ⟨here, rest⟩ := List.forall_mem_cons.mp decimal
        calc _ < (value * 10 + Text.digitValue c + 1) * 10 ^ digits.length := ih _ rest
          _ ≤ ((value + 1) * 10) * 10 ^ digits.length :=
            Nat.mul_le_mul_right _ (by have := digit here; omega)
          _ = (value + 1) * 10 ^ (digits.length + 1) := by ring
  simpa [Text.naturalOf] using taken 0 digits decimal

theorem bind_ok {α β : Type} {first : Except Problem α} {next : α → Except Problem β} {made : β}
    (done : first >>= next = .ok made) : ∃ found, first = .ok found ∧ next found = .ok made := by
  cases first with
  | error problem => cases done
  | ok found => exact ⟨found, rfl, done⟩

theorem map_ok {α β : Type} {first : Except Problem α} {make : α → β} {made : β}
    (done : first.map make = .ok made) : ∃ found, first = .ok found ∧ make found = made := by
  cases first with
  | error problem => cases done
  | ok found => exact ⟨found, rfl, Except.ok.inj done⟩

/-- A number that is read is no greater than the digits that are taken away for it allow. -/
theorem readNumber_ok {most n : Nat} {cs rest : List Char}
    (read : readNumber most cs = .ok (n, rest)) :
    rest.length ≤ cs.length ∧ n < 10 ^ most ∧ n < 10 ^ (cs.length - rest.length) := by
  cases cs with
  | nil => cases read
  | cons c others =>
      rw [readNumber] at read
      split at read
      · obtain ⟨rfl, rfl⟩ := Prod.mk.inj (Except.ok.inj read)
        set digits := ((c :: others).take most).takeWhile Char.isDigit with taken
        have bound : Text.naturalOf digits < 10 ^ digits.length :=
          naturalOf_lt fun c member => List.mem_takeWhile_imp member
        have within : digits.length ≤ min most (c :: others).length := by
          rw [← List.length_take]
          exact (List.takeWhile_sublist _).length_le
        have left : (c :: others).length - ((c :: others).drop digits.length).length =
            digits.length := by
          rw [List.length_drop]
          omega
        refine ⟨(List.drop_sublist _ _).length_le, ?_, by rwa [left]⟩
        exact Nat.lt_of_lt_of_le bound (Nat.pow_le_pow_right (by decide) (by omega))
      · cases read

theorem readYear_ok {year : Int} {cs rest : List Char} (read : readYear cs = .ok (year, rest)) :
    year.natAbs < 10 ^ 4 ∨ year.natAbs < 10 ^ (cs.length - 1 - rest.length) := by
  have signed {sign : Char} {others : List Char} {n : Nat}
      (written : Text.skipBlank cs = sign :: others)
      (taken : readNumber others.length others = .ok (n, rest)) :
      n < 10 ^ (cs.length - 1 - rest.length) := by
    have shorter := Text.length_skipBlank_le cs
    rw [written, List.length_cons] at shorter
    obtain ⟨_, _, bound⟩ := readNumber_ok taken
    exact Nat.lt_of_lt_of_le bound (Nat.pow_le_pow_right (by decide) (by omega))
  rw [readYear] at read
  split at read
  · rename_i others written
    obtain ⟨⟨n, left⟩, taken, made⟩ := map_ok read
    obtain ⟨rfl, rfl⟩ := Prod.mk.inj made
    exact Or.inr (by simpa using signed written taken)
  · rename_i others written
    obtain ⟨⟨n, left⟩, taken, made⟩ := map_ok read
    obtain ⟨rfl, rfl⟩ := Prod.mk.inj made
    exact Or.inr (by simpa using signed written taken)
  · obtain ⟨⟨n, left⟩, taken, made⟩ := map_ok read
    obtain ⟨rfl, rfl⟩ := Prod.mk.inj made
    exact Or.inl (by simpa using (readNumber_ok taken).2.1)

theorem readHyphen_ok {cs rest : List Char} (read : readHyphen cs = .ok rest) :
    cs.length = rest.length + 1 := by
  cases cs with
  | nil => cases read
  | cons c others =>
      rw [readHyphen] at read
      split at read
      · rw [← Except.ok.inj read, List.length_cons]
      · cases read

theorem readPart_ok {greatest n : Nat} {cs rest : List Char}
    (read : readPart greatest cs = .ok (n, rest)) : rest.length < cs.length ∧ n ≤ greatest := by
  obtain ⟨⟨m, left⟩, taken, checked⟩ := bind_ok read
  have shorter := Text.length_skipBlank_le cs
  obtain ⟨within, _, bound⟩ := readNumber_ok taken
  dsimp only at checked
  split at checked
  · rename_i inside
    obtain ⟨rfl, rfl⟩ := Prod.mk.inj (Except.ok.inj checked)
    simp only [Bool.and_eq_true, decide_eq_true_eq] at inside
    refine ⟨?_, inside.2⟩
    by_contra none
    have zero : (Text.skipBlank cs).length - left.length = 0 := by omega
    rw [zero] at bound
    omega
  · cases checked

/-- Ten characters leave no room for a year of more than five digits. -/
theorem readParts_ok {cs : List Char} {date : Date} (read : readParts cs = .ok date)
    (length : cs.length ≤ 10) : date.Short := by
  obtain ⟨⟨year, afterYear⟩, yearRead, read⟩ := bind_ok read
  obtain ⟨beforeMonth, hyphen, read⟩ := bind_ok read
  obtain ⟨⟨month, afterMonth⟩, monthRead, read⟩ := bind_ok read
  obtain ⟨beforeDay, hyphen', read⟩ := bind_ok read
  obtain ⟨⟨day, afterDay⟩, dayRead, read⟩ := bind_ok read
  have first := readHyphen_ok hyphen
  have second := readHyphen_ok hyphen'
  obtain ⟨third, monthBound⟩ := readPart_ok monthRead
  obtain ⟨fourth, dayBound⟩ := readPart_ok dayRead
  have yearBound : year.natAbs < 100000 := by
    rcases readYear_ok yearRead with unsigned | signed
    · omega
    · have digits : cs.length - 1 - afterYear.length ≤ 5 := by omega
      exact Nat.lt_of_lt_of_le signed (Nat.pow_le_pow_right (by decide) digits)
  dsimp only at read
  split at read
  · cases read
  split at read
  · cases read
  · rw [← Except.ok.inj read]
    exact ⟨yearBound, by dsimp only; omega, by dsimp only; omega⟩

theorem length_le_utf8ByteSize (text : String) : text.toList.length ≤ text.utf8ByteSize := by
  have chars (cs : List Char) : cs.length ≤ String.utf8Len cs := by
    induction cs with
    | nil => exact Nat.le_refl 0
    | cons c cs ih =>
        rw [String.utf8Len_cons, List.length_cons]
        exact Nat.add_le_add ih c.utf8Size_pos
  calc text.toList.length ≤ String.utf8Len text.toList := chars _
    _ = (String.ofList text.toList).utf8ByteSize := (String.utf8ByteSize_ofList _).symm
    _ = text.utf8ByteSize := by rw [String.ofList_toList]

theorem short_of_read {text : String} {date : Date} (read : Date.read text = .ok date) :
    date.Short := by
  rw [Date.read] at read
  split at read
  · rename_i bytes
    cases parts : readParts (Text.trim text).toList with
    | error problem =>
        rw [parts] at read
        cases read
    | ok found =>
        rw [parts] at read
        rw [← Except.ok.inj read]
        exact readParts_ok parts (bytes ▸ length_le_utf8ByteSize _)
  · cases read

end Date
end Engagements
