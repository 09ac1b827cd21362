import Engagements.Version
import Mathlib.Algebra.Order.Group.Nat
import Mathlib.Tactic.Linarith
import Mathlib.Tactic.Ring

/-!
Version tokens sort as the points of time they stand for: every part of a token has a fixed width,
and the parts stand from the longest time to the shortest.
-/
namespace Engagements

theorem append_lt_append {front other : List Char} (back end_ : List Char)
    (width : front.length = other.length) (less : front < other) :
    front ++ back < other ++ end_ := by
  induction front generalizing other with
  | nil =>
      cases other with
      | nil => exact absurd less (List.lt_irrefl [])
      | cons head tail => cases width
  | cons head tail ih =>
      cases other with
      | nil => cases width
      | cons head' tail' =>
          rw [List.cons_lt_cons_iff] at less
          simp only [List.cons_append, List.cons_lt_cons_iff]
          rcases less with first | ⟨same, later⟩
          · exact Or.inl first
          · exact Or.inr ⟨same, ih (by simpa using width) later⟩

/-- Texts of the numbers below a bound, all of one width, that sort as the numbers do. -/
structure Sorted (bound width : Nat) (text : Nat → List Char) : Prop where
  length : ∀ n, n < bound → (text n).length = width
  lt : ∀ m n, m < n → n < bound → text m < text n

namespace Sorted

variable {bound width : Nat} {text : Nat → List Char}

theorem mono (sorted : Sorted bound width text) {least : Nat} (below : least ≤ bound) :
    Sorted least width text where
  length n small := sorted.length n (by omega)
  lt m n less small := sorted.lt m n less (by omega)

/-- What stands behind texts of different numbers does not count. -/
theorem append_lt (sorted : Sorted bound width text) {m n : Nat} (less : m < n) (small : n < bound)
    (back rest : List Char) : text m ++ back < text n ++ rest := by
  apply append_lt_append
  · rw [sorted.length m (by omega), sorted.length n small]
  · exact sorted.lt m n less small

theorem ended (sorted : Sorted bound width text) (ending : List Char) :
    Sorted bound (width + ending.length) fun n => text n ++ ending where
  length n small := by simp [sorted.length n small]
  lt m n less small := sorted.append_lt less small ending ending

/-- Quotients in front of remainders. -/
theorem joined (front : Sorted bound width text) {divisor width' : Nat} {text' : Nat → List Char}
    (back : Sorted divisor width' text') (positive : 0 < divisor) (between : List Char) :
    Sorted (bound * divisor) (width + (between.length + width')) fun n =>
      text (n / divisor) ++ (between ++ text' (n % divisor)) where
  length n small := by
    have quotient := front.length (n / divisor) (Nat.div_lt_of_lt_mul (by linarith))
    have remainder := back.length (n % divisor) (Nat.mod_lt n positive)
    simp [quotient, remainder]
  lt m n less small := by
    have bounded : n / divisor < bound := Nat.div_lt_of_lt_mul (by linarith)
    have ordered : m / divisor ≤ n / divisor := Nat.div_le_div_right (by omega)
    rcases Nat.lt_or_eq_of_le ordered with earlier | same
    · exact front.append_lt earlier bounded _ _
    · have remainders : m % divisor < n % divisor := by
        have first := Nat.div_add_mod m divisor
        have second := Nat.div_add_mod n divisor
        rw [same] at first
        omega
      rw [same]
      exact List.append_left_lt
        (List.append_left_lt (back.lt _ _ remainders (Nat.mod_lt n positive)))

end Sorted

namespace Date

theorem toList_padded (width n : Nat) :
    (padded width n).toList =
      List.replicate (width - (Nat.toDigits 10 n).length) '0' ++ Nat.toDigits 10 n := by
  simp [padded, Nat.toString_eq_repr, Nat.repr]

theorem toList_padded_succ (width n : Nat) (positive : 0 < width) :
    (padded (width + 1) n).toList = (padded width (n / 10)).toList ++ [Nat.digitChar (n % 10)] := by
  rw [toList_padded, toList_padded]
  by_cases single : n < 10
  · rw [Nat.div_eq_of_lt single, Nat.mod_eq_of_lt single, Nat.toDigits_of_lt_base single,
      Nat.toDigits_zero]
    obtain ⟨less, rfl⟩ : ∃ less, width = less + 1 := ⟨width - 1, by omega⟩
    simp [List.replicate_succ']
  · rw [Nat.toDigits_of_base_le (by decide) (by omega : 10 ≤ n)]
    simp [List.length_append]

theorem sorted_digit : Sorted 10 1 fun n => (padded 1 n).toList where
  length := by decide
  lt m n less small := by
    have all : ∀ n < 10, ∀ m < n, (padded 1 m).toList < (padded 1 n).toList := by decide
    exact all n small m less

theorem sorted_padded (width : Nat) :
    Sorted (10 ^ (width + 1)) (width + 1) fun n => (padded (width + 1) n).toList := by
  induction width with
  | zero => exact sorted_digit
  | succ width ih =>
      have joined := ih.joined sorted_digit (by decide) []
      have same : (fun n => (padded (width + 1 + 1) n).toList) = fun n =>
          (padded (width + 1) (n / 10)).toList ++ ([] ++ (padded 1 (n % 10)).toList) := by
        funext n
        rw [toList_padded_succ _ _ (by omega), toList_padded 1,
          Nat.toDigits_of_lt_base (Nat.mod_lt n (by decide))]
        rfl
      rw [same, pow_succ]
      simpa using joined

/-! A later day has a later year, or a later month in its year, or a later day in its month. -/

def yearLength (year : Int) : Nat := 365 + (if isLeap year then 1 else 0)

theorem splitYears_full {year : Int} {days : Nat} (full : yearLength year ≤ days) :
    splitYears year days = splitYears (year + 1) (days - yearLength year) := by
  rw [splitYears]
  exact if_pos full

theorem splitYears_short {year : Int} {days : Nat} (short : days < yearLength year) :
    splitYears year days = (year, days) := by
  rw [splitYears]
  exact if_neg (Nat.not_le.mpr short)

theorem yearLength_bounds (year : Int) : 365 ≤ yearLength year ∧ yearLength year ≤ 366 := by
  unfold yearLength
  split <;> omega

theorem splitYears_bounds (year : Int) (days : Nat) :
    year ≤ (splitYears year days).1 ∧ (splitYears year days).1 ≤ year + days / 365 ∧
      (splitYears year days).2 ≤ 365 := by
  induction days using Nat.strong_induction_on generalizing year with
  | _ days ih =>
      have length := yearLength_bounds year
      by_cases full : yearLength year ≤ days
      · rw [splitYears_full full]
        have rest := ih (days - yearLength year) (by omega) (year + 1)
        omega
      · rw [splitYears_short (by omega)]
        refine ⟨le_refl _, ?_, ?_⟩ <;> dsimp only <;> omega

theorem splitYears_lt (year : Int) (m n : Nat) (less : m < n) :
    (splitYears year m).1 < (splitYears year n).1 ∨
      (splitYears year m).1 = (splitYears year n).1 ∧
        (splitYears year m).2 < (splitYears year n).2 := by
  induction m using Nat.strong_induction_on generalizing year n with
  | _ m ih =>
      have length := yearLength_bounds year
      by_cases full : yearLength year ≤ m
      · rw [splitYears_full full, splitYears_full (by omega : yearLength year ≤ n)]
        exact ih (m - yearLength year) (by omega) (year + 1) _ (by omega)
      · rw [splitYears_short (by omega : m < yearLength year)]
        by_cases later : yearLength year ≤ n
        · rw [splitYears_full later]
          have rest := (splitYears_bounds (year + 1) (n - yearLength year)).1
          exact Or.inl (by dsimp only; omega)
        · rw [splitYears_short (by omega : n < yearLength year)]
          exact Or.inr ⟨rfl, less⟩

theorem daysInMonth_bounds (year : Int) (month : Nat) :
    28 ≤ daysInMonth year month ∧ daysInMonth year month ≤ 31 := by
  unfold daysInMonth
  split
  · split <;> omega
  · split <;> omega

theorem splitMonths_bounds (year : Int) (month days fuel : Nat) :
    month ≤ (splitMonths year month days fuel).1 ∧
      (splitMonths year month days fuel).1 ≤ month + fuel ∧
      ((splitMonths year month days fuel).2 < 31 ∨
        28 * fuel + (splitMonths year month days fuel).2 ≤ days) := by
  induction fuel generalizing month days with
  | zero => simp [splitMonths]
  | succ fuel ih =>
      have length := daysInMonth_bounds year month
      by_cases full : daysInMonth year month ≤ days
      · rw [splitMonths, if_pos full]
        have rest := ih (month + 1) (days - daysInMonth year month)
        omega
      · rw [splitMonths, if_neg full]
        refine ⟨le_refl _, ?_, ?_⟩ <;> dsimp only <;> omega

theorem splitMonths_lt (year : Int) (month m n fuel : Nat) (less : m < n) :
    (splitMonths year month m fuel).1 < (splitMonths year month n fuel).1 ∨
      (splitMonths year month m fuel).1 = (splitMonths year month n fuel).1 ∧
        (splitMonths year month m fuel).2 < (splitMonths year month n fuel).2 := by
  induction fuel generalizing month m n with
  | zero => exact Or.inr ⟨rfl, less⟩
  | succ fuel ih =>
      by_cases full : daysInMonth year month ≤ m
      · rw [splitMonths, if_pos full, splitMonths, if_pos (by omega)]
        exact ih (month + 1) _ _ (by omega)
      · rw [splitMonths, if_neg full, splitMonths]
        by_cases later : daysInMonth year month ≤ n
        · rw [if_pos later]
          have rest :=
            (splitMonths_bounds year (month + 1) (n - daysInMonth year month) fuel).1
          exact Or.inl (by dsimp only; omega)
        · rw [if_neg later]
          exact Or.inr ⟨rfl, less⟩

theorem ofDays_bounds (days : Nat) :
    1970 ≤ (ofDays days).year ∧ (ofDays days).year ≤ 1970 + days / 365 ∧
      (ofDays days).month < 13 ∧ (ofDays days).day < 60 := by
  have years := splitYears_bounds 1970 days
  have months := splitMonths_bounds (splitYears 1970 days).1 1 (splitYears 1970 days).2 11
  simp only [ofDays]
  omega

theorem ofDays_lt (m n : Nat) (less : m < n) :
    (ofDays m).year < (ofDays n).year ∨ (ofDays m).year = (ofDays n).year ∧
      ((ofDays m).month < (ofDays n).month ∨ (ofDays m).month = (ofDays n).month ∧
        (ofDays m).day < (ofDays n).day) := by
  rcases splitYears_lt 1970 m n less with earlier | ⟨same, rest⟩
  · exact Or.inl earlier
  · have months := splitMonths_lt (splitYears 1970 m).1 1 _ _ 11 rest
    refine Or.inr ⟨same, ?_⟩
    simp only [ofDays]
    rw [← same]
    omega

/-- Days whose year has four digits. -/
def fourDigitDays : Nat := 8029 * 365

theorem toList_ofDays (days : Nat) (small : days < fourDigitDays) :
    (ofDays days).toText.toList =
      (padded 4 (ofDays days).year.natAbs).toList ++ (['-'] ++
        ((padded 2 (ofDays days).month).toList ++ (['-'] ++
          (padded 2 (ofDays days).day).toList))) := by
  have bounds := ofDays_bounds days
  have digits : days / 365 ≤ 8028 := by
    unfold fourDigitDays at small
    omega
  have positive : ¬(ofDays days).year < 0 := by omega
  have unsigned : ¬9999 < (ofDays days).year := by omega
  simp [toText, yearText, positive, unsigned]

theorem sorted_date : Sorted fourDigitDays 10 fun days => (ofDays days).toText.toList where
  length days small := by
    have bounds := ofDays_bounds days
    have year : (padded 4 (ofDays days).year.natAbs).toList.length = 4 :=
      (sorted_padded 3).length _ (by
        unfold fourDigitDays at small
        omega)
    have month : (padded 2 (ofDays days).month).toList.length = 2 :=
      (sorted_padded 1).length _ (by omega)
    have day : (padded 2 (ofDays days).day).toList.length = 2 :=
      (sorted_padded 1).length _ (by omega)
    rw [toList_ofDays days small]
    simp [year, month, day]
  lt m n less small := by
    have first := ofDays_bounds m
    have second := ofDays_bounds n
    have years : m / 365 ≤ 8028 ∧ n / 365 ≤ 8028 := by
      unfold fourDigitDays at small
      omega
    have year := sorted_padded 3
    have part := sorted_padded 1
    rw [toList_ofDays m (by omega), toList_ofDays n small]
    rcases ofDays_lt m n less with earlier | ⟨sameYear, earlier | ⟨sameMonth, earlier⟩⟩
    · exact year.append_lt (by omega) (by omega) _ _
    · rw [sameYear]
      apply List.append_left_lt
      apply List.append_left_lt
      exact part.append_lt earlier (by omega) _ _
    · rw [sameYear, sameMonth]
      iterate 4 apply List.append_left_lt
      exact part.lt _ _ earlier (by omega)

end Date

namespace Version

theorem sorted_time : Sorted secondsInDay 8 fun second => (timeText second).toList := by
  have minutes := ((Date.sorted_padded 1).mono (by decide : 24 ≤ 100)).joined
    ((Date.sorted_padded 1).mono (by decide : 60 ≤ 100)) (by decide) [':']
  have seconds := minutes.joined ((Date.sorted_padded 1).mono (by decide : 60 ≤ 100)) (by decide)
    [':']
  have same : (fun second => (timeText second).toList) = fun second =>
      ((Date.padded 2 (second / 60 / 60)).toList ++
        ([':'] ++ (Date.padded 2 (second / 60 % 60)).toList)) ++
          ([':'] ++ (Date.padded 2 (second % 60)).toList) := by
    funext second
    simp [timeText, Nat.div_div_eq_div_mul]
  rw [same]
  exact seconds

theorem sorted_second :
    Sorted (Date.fourDigitDays * secondsInDay) 19 fun second => (secondText second).toList := by
  have joined := Date.sorted_date.joined sorted_time (by decide) ['T']
  have same : (fun second => (secondText second).toList) = fun second =>
      (Date.ofDays (second / secondsInDay)).toText.toList ++
        (['T'] ++ (timeText (second % secondsInDay)).toList) := by
    funext second
    simp [secondText]
  rw [same]
  exact joined

/-- Tokens of points of time before the year 9999 all have thirty characters, and a later point has
the greater token. -/
theorem sorted_token :
    Sorted (Date.fourDigitDays * secondsInDay * nanosecondsInSecond) 30 fun nanosecond =>
      (token nanosecond).toList := by
  have joined := (sorted_second.joined (Date.sorted_padded 8) (by decide) ['.']).ended ['Z']
  have same : (fun nanosecond => (token nanosecond).toList) = fun nanosecond =>
      ((secondText (nanosecond / nanosecondsInSecond)).toList ++
        (['.'] ++ (Date.padded 9 (nanosecond % nanosecondsInSecond)).toList)) ++ ['Z'] := by
    funext nanosecond
    simp [token]
  rw [same]
  exact joined

theorem token_lt_token {earlier later : Nat} (less : earlier < later)
    (countable : later ≤ lastNanosecond) : token earlier < token later := by
  rw [String.lt_iff]
  apply sorted_token.lt earlier later less
  exact Nat.lt_of_le_of_lt countable (by decide)

theorem nextStamp_le {previous : Nat} {now : Int} (present : now ≤ lastNanosecond) :
    nextStamp previous now ≤ lastNanosecond := by
  unfold nextStamp
  omega

theorem le_nextStamp {previous : Nat} {now : Int} (countable : previous ≤ lastNanosecond) :
    previous ≤ nextStamp previous now := by
  unfold nextStamp
  omega

/-- A stamp is later than the previous one, unless it is the last that can be counted. -/
theorem lt_nextStamp {previous : Nat} {now : Int} (countable : previous ≤ lastNanosecond) :
    previous < nextStamp previous now ∨ nextStamp previous now = lastNanosecond := by
  unfold nextStamp
  omega

end Version

end Engagements
