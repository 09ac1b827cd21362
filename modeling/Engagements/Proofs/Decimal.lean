import Engagements.Decimal
import Engagements.Proofs.Double
import Mathlib.Algebra.Order.Field.Basic
import Mathlib.Data.Rat.Cast.Order
import Mathlib.Tactic.FieldSimp
import Mathlib.Tactic.Positivity

/-!
Digits of doubles. The reals that round to one magnitude are an interval, these intervals meet at
their ends only, and the digits chosen for a magnitude stand for a number in its own one.
-/
namespace Engagements.Decimal

open Double

/-! The intervals, in quarter units. -/

/-- The lowest and the highest number of quarter units that can round to a rank. -/
def low (rank : Nat) : Nat := (interval rank).1

def high (rank : Nat) : Nat := (interval rank).2

/-- How far an interval reaches down; the first one of a binade is next to smaller steps. -/
def below (rank : Nat) : Nat :=
  if rank % binade = 0 && 2 * binade ≤ rank then step rank else 2 * step rank

theorem low_eq (rank : Nat) : low rank = 4 * unitsOfRank rank - below rank := rfl

theorem high_eq (rank : Nat) : high rank = 4 * unitsOfRank rank + 2 * step rank := rfl

theorem below_of_first {rank : Nat} (first : rank % binade = 0) (later : 2 * binade ≤ rank) :
    below rank = step rank := by
  rw [below, if_pos]
  rw [Bool.and_eq_true, decide_eq_true_eq, decide_eq_true_eq]
  exact ⟨first, later⟩

theorem below_of_inside {rank : Nat} (inside : rank % binade = 0 → rank < 2 * binade) :
    below rank = 2 * step rank := by
  rw [below, if_neg]
  rw [Bool.and_eq_true, decide_eq_true_eq, decide_eq_true_eq]
  exact fun ⟨first, later⟩ => Nat.not_le.mpr (inside first) later

theorem below_succ (rank : Nat) : below (rank + 1) = 2 * step rank := by
  by_cases small : rank < binade
  · rw [below_of_inside fun _ => by omega, step_low (by omega), step_low (by omega)]
  · obtain ⟨exponent, rest, rfl, short⟩ := exists_exponent (Nat.not_lt.mp small)
    rw [step_high exponent short]
    by_cases last : rest + 1 = binade
    · have next : (exponent + 1) * binade + rest + 1 = (exponent + 1 + 1) * binade + 0 := by
        rw [Nat.add_mul (exponent + 1)]
        omega
      have first : ((exponent + 1 + 1) * binade + 0) % binade = 0 := by
        rw [Nat.add_zero, Nat.mul_mod_left]
      have large : 2 * binade ≤ (exponent + 1 + 1) * binade + 0 := by
        rw [Nat.add_zero]
        exact Nat.mul_le_mul_right binade (by omega)
      calc below ((exponent + 1) * binade + rest + 1)
        _ = below ((exponent + 1 + 1) * binade + 0) := congrArg below next
        _ = 2 ^ (exponent + 1) := by
            rw [below_of_first first large, step_high (exponent + 1) (by decide)]
        _ = 2 * 2 ^ exponent := by rw [Nat.pow_succ, Nat.mul_comm]
    · have inside : rest + 1 < binade := by omega
      have later : ((exponent + 1) * binade + (rest + 1)) % binade = rest + 1 :=
        Nat.mul_add_mod_of_lt inside
      rw [Nat.add_assoc, below_of_inside fun first => by omega, step_high exponent inside]

/-- Where the interval of one rank ends, that of the next one begins. -/
theorem low_succ (rank : Nat) : low (rank + 1) = high rank := by
  rw [low_eq, high_eq, below_succ, unitsOfRank_succ]
  omega

theorem low_lt_high (rank : Nat) : low rank < high rank := by
  have positive := step_pos rank
  rw [low_eq, high_eq]
  omega

theorem low_strictMono : StrictMono low :=
  strictMono_nat_of_lt_succ fun rank => (low_succ rank).symm ▸ low_lt_high rank

/-- A number of quarter units that rounds to a rank; the ends of the interval go to an even rank. -/
def Rounds (rank : Nat) (quarters : ℚ) : Prop :=
  if rank % 2 = 0 then low rank ≤ quarters ∧ quarters ≤ high rank
  else low rank < quarters ∧ quarters < high rank

theorem Rounds.bounds {rank : Nat} {quarters : ℚ} (rounds : Rounds rank quarters) :
    low rank ≤ quarters ∧ quarters ≤ high rank := by
  rw [Rounds] at rounds
  split at rounds
  · exact rounds
  · exact ⟨rounds.1.le, rounds.2.le⟩

/-- No number rounds to two ranks. -/
theorem eq_of_rounds {rank other : Nat} {quarters : ℚ} (first : Rounds rank quarters)
    (second : Rounds other quarters) : rank = other := by
  have apart : ∀ {rank other : Nat}, rank < other → Rounds rank quarters →
      ¬Rounds other quarters := by
    intro rank other less first second
    have upper := first.bounds.2
    have lower := second.bounds.1
    rw [← low_succ] at upper
    have ends : low other ≤ low (rank + 1) := by exact_mod_cast lower.trans upper
    have next : other = rank + 1 := by
      have ordered := low_strictMono.le_iff_le.mp ends
      omega
    subst next
    have shared : quarters = low (rank + 1) := le_antisymm upper lower
    rcases Nat.mod_two_eq_zero_or_one rank with even | odd
    · have odd : ¬(rank + 1) % 2 = 0 := by omega
      rw [Rounds, if_neg odd] at second
      exact second.1.ne' shared
    · have odd : ¬rank % 2 = 0 := by omega
      rw [Rounds, if_neg odd, ← low_succ] at first
      exact first.2.ne shared
  rcases Nat.lt_trichotomy rank other with less | same | greater
  · exact absurd second (apart less first)
  · exact same
  · exact absurd first (apart greater second)

/-! Decimals that read back. -/

/-- A magnitude on a decimal grid, in quarter units. -/
def quarters (count : Nat) (power : Int) : ℚ := count * 10 ^ power * (4 * unitsInOne)

theorem zpow_ten (power : Int) :
    (10 : ℚ) ^ power = (10 ^ power.toNat : Nat) / (10 ^ (-power).toNat : Nat) := by
  rcases Int.le_total 0 power with up | down
  · obtain ⟨n, rfl⟩ := Int.eq_ofNat_of_zero_le up
    simp
  · obtain ⟨n, same⟩ := Int.eq_ofNat_of_zero_le (Int.neg_nonneg.mpr down)
    obtain rfl : power = -(n : Int) := by omega
    simp

theorem readsBack_iff (rank count : Nat) (power : Int) :
    readsBack rank count power = true ↔ Rounds rank (quarters count power) := by
  have positive : (0 : ℚ) < (10 ^ (-power).toNat : Nat) := by positivity
  have value : quarters count power =
      (count * 10 ^ power.toNat * (4 * unitsInOne) : Nat) / (10 ^ (-power).toNat : Nat) := by
    rw [quarters, zpow_ten]
    push_cast
    ring
  rw [value, Rounds, le_div_iff₀ positive, div_le_iff₀ positive, lt_div_iff₀ positive,
    div_lt_iff₀ positive]
  simp only [readsBack]
  norm_cast
  split
  · rw [Bool.and_eq_true, decide_eq_true_eq, decide_eq_true_eq]
    exact Iff.rfl
  · rw [Bool.and_eq_true, decide_eq_true_eq, decide_eq_true_eq]
    exact Iff.rfl

theorem pow_le_of_digits {n : Nat} (positive : 0 < n) :
    10 ^ ((wholeDigits n).length - 1) ≤ n := by
  by_contra small
  rw [Nat.not_le] at small
  rcases Nat.eq_zero_or_pos ((wholeDigits n).length - 1) with single | several
  · rw [single, Nat.pow_zero] at small
    omega
  · have shorter := (Nat.length_toDigits_le_iff (by decide) several).mpr small
    rw [← wholeDigits] at shorter
    omega

/-- The digits of a scaled quotient tell the power of ten below it. -/
theorem zpow_digits_le {units one power : Nat} (positive : 0 < units) (some : 0 < one)
    (enough : one ≤ power) (scale : Nat) (same : power = 10 ^ scale) {offset : Int}
    (beyond : offset = scale + 1) :
    (10 : ℚ) ^ (((wholeDigits (units * power / one)).length : Int) - offset) * one ≤ units := by
  have scaled : one ≤ units * power := enough.trans (Nat.le_mul_of_pos_left _ positive)
  have first := pow_le_of_digits (Nat.div_pos scaled some)
  have digits : 0 < (wholeDigits (units * power / one)).length := Nat.length_toDigits_pos
  generalize (wholeDigits (units * power / one)).length = length at first digits ⊢
  have bound : 10 ^ (length - 1) * one ≤ units * 10 ^ scale :=
    same ▸ (Nat.mul_le_mul_right one first).trans (Nat.div_mul_le_self _ _)
  have exponent : (length : Int) - offset = ((length - 1 : Nat) : Int) - (scale : Nat) := by
    omega
  have ten : (0 : ℚ) < 10 ^ scale := by positivity
  rw [exponent, zpow_sub₀ (by norm_num), zpow_natCast, zpow_natCast, div_mul_eq_mul_div,
    div_le_iff₀ ten]
  exact_mod_cast bound

/-- Every magnitude is at least the power of ten that its first digit stands for. -/
theorem zpow_leadingExponent_le {units : Nat} (positive : 0 < units) :
    (10 : ℚ) ^ leadingExponent units * unitsInOne ≤ units := by
  rw [leadingExponent]
  exact zpow_digits_le positive (by decide +kernel) (by decide +kernel) 324 (by decide +kernel) rfl

/-- A rank is at least one part in 2^53 of its magnitude away from the next one. -/
theorem units_lt_step (rank : Nat) : unitsOfRank rank < 2 * binade * step rank := by
  by_cases small : rank < binade
  · rw [unitsOfRank_low (Nat.le_of_lt small), step_low (by omega)]
    omega
  · obtain ⟨exponent, rest, rfl, short⟩ := exists_exponent (Nat.not_lt.mp small)
    rw [unitsOfRank_high exponent (Nat.le_of_lt short), step_high exponent short]
    exact Nat.mul_lt_mul_of_pos_right (by omega) (Nat.two_pow_pos exponent)

theorem step_le_units {rank : Nat} (positive : 0 < rank) : step rank ≤ unitsOfRank rank := by
  by_cases small : rank < binade
  · rw [unitsOfRank_low (Nat.le_of_lt small), step_low (by omega)]
    exact positive
  · obtain ⟨exponent, rest, rfl, short⟩ := exists_exponent (Nat.not_lt.mp small)
    rw [unitsOfRank_high exponent (Nat.le_of_lt short), step_high exponent short]
    exact Nat.le_mul_of_pos_left _ (Nat.add_pos_left (by decide) rest)

theorem below_bounds (rank : Nat) : step rank ≤ below rank ∧ below rank ≤ 2 * step rank := by
  rw [below]
  split <;> omega

/-- A number of quarter units less than a step away from a magnitude rounds to it. -/
theorem rounds_of_near {rank : Nat} (positive : 0 < rank) {quarters : ℚ}
    (lower : 4 * (unitsOfRank rank : ℚ) < quarters + step rank)
    (upper : quarters < 4 * (unitsOfRank rank : ℚ) + step rank) : Rounds rank quarters := by
  obtain ⟨least, most⟩ := below_bounds rank
  have some := step_le_units positive
  have bottom : (low rank : ℚ) ≤ 4 * (unitsOfRank rank : ℚ) - step rank := by
    rw [le_sub_iff_add_le, low_eq]
    exact_mod_cast (by omega : 4 * unitsOfRank rank - below rank + step rank ≤ 4 * unitsOfRank rank)
  have top : 4 * (unitsOfRank rank : ℚ) + step rank ≤ high rank := by
    rw [high_eq]
    exact_mod_cast (by omega)
  rw [Rounds]
  split
  · exact ⟨by linarith, by linarith⟩
  · exact ⟨by linarith, by linarith⟩

/-- The nearest multiple on a fine grid reads back. -/
theorem readsBack_nearest {rank : Nat} (positive : 0 < rank) {power : Int}
    (fine : 2 * ((10 : ℚ) ^ power * unitsInOne) < step rank) :
    readsBack rank (roundedQuotient (unitsOfRank rank * 10 ^ (-power).toNat)
      (unitsInOne * 10 ^ power.toNat)) power = true := by
  have some : 0 < unitsInOne * 10 ^ power.toNat := Nat.mul_pos (by decide +kernel) (by positivity)
  obtain ⟨above, beneath⟩ := roundedQuotient_near (unitsOfRank rank * 10 ^ (-power).toNat) some
  rw [readsBack_iff]
  generalize roundedQuotient (unitsOfRank rank * 10 ^ (-power).toNat)
    (unitsInOne * 10 ^ power.toNat) = nearest at above beneath ⊢
  have scale : (0 : ℚ) < (10 ^ (-power).toNat : Nat) := by positivity
  have value : quarters nearest power =
      4 * (nearest * (unitsInOne * (10 ^ power.toNat : Nat))) / (10 ^ (-power).toNat : Nat) := by
    rw [quarters, zpow_ten]
    ring
  rw [zpow_ten, div_mul_eq_mul_div, ← mul_div_assoc, div_lt_iff₀ scale] at fine
  have above : (2 * (nearest * (unitsInOne * (10 ^ power.toNat : Nat))) : ℚ) ≤
      2 * (unitsOfRank rank * (10 ^ (-power).toNat : Nat)) +
        unitsInOne * (10 ^ power.toNat : Nat) := by exact_mod_cast above
  have beneath : (2 * (unitsOfRank rank * (10 ^ (-power).toNat : Nat)) : ℚ) ≤
      2 * (nearest * (unitsInOne * (10 ^ power.toNat : Nat))) +
        unitsInOne * (10 ^ power.toNat : Nat) := by exact_mod_cast beneath
  refine rounds_of_near positive ?_ ?_
  · rw [value, ← sub_lt_iff_lt_add, lt_div_iff₀ scale, sub_mul]
    linarith
  · rw [value, div_lt_iff₀ scale, add_mul]
    linarith

/-- Seventeen digits behind the first one are enough. -/
theorem exists_neighbour {rank : Nat} (positive : 0 < rank) :
    ∃ whole, neighbour? rank (leadingExponent (unitsOfRank rank) - (17 : Nat)) = some whole := by
  have units : 0 < unitsOfRank rank := (step_pos rank).trans_le (step_le_units positive)
  have leading := zpow_leadingExponent_le units
  have coarse := units_lt_step rank
  have fine : 2 * ((10 : ℚ) ^ (leadingExponent (unitsOfRank rank) - (17 : Nat)) * unitsInOne) <
      step rank := by
    have coarse : (unitsOfRank rank : ℚ) < 2 * 2 ^ 52 * step rank := by exact_mod_cast coarse
    have steps : (0 : ℚ) < step rank := by exact_mod_cast step_pos rank
    rw [zpow_sub₀ (by norm_num), zpow_natCast, div_mul_eq_mul_div, ← mul_div_assoc,
      div_lt_iff₀ (by positivity)]
    linarith
  refine ⟨_, if_pos (readsBack_nearest positive fine)⟩

theorem readsBack_of_neighbour? {rank whole : Nat} {power : Int}
    (found : neighbour? rank power = some whole) : readsBack rank whole power = true := by
  have chosen : ∀ nearest other : Nat,
      (if readsBack rank nearest power = true then some nearest
        else if readsBack rank other power = true then some other else none) = some whole →
      readsBack rank whole power = true := by
    intro nearest other chosen
    split_ifs at chosen with first second
    · exact Option.some.inj chosen ▸ first
    · exact Option.some.inj chosen ▸ second
  exact chosen _ _ found

/-- The whole number and the power of ten that are tried with some digits behind the first one. -/
def trial? (d : Double) (count : Nat) : Option (Nat × Int) :=
  (neighbour? d.rank (leadingExponent d.units - count)).map fun whole =>
    (whole, leadingExponent d.units - count)

/-- The digits of a double that is not zero read back. -/
theorem ofDouble_eq {d : Double} (nonzero : d.rank ≠ 0) :
    ∃ whole power, readsBack d.rank whole power = true ∧
      ofDouble d = ⟨d.negative, stripZeros (wholeDigits whole),
        power + (wholeDigits whole).length - 1⟩ := by
  obtain ⟨⟨whole, power⟩, found⟩ : ∃ pair, (List.range 18).findSome? (trial? d) = some pair := by
    refine Option.ne_none_iff_exists'.mp fun missing => ?_
    obtain ⟨whole, read⟩ := exists_neighbour (Nat.pos_of_ne_zero nonzero)
    have last := List.findSome?_eq_none_iff.mp missing 17 (by decide)
    rw [trial?, Option.map_eq_none_iff, units, read] at last
    cases last
  obtain ⟨count, _, read⟩ := List.exists_of_findSome?_eq_some found
  obtain ⟨other, neighbour, same⟩ := Option.map_eq_some_iff.mp read
  refine ⟨whole, power, ?_, ?_⟩
  · obtain ⟨rfl, rfl⟩ := Prod.mk.inj same
    exact readsBack_of_neighbour? neighbour
  · rw [ofDouble, if_neg nonzero]
    unfold trial? at found
    simp only [found]

end Engagements.Decimal
