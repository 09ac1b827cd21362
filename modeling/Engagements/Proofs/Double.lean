import Engagements.Double
import Engagements.Width
import Mathlib.Order.Monotone.Basic
import Mathlib.Tactic.Linarith
import Mathlib.Tactic.Ring

/-!
The doubles nearest to integers. Rounding keeps the order of the integers, and an integer has a
double to itself just below 2^53 and, up to 2^54, where it is even but no multiple of four.
-/
namespace Engagements.Double

theorem binade_eq : binade = 2 ^ 52 := rfl

theorem unitsInOne_eq : unitsInOne = binade * 2 ^ 1022 := by decide +kernel

/-! Rounding a quotient. -/

theorem roundedQuotient_cases (numerator denominator : Nat) :
    roundedQuotient numerator denominator = numerator / denominator ∧
        2 * (numerator % denominator) ≤ denominator ∨
      roundedQuotient numerator denominator = numerator / denominator + 1 ∧
        denominator ≤ 2 * (numerator % denominator) := by
  simp only [roundedQuotient]
  split_ifs with below above
  · exact Or.inl ⟨rfl, by omega⟩
  · exact Or.inr ⟨rfl, by omega⟩
  · rcases Nat.mod_two_eq_zero_or_one (numerator / denominator) with even | odd
    · exact Or.inl ⟨by rw [even, Nat.add_zero], by omega⟩
    · exact Or.inr ⟨by rw [odd], by omega⟩

/-- The rounded quotient is at most half away from the quotient. -/
theorem roundedQuotient_near (numerator : Nat) {denominator : Nat} (positive : 0 < denominator) :
    2 * (roundedQuotient numerator denominator * denominator) ≤ 2 * numerator + denominator ∧
      2 * numerator ≤ 2 * (roundedQuotient numerator denominator * denominator) + denominator := by
  have divided := Nat.div_add_mod' numerator denominator
  have short := Nat.mod_lt numerator positive
  rcases roundedQuotient_cases numerator denominator with ⟨down, small⟩ | ⟨up, large⟩
  · rw [down]
    generalize numerator / denominator * denominator = whole at divided ⊢
    generalize numerator % denominator = rest at divided short small
    omega
  · rw [up, Nat.add_mul, Nat.one_mul]
    generalize numerator / denominator * denominator = whole at divided ⊢
    generalize numerator % denominator = rest at divided short large
    omega

theorem roundedQuotient_mono {numerator other : Nat} (ordered : numerator ≤ other)
    {denominator : Nat} (positive : 0 < denominator) :
    roundedQuotient numerator denominator ≤ roundedQuotient other denominator := by
  by_contra turned
  have apart : (roundedQuotient other denominator + 1) * denominator ≤
      roundedQuotient numerator denominator * denominator :=
    Nat.mul_le_mul_right _ (by omega)
  have first := (roundedQuotient_near numerator positive).1
  have second := (roundedQuotient_near other positive).2
  rw [Nat.add_mul, Nat.one_mul] at apart
  have same : numerator = other := by omega
  exact turned (same ▸ le_refl _)

theorem roundedQuotient_mul (whole : Nat) {denominator : Nat} (positive : 0 < denominator) :
    roundedQuotient (whole * denominator) denominator = whole := by
  simp [roundedQuotient, Nat.mul_div_cancel whole positive, positive]

theorem roundedQuotient_scaled (numerator denominator : Nat) {scale : Nat} (positive : 0 < scale) :
    roundedQuotient (numerator * scale) (denominator * scale) =
      roundedQuotient numerator denominator := by
  have below : 2 * (numerator % denominator * scale) < denominator * scale ↔
      2 * (numerator % denominator) < denominator := by
    rw [← Nat.mul_assoc, Nat.mul_lt_mul_right positive]
  have above : denominator * scale < 2 * (numerator % denominator * scale) ↔
      denominator < 2 * (numerator % denominator) := by
    rw [← Nat.mul_assoc, Nat.mul_lt_mul_right positive]
  simp only [roundedQuotient, Nat.mul_div_mul_right _ _ positive, Nat.mul_mod_mul_right, below,
    above]

/-! The ranks of natural numbers, one binade at a time. -/

/-- The rank of the magnitude nearest to a natural number. -/
def wholeRank (k : Nat) : Nat := nearestRank (k * unitsInOne) 1

theorem nearestRank_whole (k : Nat) : nearestRank (k * unitsInOne) 1 = wholeRank k := rfl

theorem wholeRank_zero : wholeRank 0 = 0 := by
  rw [wholeRank, Nat.zero_mul]
  decide

theorem log2_mul_two_pow {k e : Nat} (low : 2 ^ e ≤ k) (high : k < 2 ^ (e + 1)) (shift : Nat) :
    (k * 2 ^ shift).log2 = e + shift := by
  have scale : 0 < 2 ^ shift := Nat.two_pow_pos shift
  have positive : 0 < k := Nat.lt_of_lt_of_le (Nat.two_pow_pos e) low
  refine (Nat.log2_eq_iff (Nat.ne_of_gt (Nat.mul_pos positive scale))).mpr ⟨?_, ?_⟩
  · rw [Nat.pow_add]
    exact Nat.mul_le_mul_right _ low
  · rw [Nat.add_right_comm, Nat.pow_add]
    exact Nat.mul_lt_mul_of_pos_right high scale

/-- Ranks do not depend on the unit, as long as it is small enough. -/
theorem nearestRank_scaled {k e : Nat} (low : 2 ^ e ≤ k) (high : k < 2 ^ (e + 1)) (scale : Nat) :
    nearestRank (k * (binade * 2 ^ scale)) 1 =
      (e + scale) * binade + roundedQuotient (k * binade) (2 ^ e) := by
  have size : (k * (binade * 2 ^ scale)).log2 = e + (52 + scale) := by
    rw [binade_eq, ← Nat.pow_add, log2_mul_two_pow low high]
  have shift : e + (52 + scale) - 52 = e + scale := by omega
  simp only [nearestRank, Nat.div_one, size, shift]
  rw [Nat.one_mul, Nat.pow_eq, Nat.pow_add, ← Nat.mul_assoc,
    roundedQuotient_scaled _ _ (Nat.two_pow_pos scale)]

theorem ofQuotient?_of_small (negative : Bool) {k : Nat} (finite : wholeRank k < 2047 * binade) :
    ofQuotient? negative k 1 = some ⟨negative, wholeRank k, finite⟩ := by
  rw [ofQuotient?, ofUnits?]
  exact dif_pos finite

theorem ofQuotient?_of_large (negative : Bool) {k : Nat} (infinite : ¬wholeRank k < 2047 * binade) :
    ofQuotient? negative k 1 = none := by
  rw [ofQuotient?, ofUnits?]
  exact dif_neg infinite

-- Computing a rank takes numbers of more than three hundred digits, so no proof unfolds it.
attribute [irreducible] wholeRank

/-- The power of two at the end of a binade may be counted in the binade as well. -/
theorem wholeRank_eq {k e : Nat} (low : 2 ^ e ≤ k) (high : k ≤ 2 ^ (e + 1)) :
    wholeRank k = (e + 1022) * binade + roundedQuotient (k * binade) (2 ^ e) := by
  have starts : ∀ {j f : Nat}, 2 ^ f ≤ j → j < 2 ^ (f + 1) →
      wholeRank j = (f + 1022) * binade + roundedQuotient (j * binade) (2 ^ f) := by
    intro j f first last
    rw [← nearestRank_whole, unitsInOne_eq, nearestRank_scaled first last]
  rcases Nat.lt_or_eq_of_le high with inside | last
  · exact starts low inside
  · have next : roundedQuotient (2 ^ (e + 1) * binade) (2 ^ (e + 1)) = binade := by
      rw [Nat.mul_comm, roundedQuotient_mul _ (Nat.two_pow_pos _)]
    have here : roundedQuotient (2 ^ (e + 1) * binade) (2 ^ e) = 2 * binade := by
      rw [Nat.pow_succ, Nat.mul_assoc, Nat.mul_comm, roundedQuotient_mul _ (Nat.two_pow_pos _)]
    rw [last, starts (le_refl _) (Nat.pow_lt_pow_right (by decide) (by omega)), next,
      here]
    ring

/-- Every positive number stands in a binade together with its successor. -/
theorem exists_binade {k : Nat} (positive : 0 < k) : ∃ e, 2 ^ e ≤ k ∧ k + 1 ≤ 2 ^ (e + 1) :=
  ⟨k.log2, Nat.log2_self_le (Nat.ne_of_gt positive), Nat.lt_log2_self⟩

theorem wholeRank_mono : Monotone wholeRank := by
  refine monotone_nat_of_le_succ fun k => ?_
  rcases Nat.eq_zero_or_pos k with zero | positive
  · rw [zero, wholeRank_zero]
    exact Nat.zero_le _
  · obtain ⟨e, low, high⟩ := exists_binade positive
    have ordered : k * binade ≤ (k + 1) * binade := Nat.mul_le_mul_right _ (Nat.le_succ k)
    rw [wholeRank_eq low (by omega), wholeRank_eq (by omega) high]
    exact Nat.add_le_add_left (roundedQuotient_mono ordered (Nat.two_pow_pos e)) _

/-- Up to 2^53 the steps between doubles are at most one. -/
theorem wholeRank_lt_succ {k : Nat} (small : k < 2 ^ 53) : wholeRank k < wholeRank (k + 1) := by
  rcases Nat.eq_zero_or_pos k with zero | positive
  · rw [zero, wholeRank_zero, wholeRank_eq (e := 0) (by decide) (by decide)]
    exact Nat.add_pos_left (by decide) _
  · obtain ⟨e, low, high⟩ := exists_binade positive
    have short : e ≤ 52 := by
      have bound : 2 ^ e < 2 ^ 53 := Nat.lt_of_le_of_lt low small
      exact Nat.lt_succ_iff.mp ((Nat.pow_lt_pow_iff_right (by decide)).mp bound)
    have split : binade = 2 ^ (52 - e) * 2 ^ e := by
      rw [← Nat.pow_add, Nat.sub_add_cancel short, binade_eq]
    have divided : ∀ j, roundedQuotient (j * binade) (2 ^ e) = j * 2 ^ (52 - e) := by
      intro j
      rw [split, ← Nat.mul_assoc, roundedQuotient_mul _ (Nat.two_pow_pos e)]
    rw [wholeRank_eq low (by omega), wholeRank_eq (by omega) high, divided, divided]
    have less : k * 2 ^ (52 - e) < (k + 1) * 2 ^ (52 - e) :=
      Nat.mul_lt_mul_of_pos_right (Nat.lt_succ_self k) (Nat.two_pow_pos _)
    omega

/-- From 2^53 to 2^54 the steps between doubles are two, and a number halfway between them goes to
the multiple of four. -/
theorem wholeRank_of_quarter {quarter rest : Nat} (small : rest < 4)
    (low : 2 ^ 53 ≤ 4 * quarter + rest) (high : 4 * quarter + rest ≤ 2 ^ 54) :
    wholeRank (4 * quarter + rest) = 1075 * binade + (2 * quarter + (rest - 1)) := by
  have positive : 0 < binade := by decide
  have scaled : roundedQuotient ((4 * quarter + rest) * binade) (2 ^ 53) =
      roundedQuotient (4 * quarter + rest) 2 :=
    roundedQuotient_scaled (4 * quarter + rest) 2 positive
  rw [wholeRank_eq low high, scaled]
  simp only [roundedQuotient]
  split_ifs <;> omega

/-- From 2^54 on the steps are four or more, so that a number cannot stand apart from both its
neighbours. -/
theorem wholeRank_shared {k : Nat} (large : 2 ^ 54 ≤ k) :
    wholeRank (k + 1) = wholeRank k ∨ wholeRank (k - 1) = wholeRank k := by
  obtain ⟨e, low, high⟩ := exists_binade (by omega : 0 < k)
  have long : 54 ≤ e := by
    have bound : 2 ^ 54 < 2 ^ (e + 1) := by omega
    exact Nat.lt_succ_iff.mp ((Nat.pow_lt_pow_iff_right (by decide)).mp bound)
  obtain ⟨step, wide, split⟩ : ∃ step, 4 ≤ step ∧ 2 ^ e = step * binade := by
    refine ⟨2 ^ (e - 52), ?_, ?_⟩
    · calc 4 = 2 ^ 2 := rfl
        _ ≤ 2 ^ (e - 52) := Nat.pow_le_pow_right (by decide) (by omega)
    · rw [binade_eq, ← Nat.pow_add, Nat.sub_add_cancel (by omega)]
  have ranked : ∀ j, 2 ^ e ≤ j → j ≤ 2 ^ (e + 1) →
      wholeRank j = (e + 1022) * binade + roundedQuotient j step := by
    intro j first last
    rw [wholeRank_eq first last, split, roundedQuotient_scaled j step (by decide)]
  by_contra apart
  rw [not_or] at apart
  have above : wholeRank k + 1 ≤ wholeRank (k + 1) :=
    Nat.lt_of_le_of_ne (wholeRank_mono (Nat.le_succ k)) (Ne.symm apart.1)
  have below : wholeRank (k - 1) + 1 ≤ wholeRank k :=
    Nat.lt_of_le_of_ne (wholeRank_mono (Nat.sub_le k 1)) apart.2
  have positive : 0 < step := by omega
  have near := roundedQuotient_near (k + 1) positive
  rcases Nat.lt_or_eq_of_le low with inside | first
  · have near' := roundedQuotient_near (k - 1) positive
    rw [ranked k low (by omega), ranked (k + 1) (by omega) high] at above
    rw [ranked k low (by omega), ranked (k - 1) (by omega) (by omega)] at below
    have spread : (roundedQuotient (k - 1) step + 2) * step ≤ roundedQuotient (k + 1) step * step :=
      Nat.mul_le_mul_right _ (by omega)
    rw [Nat.add_mul] at spread
    omega
  · have whole : roundedQuotient k step = binade := by
      rw [← first, split, Nat.mul_comm, roundedQuotient_mul _ positive]
    rw [ranked k low (by omega), ranked (k + 1) (by omega) high, whole] at above
    have spread : (binade + 1) * step ≤ roundedQuotient (k + 1) step * step :=
      Nat.mul_le_mul_right _ (by omega)
    rw [Nat.add_mul, Nat.mul_comm, ← split, first] at spread
    omega

/-! Natural numbers with a double to themselves. -/

/-- No other natural number has the same nearest double. -/
def Alone (k : Nat) : Prop := k < 2 ^ 53 ∨ k < 2 ^ 54 ∧ k % 4 = 2

instance (k : Nat) : Decidable (Alone k) := inferInstanceAs (Decidable (_ ∨ _))

theorem wholeRank_neighbours {k : Nat} (alone : Alone k) :
    (0 < k → wholeRank (k - 1) < wholeRank k) ∧ wholeRank k < wholeRank (k + 1) := by
  by_cases low : k ≤ 2 ^ 53
  · have small : k < 2 ^ 53 := by
      unfold Alone at alone
      omega
    refine ⟨fun positive => ?_, wholeRank_lt_succ small⟩
    have step := wholeRank_lt_succ (by omega : k - 1 < 2 ^ 53)
    rwa [Nat.sub_add_cancel positive] at step
  · obtain ⟨high, middle⟩ : k < 2 ^ 54 ∧ k % 4 = 2 := alone.resolve_left (by omega)
    obtain ⟨quarter, split⟩ : ∃ quarter, k = 4 * quarter + 2 := ⟨k / 4, by omega⟩
    subst split
    have ranked : ∀ rest < 4, wholeRank (4 * quarter + rest) =
        1075 * binade + (2 * quarter + (rest - 1)) :=
      fun rest inside => wholeRank_of_quarter inside (by omega) (by omega)
    have before : 4 * quarter + 2 - 1 = 4 * quarter + 1 := by omega
    rw [before, ranked 1 (by decide), ranked 2 (by decide), ranked 3 (by decide)]
    omega

theorem eq_of_wholeRank {k other : Nat} (alone : Alone k) (same : wholeRank other = wholeRank k) :
    other = k := by
  obtain ⟨below, above⟩ := wholeRank_neighbours alone
  rcases Nat.lt_trichotomy other k with less | equal | greater
  · have step := below (by omega)
    have ordered := wholeRank_mono (by omega : other ≤ k - 1)
    omega
  · exact equal
  · have ordered := wholeRank_mono (by omega : k + 1 ≤ other)
    omega

theorem exists_wholeRank {k : Nat} (shared : ¬Alone k) :
    wholeRank (k + 1) = wholeRank k ∨ wholeRank (k - 1) = wholeRank k := by
  unfold Alone at shared
  by_cases large : 2 ^ 54 ≤ k
  · exact wholeRank_shared large
  · obtain ⟨quarter, rest, split, small⟩ : ∃ quarter rest, k = 4 * quarter + rest ∧ rest < 4 :=
      ⟨k / 4, k % 4, by omega, by omega⟩
    subst split
    have ranked : ∀ other < 4, wholeRank (4 * quarter + other) =
        1075 * binade + (2 * quarter + (other - 1)) :=
      fun other inside => wholeRank_of_quarter inside (by omega) (by omega)
    have next : wholeRank (4 * (quarter + 1) + 0) =
        1075 * binade + (2 * (quarter + 1) + (0 - 1)) :=
      wholeRank_of_quarter (by decide) (by omega) (by omega)
    have odd : rest = 0 ∨ rest = 1 ∨ rest = 3 := by omega
    rcases odd with zero | one | three
    · subst zero
      exact Or.inl ((ranked 1 (by decide)).trans (ranked 0 (by decide)).symm)
    · subst one
      exact Or.inr ((ranked 0 (by decide)).trans (ranked 1 (by decide)).symm)
    · subst three
      exact Or.inl (next.trans (ranked 3 (by decide)).symm)

/-! Ranks and the magnitudes that they stand for. -/

theorem unitsOfRank_low {rank : Nat} (small : rank ≤ binade) : unitsOfRank rank = rank := by
  rcases Nat.lt_or_eq_of_le small with inside | last
  · exact if_pos inside
  · rw [last]
    decide

/-- The first rank of the next binade may be counted in the binade as well. -/
theorem unitsOfRank_high (exponent : Nat) {rest : Nat} (small : rest ≤ binade) :
    unitsOfRank ((exponent + 1) * binade + rest) = (binade + rest) * 2 ^ exponent := by
  have starts : ∀ above {inside}, inside < binade →
      unitsOfRank ((above + 1) * binade + inside) = (binade + inside) * 2 ^ above := by
    intro above inside short
    have positive : 0 < binade := by decide
    have large : ¬(above + 1) * binade + inside < binade := by
      rw [Nat.add_mul, Nat.one_mul]
      omega
    have quotient : ((above + 1) * binade + inside) / binade = above + 1 := by
      rw [Nat.add_comm, Nat.add_mul_div_right _ _ positive, Nat.div_eq_of_lt short, Nat.zero_add]
    rw [unitsOfRank, if_neg large, quotient, Nat.mul_add_mod_of_lt short, Nat.add_sub_cancel,
      Nat.pow_eq]
  rcases Nat.lt_or_eq_of_le small with inside | last
  · exact starts exponent inside
  · have next : (exponent + 1) * binade + binade = (exponent + 1 + 1) * binade + 0 := by ring
    rw [last, next, starts (exponent + 1) (by decide)]
    ring

/-- The step from a rank to the next one, in units. -/
def step (rank : Nat) : Nat := 2 ^ (rank / binade - 1)

theorem step_pos (rank : Nat) : 0 < step rank := Nat.two_pow_pos _

theorem step_low {rank : Nat} (small : rank < 2 * binade) : step rank = 1 := by
  have quotient : rank / binade < 2 := Nat.div_lt_of_lt_mul (by rwa [Nat.mul_comm])
  have exponent : rank / binade - 1 = 0 := by omega
  rw [step, exponent, Nat.pow_zero]

theorem step_high (exponent : Nat) {rest : Nat} (small : rest < binade) :
    step ((exponent + 1) * binade + rest) = 2 ^ exponent := by
  have positive : 0 < binade := by decide
  have quotient : ((exponent + 1) * binade + rest) / binade = exponent + 1 := by
    rw [Nat.add_comm, Nat.add_mul_div_right _ _ positive, Nat.div_eq_of_lt small, Nat.zero_add]
  rw [step, quotient, Nat.add_sub_cancel]

theorem exists_exponent {rank : Nat} (large : binade ≤ rank) :
    ∃ exponent rest, rank = (exponent + 1) * binade + rest ∧ rest < binade := by
  have positive : 0 < binade := by decide
  have quotient : 1 ≤ rank / binade := (Nat.le_div_iff_mul_le positive).mpr (by omega)
  refine ⟨rank / binade - 1, rank % binade, ?_, Nat.mod_lt rank positive⟩
  rw [Nat.sub_add_cancel quotient, Nat.div_add_mod']

theorem unitsOfRank_succ (rank : Nat) :
    unitsOfRank (rank + 1) = unitsOfRank rank + step rank := by
  by_cases small : rank < binade
  · rw [unitsOfRank_low small, unitsOfRank_low (Nat.le_of_lt small), step_low (by omega)]
  · obtain ⟨exponent, rest, rfl, short⟩ := exists_exponent (Nat.not_lt.mp small)
    rw [Nat.add_assoc, unitsOfRank_high exponent (by omega : rest + 1 ≤ binade),
      unitsOfRank_high exponent (Nat.le_of_lt short), step_high exponent short]
    ring

theorem unitsOfRank_strictMono : StrictMono unitsOfRank :=
  strictMono_nat_of_lt_succ fun rank => by
    rw [unitsOfRank_succ]
    exact Nat.lt_add_of_pos_right (step_pos rank)

/-- A number that is a multiple of the step of its binade is a double itself. -/
theorem unitsOfRank_wholeRank {k e steps : Nat} (low : 2 ^ e ≤ k) (high : k ≤ 2 ^ (e + 1))
    (divided : k * binade = steps * 2 ^ e) : unitsOfRank (wholeRank k) = k * unitsInOne := by
  have positive : 0 < 2 ^ e := Nat.two_pow_pos e
  have first : binade ≤ steps := by
    refine Nat.le_of_mul_le_mul_right ?_ positive
    rw [← divided, Nat.mul_comm]
    exact Nat.mul_le_mul_right binade low
  have last : steps ≤ 2 * binade := by
    refine Nat.le_of_mul_le_mul_right ?_ positive
    calc steps * 2 ^ e = k * binade := divided.symm
      _ ≤ 2 ^ (e + 1) * binade := Nat.mul_le_mul_right binade high
      _ = 2 * binade * 2 ^ e := by ring
  have ranked := wholeRank_eq low high
  have units := unitsInOne_eq
  -- The exponent is too large for powers of it to be computed on the way.
  generalize 1022 = scale at ranked units
  rw [divided, roundedQuotient_mul _ positive] at ranked
  have rank : wholeRank k = (e + scale + 1) * binade + (steps - binade) := by
    rw [ranked, Nat.add_mul (e + scale), Nat.one_mul, Nat.add_assoc, Nat.add_sub_cancel' first]
  calc unitsOfRank (wholeRank k)
    _ = (binade + (steps - binade)) * 2 ^ (e + scale) := by
        rw [rank, unitsOfRank_high (e + scale) (by omega)]
    _ = steps * 2 ^ e * 2 ^ scale := by
        rw [Nat.add_sub_cancel' first, Nat.pow_add, Nat.mul_assoc]
    _ = k * unitsInOne := by
        rw [← divided, units, Nat.mul_assoc]

theorem unitsOfRank_of_alone {k : Nat} (alone : Alone k) :
    unitsOfRank (wholeRank k) = k * unitsInOne := by
  rcases Nat.eq_zero_or_pos k with zero | positive
  · rw [zero, wholeRank_zero, Nat.zero_mul]
    exact unitsOfRank_low (Nat.zero_le binade)
  obtain ⟨e, low, high⟩ := exists_binade positive
  by_cases short : e ≤ 52
  · have divided : k * binade = k * 2 ^ (52 - e) * 2 ^ e := by
      rw [Nat.mul_assoc, ← Nat.pow_add, Nat.sub_add_cancel short, binade_eq]
    exact unitsOfRank_wholeRank low (by omega) divided
  · have large : 2 ^ 53 ≤ k := by
      calc 2 ^ 53 ≤ 2 ^ e := Nat.pow_le_pow_right (by decide) (by omega)
        _ ≤ k := low
    obtain ⟨bound, middle⟩ : k < 2 ^ 54 ∧ k % 4 = 2 := alone.resolve_left (by omega)
    have divided : k * binade = k / 2 * 2 ^ 53 := by
      rw [binade_eq]
      omega
    exact unitsOfRank_wholeRank large (by omega) divided

/-! Doubles of integers. -/

/-- The rank of an integer's double; integers past the largest double share its rank. -/
def cappedRank (k : Nat) : Nat := min (wholeRank k) (2047 * binade - 1)

theorem cappedRank_zero : cappedRank 0 = 0 := by
  rw [cappedRank, wholeRank_zero, Nat.zero_min]

theorem cappedRank_mono : Monotone cappedRank :=
  fun _ _ ordered => min_le_min_right _ (wholeRank_mono ordered)

theorem cappedRank_of_alone {k : Nat} (alone : Alone k) :
    cappedRank k = wholeRank k ∧ wholeRank k < 2047 * binade - 1 := by
  have bound : k ≤ 2 ^ 54 := by
    unfold Alone at alone
    omega
  have last : wholeRank (4 * 2 ^ 52 + 0) = 1075 * binade + (2 * 2 ^ 52 + (0 - 1)) :=
    wholeRank_of_quarter (by decide) (by decide) (by decide)
  have ordered : wholeRank k ≤ 1075 * binade + (2 * 2 ^ 52 + (0 - 1)) :=
    last ▸ wholeRank_mono (by omega)
  have small : wholeRank k < 2047 * binade - 1 := Nat.lt_of_le_of_lt ordered (by decide)
  exact ⟨Nat.min_eq_left (Nat.le_of_lt small), small⟩

theorem eq_of_cappedRank {k other : Nat} (alone : Alone k)
    (same : cappedRank other = cappedRank k) : other = k := by
  obtain ⟨uncapped, small⟩ := cappedRank_of_alone alone
  rw [uncapped, cappedRank] at same
  exact eq_of_wholeRank alone (by omega)

/-- The double of an integer, by sign and rank. -/
theorem ofInt_parts (n : Int) :
    (ofInt n).negative = decide (n < 0) ∧ (ofInt n).rank = cappedRank n.natAbs := by
  by_cases finite : wholeRank n.natAbs < 2047 * binade
  · have small : cappedRank n.natAbs = wholeRank n.natAbs := Nat.min_eq_left (by omega)
    rw [ofInt, ofQuotient?_of_small _ finite, small]
    exact ⟨rfl, rfl⟩
  · have last : cappedRank n.natAbs = 2047 * binade - 1 := Nat.min_eq_right (by omega)
    rw [ofInt, ofQuotient?_of_large _ finite, last, Option.getD_none]
    by_cases negative : n < 0
    · rw [if_pos negative, decide_eq_true negative]
      exact ⟨rfl, rfl⟩
    · rw [if_neg negative, decide_eq_false negative]
      exact ⟨rfl, rfl⟩

theorem key_ofInt (n : Int) :
    (ofInt n).key = if n < 0 then -(cappedRank n.natAbs : Int) else cappedRank n.natAbs := by
  obtain ⟨sign, rank⟩ := ofInt_parts n
  simp only [key, sign, rank, decide_eq_true_eq]

theorem natAbs_key_ofInt (n : Int) : (ofInt n).key.natAbs = cappedRank n.natAbs := by
  rw [key_ofInt]
  split <;> omega

theorem key_ofInt_mono {m n : Int} (ordered : m ≤ n) : (ofInt m).key ≤ (ofInt n).key := by
  rw [key_ofInt, key_ofInt]
  by_cases negative : n < 0
  · have below : m < 0 := by omega
    have ranks : cappedRank n.natAbs ≤ cappedRank m.natAbs := cappedRank_mono (by omega)
    rw [if_pos below, if_pos negative]
    omega
  · rw [if_neg negative]
    by_cases below : m < 0
    · rw [if_pos below]
      omega
    · have ranks : cappedRank m.natAbs ≤ cappedRank n.natAbs := cappedRank_mono (by omega)
      rw [if_neg below]
      omega

theorem eq_of_key_ofInt {m n : Int} (alone : Alone n.natAbs)
    (same : (ofInt m).key = (ofInt n).key) : m = n := by
  have size : m.natAbs = n.natAbs := by
    refine eq_of_cappedRank alone ?_
    rw [← natAbs_key_ofInt m, ← natAbs_key_ofInt n, same]
  by_contra different
  have turned : m = -n := by omega
  have ranks : cappedRank n.natAbs = cappedRank 0 := by
    rw [key_ofInt, key_ofInt, size] at same
    rw [cappedRank_zero]
    split at same <;> split at same <;> omega
  have zero : n.natAbs = 0 := eq_of_cappedRank (by decide) ranks
  omega

theorem key_ofInt_congr {m n : Int} (sign : m < 0 ↔ n < 0)
    (ranks : wholeRank m.natAbs = wholeRank n.natAbs) : (ofInt m).key = (ofInt n).key := by
  simp only [key_ofInt, cappedRank, ranks, sign]

theorem isSigned_iff (n : Int) : Width.isSigned 64 n = true ↔ -2 ^ 63 ≤ n ∧ n < 2 ^ 63 := by
  rw [Width.isSigned, Bool.and_eq_true, decide_eq_true_eq, decide_eq_true_eq]
  exact Iff.rfl

theorem isUnsigned_iff (n : Int) : Width.isUnsigned 64 n = true ↔ 0 ≤ n ∧ n < 2 ^ 64 := by
  rw [Width.isUnsigned, Bool.and_eq_true, decide_eq_true_eq, decide_eq_true_eq]
  exact Iff.rfl

/-- An integer of 64 bits that does not have a double to itself shares it with a neighbour. -/
theorem exists_key_ofInt {n : Int} (fits : Width.isSigned 64 n = true) (shared : ¬Alone n.natAbs) :
    ∃ m, m ≠ n ∧ (Width.isSigned 64 m = true ∨ Width.isUnsigned 64 m = true) ∧
      (ofInt m).key = (ofInt n).key := by
  obtain ⟨low, high⟩ := (isSigned_iff n).mp fits
  have large : 2 ^ 53 ≤ n.natAbs := by
    unfold Alone at shared
    omega
  rcases exists_wholeRank shared with above | below
  · by_cases positive : 0 ≤ n
    · refine ⟨n + 1, by omega, Or.inr ((isUnsigned_iff _).mpr (by omega)), ?_⟩
      refine key_ofInt_congr (by omega) ?_
      rw [(by omega : (n + 1).natAbs = n.natAbs + 1), above]
    by_cases least : n = -2 ^ 63
    · -- The neighbour on the other side does not have 64 bits.
      refine ⟨n + 1, by omega, Or.inl ((isSigned_iff _).mpr (by omega)), ?_⟩
      refine key_ofInt_congr (by omega) ?_
      subst least
      decide +kernel
    · refine ⟨n - 1, by omega, Or.inl ((isSigned_iff _).mpr (by omega)), ?_⟩
      refine key_ofInt_congr (by omega) ?_
      rw [(by omega : (n - 1).natAbs = n.natAbs + 1), above]
  · by_cases positive : 0 ≤ n
    · refine ⟨n - 1, by omega, Or.inl ((isSigned_iff _).mpr (by omega)), ?_⟩
      refine key_ofInt_congr (by omega) ?_
      rw [(by omega : (n - 1).natAbs = n.natAbs - 1), below]
    · refine ⟨n + 1, by omega, Or.inl ((isSigned_iff _).mpr (by omega)), ?_⟩
      refine key_ofInt_congr (by omega) ?_
      rw [(by omega : (n + 1).natAbs = n.natAbs - 1), below]

theorem key_eq_iff (a b : Double) : a.key = b.key ↔ a.signedUnits = b.signedUnits := by
  have ranks : a.rank = b.rank ↔ a.units = b.units := unitsOfRank_strictMono.injective.eq_iff.symm
  have zero : ∀ d : Double, d.rank = 0 ↔ d.units = 0 :=
    fun d => (unitsOfRank_strictMono.injective.eq_iff (b := 0)).symm
  have left := zero a
  have right := zero b
  unfold key signedUnits
  split_ifs <;> omega

theorem signedUnits_ofInt {n : Int} (alone : Alone n.natAbs) :
    (ofInt n).signedUnits = n * unitsInOne := by
  obtain ⟨sign, rank⟩ := ofInt_parts n
  have magnitude : (ofInt n).units = n.natAbs * unitsInOne := by
    rw [units, rank, (cappedRank_of_alone alone).1, unitsOfRank_of_alone alone]
  rw [signedUnits, sign, magnitude, Nat.cast_mul]
  by_cases negative : n < 0
  · have size : (n.natAbs : Int) = -n := by omega
    rw [decide_eq_true negative, if_pos rfl, size, Int.neg_mul, Int.neg_neg]
  · have size : (n.natAbs : Int) = n := by omega
    rw [decide_eq_false negative, size]
    rfl

/-- The doubles with the key of an integer that has a double to itself are that integer. -/
theorem key_eq_ofInt_iff {n : Int} (alone : Alone n.natAbs) (d : Double) :
    d.key = (ofInt n).key ↔ d.signedUnits = n * unitsInOne := by
  rw [key_eq_iff, signedUnits_ofInt alone]

end Engagements.Double
