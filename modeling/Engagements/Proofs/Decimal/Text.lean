import Engagements.Proofs.Decimal
import Engagements.Proofs.Text
import Mathlib.Data.List.DropRight

/-!
Decimal text. A text tells the sign and the magnitude of the decimal it was written for, and as the
decimal of a double rounds to that double alone, no two doubles have one text.
-/
namespace Engagements.Decimal

/-! The magnitude of a decimal. -/

/-- The number that digits stand for. -/
def natural (digits : List Char) : Nat := Nat.ofDigitChars 10 digits 0

def magnitude (d : Decimal) : ℚ := natural d.digits * 10 ^ (d.exponent + 1 - d.digits.length)

theorem natural_append (front back : List Char) :
    natural (front ++ back) = natural front * 10 ^ back.length + natural back := by
  rw [natural, natural, natural, Nat.ofDigitChars_append, Nat.ofDigitChars_eq_ofDigitChars_zero,
    Nat.mul_comm]

theorem natural_nil : natural [] = 0 := rfl

theorem natural_zero : natural ['0'] = 0 := rfl

theorem natural_zeros (count : Nat) : natural (List.replicate count '0') = 0 := by
  rw [natural, Nat.ofDigitChars_replicate_zero, Nat.mul_zero]

/-- Zeros in front do not count. -/
theorem natural_zeros_append (count : Nat) (digits : List Char) :
    natural (List.replicate count '0' ++ digits) = natural digits := by
  rw [natural_append, natural_zeros, Nat.zero_mul, Nat.zero_add]

/-- Zeros at the end are a power of ten. -/
theorem natural_append_zeros (digits : List Char) (count : Nat) (exponent : Int) :
    (natural (digits ++ List.replicate count '0') : ℚ) * 10 ^ exponent =
      natural digits * 10 ^ (exponent + count) := by
  rw [natural_append, natural_zeros, List.length_replicate, Nat.add_zero, zpow_add₀ (by norm_num),
    zpow_natCast]
  push_cast
  ring

theorem natural_wholeDigits (n : Nat) : natural (wholeDigits n) = n :=
  Nat.ofDigitChars_toDigits (by decide) (by decide)

/-- The digits of a decimal without the zeros at their end. -/
def kept (digits : List Char) : List Char := digits.rdropWhile (· == '0')

theorem exists_zeros (digits : List Char) :
    ∃ count, digits = kept digits ++ List.replicate count '0' := by
  have zeros : digits.rtakeWhile (· == '0') =
      List.replicate (digits.rtakeWhile (· == '0')).length '0' :=
    List.eq_replicate_iff.mpr ⟨rfl, fun c member =>
      beq_iff_eq.mp (List.mem_rtakeWhile_imp (p := (· == '0')) member)⟩
  refine ⟨(digits.rtakeWhile (· == '0')).length, ?_⟩
  rw [← zeros]
  exact (List.rdropWhile_append_rtakeWhile ..).symm

theorem stripZeros_eq (digits : List Char) :
    stripZeros digits = if kept digits = [] then ['0'] else kept digits := by
  unfold stripZeros kept List.rdropWhile
  cases (digits.reverse.dropWhile (· == '0')).reverse with
  | nil => rfl
  | cons first rest => exact (if_neg (List.cons_ne_nil first rest)).symm

/-- Zeros at the end do not count, as the exponent is that of the first digit. -/
theorem natural_stripZeros (digits : List Char) (exponent : Int) :
    (natural (stripZeros digits) : ℚ) * 10 ^ (exponent - (stripZeros digits).length) =
      natural digits * 10 ^ (exponent - digits.length) := by
  obtain ⟨count, split⟩ := exists_zeros digits
  have scale : exponent - digits.length + count = exponent - (kept digits).length := by
    rw [split, List.length_append, List.length_replicate, ← split]
    omega
  rw [stripZeros_eq, split, natural_append_zeros, ← split, scale]
  split_ifs with none
  · rw [none, natural_zero, natural_nil, Nat.cast_zero, zero_mul, zero_mul]
  · rfl

/-- The decimal of a double rounds to it. -/
theorem rounds_ofDouble (d : Double) :
    Rounds d.rank (magnitude (ofDouble d) * (4 * Double.unitsInOne)) := by
  by_cases zero : d.rank = 0
  · have nothing : magnitude (ofDouble d) = 0 := by
      rw [ofDouble, if_pos zero, magnitude, natural_zero, Nat.cast_zero, zero_mul]
    have lowest : (low 0 : ℚ) = 0 := by exact_mod_cast (by decide +kernel : low 0 = 0)
    rw [nothing, zero_mul, zero, Rounds, if_pos rfl, lowest]
    exact ⟨le_rfl, Nat.cast_nonneg _⟩
  · obtain ⟨whole, power, read, made⟩ := ofDouble_eq zero
    have value : magnitude (ofDouble d) = whole * 10 ^ power := by
      have exponents : power + (wholeDigits whole).length - 1 + 1 =
          power + (wholeDigits whole).length := by omega
      have scale : power + ((wholeDigits whole).length : Int) - (wholeDigits whole).length =
          power := by omega
      rw [made, magnitude, exponents, natural_stripZeros, scale, natural_wholeDigits]
    rw [value]
    exact (readsBack_iff _ _ _).mp read

/-! The number that a text stands for. -/

/-- The power of ten in the rest of a text from its e on. -/
def power : List Char → Int
  | _ :: sign :: digits => if sign = '-' then -(natural digits : Int) else natural digits
  | _ => 0

/-- The number that the text of a decimal without its sign stands for. -/
def worth (text : List Char) : ℚ :=
  let mantissa := text.takeWhile (· != 'e')
  let fraction := (mantissa.dropWhile (· != '.')).drop 1
  natural (mantissa.takeWhile (· != '.') ++ fraction) *
    10 ^ (power (text.dropWhile (· != 'e')) - fraction.length)

theorem ne_of_isDigit {c : Char} (digit : c.isDigit = true) {other : Char}
    (letter : other.isDigit = false) : (c != other) = true := by
  rw [bne_iff_ne]
  rintro rfl
  rw [digit] at letter
  cases letter

/-- The parts of a text: digits, a point with digits behind it, and an e with a power; one of the
last two at least. -/
structure Parts (text whole part rest : List Char) : Prop where
  split : text = whole ++ part ++ rest
  some : whole ≠ []
  before : ∀ c ∈ whole, c.isDigit = true
  point : part.head?.all (· == '.') = true
  behind : ∀ c ∈ part.drop 1, c.isDigit = true
  mark : rest.head?.all (· == 'e') = true
  scale : ∀ c ∈ rest.drop 1, c.isDigit = true ∨ c = '+' ∨ c = '-'
  marked : part ≠ [] ∨ rest ≠ []

namespace Parts

variable {text whole part rest : List Char}

theorem mem_part (parts : Parts text whole part rest) {c : Char} (member : c ∈ part) :
    c = '.' ∨ c.isDigit = true := by
  cases part with
  | nil => cases member
  | cons d part =>
      obtain rfl : d = '.' := by simpa using parts.point
      exact (List.mem_cons.mp member).imp_right (parts.behind c)

theorem mem_rest (parts : Parts text whole part rest) {c : Char} (member : c ∈ rest) :
    c = 'e' ∨ c.isDigit = true ∨ c = '+' ∨ c = '-' := by
  cases rest with
  | nil => cases member
  | cons d rest =>
      obtain rfl : d = 'e' := by simpa using parts.mark
      exact (List.mem_cons.mp member).imp_right (parts.scale c)

/-- The characters of a number that is not whole. -/
theorem mem (parts : Parts text whole part rest) {c : Char} (member : c ∈ text) :
    c.isDigit = true ∨ c ∈ ['.', 'e', '+', '-'] := by
  rw [parts.split, List.mem_append, List.mem_append] at member
  rcases member with (front | point) | back
  · exact .inl (parts.before c front)
  · rcases parts.mem_part point with rfl | digit
    · exact .inr (by decide)
    · exact .inl digit
  · rcases parts.mem_rest back with rfl | digit | rfl | rfl
    · exact .inr (by decide)
    · exact .inl digit
    · exact .inr (by decide)
    · exact .inr (by decide)

/-- A text is taken apart at its point and at its e. -/
theorem worth_eq (parts : Parts text whole part rest) :
    worth text =
      natural (whole ++ part.drop 1) * 10 ^ (power rest - (part.drop 1).length) := by
  have stop : ∀ {c : Char} {list : List Char}, list.head?.all (· == c) = true →
      list.takeWhile (· != c) = [] ∧ list.dropWhile (· != c) = list := by
    intro c list first
    cases list with
    | nil => exact ⟨rfl, rfl⟩
    | cons d list =>
        obtain rfl : d = c := by simpa using first
        simp
  have plain : ∀ c ∈ whole ++ part, (c != 'e') = true := by
    intro c member
    rcases List.mem_append.mp member with front | point
    · exact ne_of_isDigit (parts.before c front) rfl
    · rcases parts.mem_part point with rfl | digit
      · rfl
      · exact ne_of_isDigit digit rfl
  have digits : ∀ c ∈ whole, (c != '.') = true := fun c member =>
    ne_of_isDigit (parts.before c member) rfl
  rw [parts.split, worth, List.takeWhile_append_of_pos plain, List.dropWhile_append_of_pos plain,
    (stop parts.mark).1, (stop parts.mark).2, List.append_nil, List.takeWhile_append_of_pos digits,
    List.dropWhile_append_of_pos digits, (stop parts.point).1, (stop parts.point).2,
    List.append_nil]

/-- The text of a decimal begins with a digit, and has a point or an e. -/
theorem marks (parts : Parts text whole part rest) :
    (∃ first others, text = first :: others ∧ first.isDigit = true) ∧
      ('.' ∈ text ∨ 'e' ∈ text) := by
  constructor
  · obtain ⟨first, others, split⟩ := List.exists_cons_of_ne_nil parts.some
    refine ⟨first, others ++ part ++ rest, ?_, parts.before first (split ▸ List.mem_cons_self)⟩
    rw [parts.split, split]
    rfl
  · rw [parts.split]
    rcases parts.marked with some | some
    · obtain ⟨first, others, split⟩ := List.exists_cons_of_ne_nil some
      have point := parts.point
      rw [split] at point ⊢
      obtain rfl : first = '.' := by simpa using point
      exact .inl (by simp)
    · obtain ⟨first, others, split⟩ := List.exists_cons_of_ne_nil some
      have mark := parts.mark
      rw [split] at mark ⊢
      obtain rfl : first = 'e' := by simpa using mark
      exact .inr (by simp)

end Parts

/-! The layout of a decimal. -/

/-- The digits behind the point; there is always one. -/
def shown (d : Decimal) : List Char :=
  if d.positional.2 = [] then ['0'] else d.positional.2

/-- The digits behind the first one, with their point. -/
def fraction (d : Decimal) : List Char :=
  if d.digits.length = 1 then [] else '.' :: d.digits.drop 1

/-- The exponent, with its mark and its sign. -/
def scaling (d : Decimal) : List Char :=
  'e' :: (if d.exponent < 0 then '-' else '+') :: wholeDigits d.exponent.natAbs

/-- The text of a decimal without its sign. -/
def unsigned (d : Decimal) : List Char :=
  if -5 ≤ d.exponent && d.exponent ≤ 15 then d.positional.1 ++ '.' :: d.shown
  else d.digits.take 1 ++ d.fraction ++ d.scaling

theorem toList_toJsonText (d : Decimal) : d.toJsonText.toList = d.sign ++ d.unsigned := by
  rw [toJsonText, unsigned, shown, fraction, scaling]
  split
  · simp
  · split_ifs <;> simp

/-- A decimal has digits, and nothing else in their place. -/
structure Written (d : Decimal) : Prop where
  some : d.digits ≠ []
  each : ∀ c ∈ d.digits, c.isDigit = true

theorem written_ofDouble (d : Double) : (ofDouble d).Written := by
  by_cases zero : d.rank = 0
  · rw [ofDouble, if_pos zero]
    refine ⟨List.cons_ne_nil _ _, fun c member => ?_⟩
    rw [List.mem_singleton.mp member]
    rfl
  · obtain ⟨whole, power, read, made⟩ := ofDouble_eq zero
    rw [made]
    refine ⟨?_, fun c member => ?_⟩
    · change stripZeros _ ≠ []
      rw [stripZeros_eq]
      split
      · exact List.cons_ne_nil _ _
      · assumption
    · change c ∈ stripZeros _ at member
      rw [stripZeros_eq] at member
      split at member
      · rw [List.mem_singleton.mp member]
        rfl
      · exact isDigit_of_mem_toDigits ((List.rdropWhile_prefix _ _).subset member)

/-- A decimal below one has zeros in front, one that is whole has zeros at its end, and any other
has the point between its digits. -/
theorem positional_cases {d : Decimal} (written : d.Written) :
    (∃ zeros : Nat, d.exponent = -(zeros + 1) ∧ d.positional.1 = ['0'] ∧
      d.shown = List.replicate zeros '0' ++ d.digits) ∨
    (∃ zeros : Nat, d.exponent + 1 = d.digits.length + zeros ∧
      d.positional.1 = d.digits ++ List.replicate zeros '0' ∧ d.shown = ['0']) ∨
    ∃ places : Nat, d.exponent + 1 = places ∧ 0 < places ∧ places < d.digits.length ∧
      d.positional.1 = d.digits.take places ∧ d.shown = d.digits.drop places := by
  rw [shown, positional]
  by_cases below : d.exponent < 0
  · rw [if_pos below]
    refine .inl ⟨(-d.exponent - 1).toNat, by omega, rfl, if_neg fun none => ?_⟩
    exact written.some (List.append_eq_nil_iff.mp none).2
  · rw [if_neg below]
    rcases Nat.lt_or_ge (d.exponent.toNat + 1) d.digits.length with inside | beyond
    · refine .inr (.inr ⟨d.exponent.toNat + 1, by omega, by omega, inside, ?_, ?_⟩)
      · change d.digits.take _ ++ List.replicate (_ - d.digits.length) '0' = _
        rw [Nat.sub_eq_zero_of_le inside.le]
        exact List.append_nil _
      · exact if_neg fun none => Nat.not_le.mpr inside (List.drop_eq_nil_iff.mp none)
    · refine .inr (.inl ⟨d.exponent.toNat + 1 - d.digits.length, by omega, ?_, ?_⟩)
      · change d.digits.take _ ++ _ = _
        rw [List.take_of_length_le beyond]
      · exact if_pos (List.drop_eq_nil_of_le beyond)

theorem isDigit_zeros {count : Nat} {c : Char} (member : c ∈ List.replicate count '0') :
    c.isDigit = true := by
  rw [(List.mem_replicate.mp member).2]
  rfl

/-- Written with a point, a decimal has digits on both sides that stand for its magnitude. -/
theorem positional_written {d : Decimal} (written : d.Written) :
    d.positional.1 ≠ [] ∧ (∀ c ∈ d.positional.1 ++ d.shown, c.isDigit = true) ∧
      natural (d.positional.1 ++ d.shown) * 10 ^ (-(d.shown.length : Int)) = magnitude d := by
  have zero : ∀ c ∈ ['0'], c.isDigit = true := List.forall_mem_singleton.mpr rfl
  rcases positional_cases written with ⟨zeros, exponent, whole, shown⟩ |
    ⟨zeros, exponent, whole, shown⟩ | ⟨places, exponent, positive, inside, whole, shown⟩
  · have scale : (-((List.replicate zeros '0' ++ d.digits).length : Int)) =
        d.exponent + 1 - d.digits.length := by
      rw [List.length_append, List.length_replicate]
      omega
    have value : natural (['0'] ++ (List.replicate zeros '0' ++ d.digits)) = natural d.digits := by
      rw [← natural_zeros_append (zeros + 1) d.digits, List.replicate_succ]
      rfl
    rw [whole, shown, value, scale]
    refine ⟨List.cons_ne_nil _ _, fun c member => ?_, rfl⟩
    rcases List.mem_append.mp member with front | member
    · exact zero c front
    · exact (List.mem_append.mp member).elim isDigit_zeros (written.each c)
  · have value : d.digits ++ List.replicate zeros '0' ++ ['0'] =
        d.digits ++ List.replicate (zeros + 1) '0' := by
      rw [List.append_assoc, List.replicate_succ']
    have scale : (-((['0'] : List Char).length : Int)) + (zeros + 1 : Nat) =
        d.exponent + 1 - d.digits.length := by
      rw [List.length_singleton]
      omega
    rw [whole, shown, value, natural_append_zeros, scale]
    refine ⟨fun none => written.some (List.append_eq_nil_iff.mp none).1, fun c member => ?_, rfl⟩
    exact (List.mem_append.mp member).elim (written.each c) isDigit_zeros
  · have scale : (-((d.digits.drop places).length : Int)) =
        d.exponent + 1 - d.digits.length := by
      rw [List.length_drop]
      omega
    rw [whole, shown, List.take_append_drop, scale]
    refine ⟨fun none => ?_, written.each, rfl⟩
    rcases List.take_eq_nil_iff.mp none with none | none
    · omega
    · exact written.some none

theorem drop_fraction (d : Decimal) : d.fraction.drop 1 = d.digits.drop 1 := by
  rw [fraction]
  split_ifs with single
  · exact (List.drop_eq_nil_of_le single.le).symm
  · rfl

theorem power_scaling (d : Decimal) : power d.scaling = d.exponent := by
  by_cases below : d.exponent < 0
  · rw [scaling, if_pos below, power, natural_wholeDigits, if_pos rfl]
    omega
  · rw [scaling, if_neg below, power, natural_wholeDigits, if_neg (by decide)]
    omega

theorem parts_positional {d : Decimal} (written : d.Written) :
    Parts (d.positional.1 ++ '.' :: d.shown) d.positional.1 ('.' :: d.shown) [] where
  split := (List.append_nil _).symm
  some := (positional_written written).1
  before c member := (positional_written written).2.1 c (List.mem_append_left _ member)
  point := rfl
  behind c member := (positional_written written).2.1 c (List.mem_append_right _ member)
  mark := rfl
  scale := nofun
  marked := .inl (List.cons_ne_nil _ _)

theorem parts_scientific {d : Decimal} (written : d.Written) :
    Parts (d.digits.take 1 ++ d.fraction ++ d.scaling) (d.digits.take 1) d.fraction d.scaling where
  split := rfl
  some none := by simp [written.some] at none
  before c member := written.each c (List.mem_of_mem_take member)
  point := by
    rw [fraction]
    split_ifs <;> rfl
  behind c member := written.each c (List.mem_of_mem_drop (drop_fraction d ▸ member))
  mark := rfl
  scale c member := by
    rcases List.mem_cons.mp member with rfl | member
    · split_ifs <;> simp
    · exact .inl (isDigit_of_mem_toDigits member)
  marked := .inr (List.cons_ne_nil _ _)

/-- A decimal is written in parts that stand for its magnitude. -/
theorem exists_parts {d : Decimal} (written : d.Written) :
    ∃ whole part rest, Parts d.unsigned whole part rest ∧
      natural (whole ++ part.drop 1) * 10 ^ (power rest - (part.drop 1).length) = magnitude d := by
  rw [unsigned]
  split
  · have scale : power [] - (d.shown.length : Int) = -(d.shown.length : Int) := Int.zero_sub _
    refine ⟨_, _, _, parts_positional written, ?_⟩
    rw [List.drop_one, List.tail_cons, scale]
    exact (positional_written written).2.2
  · have length := List.length_pos_iff.mpr written.some
    have scale : d.exponent - (d.digits.drop 1).length = d.exponent + 1 - d.digits.length := by
      rw [List.length_drop]
      omega
    refine ⟨_, _, _, parts_scientific written, ?_⟩
    rw [drop_fraction, power_scaling, List.take_append_drop, scale]
    rfl

theorem worth_unsigned {d : Decimal} (written : d.Written) : worth d.unsigned = magnitude d := by
  obtain ⟨whole, part, rest, parts, value⟩ := exists_parts written
  rw [parts.worth_eq, value]

/-- A sign is told from what stands behind it. -/
theorem eq_of_signed {negative negative' : Bool} {first first' : Char} {rest rest' : List Char}
    (digit : first.isDigit = true) (digit' : first'.isDigit = true)
    (same : (if negative then ['-'] else []) ++ first :: rest =
      (if negative' then ['-'] else []) ++ first' :: rest') :
    negative = negative' ∧ first :: rest = first' :: rest' := by
  have sign : Char.isDigit '-' = false := rfl
  cases negative <;> cases negative'
  · exact ⟨rfl, same⟩
  · rw [(List.cons.inj same).1, sign] at digit
    cases digit
  · rw [← (List.cons.inj same).1, sign] at digit'
    cases digit'
  · exact ⟨rfl, (List.cons.inj same).2⟩

theorem negative_ofDouble (d : Double) : (ofDouble d).negative = d.negative := by
  by_cases zero : d.rank = 0
  · rw [ofDouble, if_pos zero]
  · obtain ⟨whole, power, read, made⟩ := ofDouble_eq zero
    rw [made]

theorem toList_toJsonText_ofDouble (d : Double) :
    d.toJsonText.toList = (if d.negative then ['-'] else []) ++ (ofDouble d).unsigned := by
  rw [Double.toJsonText, toList_toJsonText, sign, negative_ofDouble]

/-- The text of a double behind its sign begins with a digit, and has a point or an e. -/
theorem unsigned_marks (d : Double) :
    (∃ first others, (ofDouble d).unsigned = first :: others ∧ first.isDigit = true) ∧
      ('.' ∈ (ofDouble d).unsigned ∨ 'e' ∈ (ofDouble d).unsigned) := by
  obtain ⟨whole, part, rest, parts, _⟩ := exists_parts (written_ofDouble d)
  exact parts.marks

/-- No two doubles have one text. -/
theorem eq_of_toJsonText {d d' : Double} (same : d.toJsonText.toList = d'.toJsonText.toList) :
    d = d' := by
  obtain ⟨⟨first, others, text, digit⟩, _⟩ := unsigned_marks d
  obtain ⟨⟨first', others', text', digit'⟩, _⟩ := unsigned_marks d'
  rw [toList_toJsonText_ofDouble, toList_toJsonText_ofDouble, text, text'] at same
  obtain ⟨signs, unsigned⟩ := eq_of_signed digit digit' same
  have magnitudes : magnitude (ofDouble d) = magnitude (ofDouble d') := by
    rw [← worth_unsigned (written_ofDouble d), ← worth_unsigned (written_ofDouble d'), text, text',
      unsigned]
  have ranks : d.rank = d'.rank := by
    have rounds := rounds_ofDouble d'
    rw [← magnitudes] at rounds
    exact eq_of_rounds (rounds_ofDouble d) rounds
  cases d
  cases d'
  simp_all

end Engagements.Decimal
