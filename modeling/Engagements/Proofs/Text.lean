import Engagements.Text
import Mathlib.Data.List.Basic
import Mathlib.Data.List.TakeWhile

/-!
The digits of whole numbers, texts in pieces, and texts without a visible character.
-/
namespace Engagements

theorem isDigit_of_mem_toDigits {k : Nat} {c : Char} (member : c ∈ Nat.toDigits 10 k) :
    c.isDigit = true := Nat.isDigit_of_mem_toDigits (by decide) (by decide) member

theorem toList_toString (n : Int) :
    (toString n).toList = (if n < 0 then ['-'] else []) ++ Nat.toDigits 10 n.natAbs := by
  cases n with
  | ofNat m =>
      have natural : ¬Int.ofNat m < 0 := by simp
      rw [if_neg natural, List.nil_append]
      change (Nat.repr m).toList = _
      exact Nat.toList_repr
  | negSucc m =>
      rw [if_pos (Int.negSucc_lt_zero m)]
      change ("-" ++ Nat.repr (m + 1)).toList = _
      rw [String.toList_append, Nat.toList_repr]
      rfl

namespace Text

theorem splitChars_eq_splitOn (separator : Char) (text : List Char) :
    splitChars separator text = text.splitOn separator := by
  induction text with
  | nil => rfl
  | cons c rest ih =>
      rw [splitChars, List.splitOn_cons_eq_if_modifyHead, ih]
      by_cases same : c = separator
      · simp [same]
      · simp only [same, if_false, beq_iff_eq]
        cases split : rest.splitOn separator with
        | nil => exact absurd split (List.splitOn_ne_nil separator rest)
        | cons piece others => rfl

theorem split_ne_nil (separator : Char) (text : String) : split separator text ≠ [] := by
  rw [split, splitChars_eq_splitOn]
  simp

theorem split_injective {separator : Char} {text other : String}
    (same : split separator text = split separator other) : text = other := by
  have pieces : splitChars separator text.toList = splitChars separator other.toList :=
    List.map_injective_iff.mpr (fun _ _ => String.ofList_inj.mp) same
  have chars := congrArg (List.intercalate [separator]) pieces
  rw [splitChars_eq_splitOn, splitChars_eq_splitOn, List.intercalate_splitOn,
    List.intercalate_splitOn] at chars
  exact String.toList_inj.mp chars

theorem splitChars_of_absent {separator : Char} {text : List Char} (absent : separator ∉ text) :
    splitChars separator text = [text] := by
  rw [splitChars_eq_splitOn, List.splitOn_eq_singleton absent]

theorem splitChars_append {separator : Char} {text : List Char} (absent : separator ∉ text)
    (rest : List Char) :
    splitChars separator (text ++ separator :: rest) = text :: splitChars separator rest := by
  rw [splitChars_eq_splitOn, splitChars_eq_splitOn, List.splitOn_append_cons_self_of_not_mem absent]

theorem not_mem_of_mem_splitChars {separator : Char} {text piece : List Char}
    (inside : piece ∈ splitChars separator text) : separator ∉ piece := by
  induction text generalizing piece with
  | nil =>
      rw [splitChars, List.mem_singleton] at inside
      simp [inside]
  | cons c text ih =>
      rw [splitChars] at inside
      split_ifs at inside with same
      · rcases List.mem_cons.mp inside with rfl | later
        · exact List.not_mem_nil
        · exact ih later
      · cases pieces : splitChars separator text with
        | nil =>
            rw [pieces, List.mem_singleton] at inside
            simpa [inside] using Ne.symm same
        | cons first rest =>
            rw [pieces] at ih inside
            rcases List.mem_cons.mp inside with rfl | later
            · exact List.not_mem_cons_of_ne_of_not_mem (Ne.symm same) (ih List.mem_cons_self)
            · exact ih (List.mem_cons_of_mem _ later)

theorem intercalate_append {α : Type} (separator : α) {first second : List (List α)}
    (nonempty : first ≠ []) (more : second ≠ []) :
    [separator].intercalate (first ++ second) =
      [separator].intercalate first ++ separator :: [separator].intercalate second := by
  induction first with
  | nil => exact absurd rfl nonempty
  | cons piece pieces ih =>
      rw [List.cons_append, List.intercalate_cons_of_ne_nil (by simp [more])]
      cases pieces with
      | nil => simp
      | cons next pieces =>
          rw [ih (List.cons_ne_nil _ _), List.intercalate_cons_cons]
          simp

/-- The pieces of a text are the first ones of another text if it is the other, or if a separator
follows on it there. -/
theorem splitChars_prefix_iff (separator : Char) (front text : List Char) :
    splitChars separator front <+: splitChars separator text ↔
      text = front ∨ front ++ [separator] <+: text := by
  rw [splitChars_eq_splitOn, splitChars_eq_splitOn]
  constructor
  · rintro ⟨pieces, split⟩
    have joined := congrArg (List.intercalate [separator]) split
    rw [List.intercalate_splitOn] at joined
    by_cases whole : pieces = []
    · rw [whole, List.append_nil, List.intercalate_splitOn] at joined
      exact Or.inl joined.symm
    · rw [intercalate_append separator (List.splitOn_ne_nil _ _) whole,
        List.intercalate_splitOn] at joined
      exact Or.inr ⟨_, by rw [← joined, List.append_assoc, List.singleton_append]⟩
  · rintro (same | ⟨rest, split⟩)
    · exact ⟨[], by rw [same, List.append_nil]⟩
    · refine ⟨rest.splitOn separator, ?_⟩
      rw [← split, List.append_assoc, List.singleton_append, List.splitOn_append_cons_self]

/-- The code points of white space. -/
def blankSpans : List Unicode.Span :=
  [⟨0x9, 0xD⟩, ⟨0x20, 0x20⟩, ⟨0x85, 0x85⟩, ⟨0xA0, 0xA0⟩, ⟨0x1680, 0x1680⟩, ⟨0x2000, 0x200A⟩,
    ⟨0x2028, 0x2029⟩, ⟨0x202F, 0x202F⟩, ⟨0x205F, 0x205F⟩, ⟨0x3000, 0x3000⟩]

/-- A table whose spans are written in ascending order is sorted as it stands. -/
theorem spans_read {table : String} (spans : List Unicode.Span)
    (written : (Unicode.CharSet.words table).flatMap Unicode.CharSet.readWord = spans)
    (ascending : spans.Pairwise fun left right => decide (left.first ≤ right.first) = true) :
    (Unicode.CharSet.read table).spans = Unicode.Span.join spans := by
  rw [Unicode.CharSet.read, written, Unicode.CharSet.ofSpans, List.mergeSort_of_pairwise ascending]

theorem spans_whiteSpace : Unicode.Property.whiteSpace.spans = blankSpans :=
  (spans_read blankSpans (by decide +kernel) (by decide)).trans rfl

theorem isBlank_char (c : Char) :
    Unicode.Property.isBlank c = blankSpans.any (·.contains c) := by
  rw [Unicode.Property.isBlank, Unicode.CharSet.contains, spans_whiteSpace]

theorem isBlank_eq (text : String) :
    isBlank text = text.toList.all fun c => blankSpans.any (·.contains c) :=
  congrArg text.toList.all (funext isBlank_char)

theorem skipBlank_eq (text : List Char) :
    skipBlank text = text.dropWhile fun c => blankSpans.any (·.contains c) := by
  rw [skipBlank, ← funext isBlank_char]

theorem spans_asciiWord : Unicode.Property.asciiWord.spans =
    [⟨0x30, 0x39⟩, ⟨0x41, 0x5A⟩, ⟨0x5F, 0x5F⟩, ⟨0x61, 0x7A⟩] :=
  (spans_read [⟨0x30, 0x39⟩, ⟨0x41, 0x5A⟩, ⟨0x5F, 0x5F⟩, ⟨0x61, 0x7A⟩] (by decide +kernel)
    (by decide)).trans rfl

theorem isWord_of_isAlphanum {c : Char} (plain : c.isAlphanum = true) :
    Unicode.Property.isWord c = true := by
  have kinds : c.isAlphanum = ((c.isUpper || c.isLower) || c.isDigit) := rfl
  have upper : c.isUpper = decide (65 ≤ c.val ∧ c.val ≤ 90) := rfl
  have lower : c.isLower = (decide (97 ≤ c.val) && decide (c.val ≤ 122)) := rfl
  have digit : c.isDigit = (decide (48 ≤ c.val) && decide (c.val ≤ 57)) := rfl
  have code : 65 ≤ c.toNat ∧ c.toNat ≤ 90 ∨ 97 ≤ c.toNat ∧ c.toNat ≤ 122 ∨
      48 ≤ c.toNat ∧ c.toNat ≤ 57 := by
    simpa [kinds, upper, lower, digit, UInt32.le_iff_toNat_le, or_assoc] using plain
  have ascii : c.toNat < 128 := by omega
  rw [Unicode.Property.isWord, if_pos ascii, Unicode.Property.isAsciiWord,
    Unicode.CharSet.contains, spans_asciiWord]
  simp only [Unicode.Span.contains, List.any_cons, List.any_nil, Bool.or_eq_true,
    Bool.and_eq_true, decide_eq_true_eq]
  omega

theorem skipBlank_eq_self_iff (text : List Char) :
    skipBlank text = text ↔ ∀ c ∈ text.head?, Unicode.Property.isBlank c = false := by
  cases text with
  | nil => simp [skipBlank]
  | cons c rest =>
      rw [skipBlank, List.dropWhile_eq_self_iff]
      simp

theorem length_skipBlank_le (text : List Char) : (skipBlank text).length ≤ text.length :=
  (List.dropWhile_sublist _).length_le

theorem trimChars_isInfix (text : List Char) : trimChars text <:+: text := by
  have front : skipBlank text <:+ text := List.dropWhile_suffix _
  have back : skipBlank (skipBlank text).reverse <:+ (skipBlank text).reverse :=
    List.dropWhile_suffix _
  have kept : trimChars text <+: skipBlank text := by
    rwa [trimChars, ← List.reverse_suffix, List.reverse_reverse]
  exact kept.isInfix.trans front.isInfix

/-- A text is trimmed if it neither begins nor ends with white space. -/
theorem trimChars_eq_self_iff (text : List Char) :
    trimChars text = text ↔ (∀ c ∈ text.head?, Unicode.Property.isBlank c = false) ∧
      ∀ c ∈ text.getLast?, Unicode.Property.isBlank c = false := by
  rw [← List.head?_reverse, ← skipBlank_eq_self_iff, ← skipBlank_eq_self_iff, trimChars]
  constructor
  · intro trimmed
    have front : skipBlank text = text := by
      apply (List.dropWhile_suffix _).eq_of_length
      have lengths := congrArg List.length trimmed
      have second := length_skipBlank_le (skipBlank text).reverse
      have first := length_skipBlank_le text
      rw [List.length_reverse] at lengths second
      rw [← skipBlank]
      omega
    rw [front] at trimmed
    exact ⟨front, by rw [← List.reverse_inj, trimmed, List.reverse_reverse]⟩
  · rintro ⟨front, back⟩
    rw [front, back, List.reverse_reverse]

theorem trim_eq_self_iff (text : String) :
    trim text = text ↔ (∀ c ∈ text.toList.head?, Unicode.Property.isBlank c = false) ∧
      ∀ c ∈ text.toList.getLast?, Unicode.Property.isBlank c = false := by
  rw [← trimChars_eq_self_iff, trim, ← String.toList_inj, String.toList_ofList]

end Text

end Engagements
