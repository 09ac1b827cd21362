import Engagements.Proofs.Decimal.Text
import Engagements.Proofs.Json
import Engagements.Proofs.Value.Order

/-!
Compact text. The text of a value tells the value and where it ends, so no two values have one text;
integers and doubles, the two zeros and the order of fields are kept apart.
-/
namespace Engagements.Json

/-! The text of a number. -/

theorem exists_toDigits (n : Nat) :
    ∃ first others, Nat.toDigits 10 n = first :: others ∧ first.isDigit = true := by
  obtain ⟨first, others, split⟩ :=
    List.exists_cons_of_ne_nil (Nat.toDigits_ne_nil (n := n) (b := 10))
  exact ⟨first, others, split, isDigit_of_mem_toDigits (split ▸ List.mem_cons_self)⟩

/-- A number is written with or without a sign, and then from a digit on. -/
theorem exists_signed (n : Number) :
    ∃ (negative : Bool) (first : Char) (others : List Char),
      numberText n = (if negative then ['-'] else []) ++ first :: others ∧ first.isDigit = true ∧
      ∀ c ∈ first :: others, c.isDigit = true ∨ c ∈ ['.', 'e', '+', '-'] := by
  cases n with
  | integer n =>
      obtain ⟨first, others, split, digit⟩ := exists_toDigits n.natAbs
      refine ⟨decide (n < 0), first, others, ?_, digit, fun c member => .inl ?_⟩
      · rw [numberText, toList_toString, split]
        simp only [decide_eq_true_eq]
      · exact isDigit_of_mem_toDigits (split ▸ member)
  | double d =>
      obtain ⟨_, _, _, parts, _⟩ := Decimal.exists_parts (Decimal.written_ofDouble d)
      obtain ⟨⟨first, others, split, digit⟩, _⟩ := parts.marks
      refine ⟨d.negative, first, others, ?_, digit, fun c member => parts.mem (split ▸ member)⟩
      rw [numberText, Decimal.toList_toJsonText_ofDouble, split]

theorem mem_numberText {n : Number} {c : Char} (member : c ∈ numberText n) :
    c.isDigit = true ∨ c ∈ ['.', 'e', '+', '-'] := by
  obtain ⟨negative, first, others, text, _, inside⟩ := exists_signed n
  rw [text, List.mem_append] at member
  rcases member with sign | member
  · split at sign
    · rw [List.mem_singleton.mp sign]
      exact .inr (by decide)
    · cases sign
  · exact inside c member

/-- Only the text of a double has a point or an e. -/
theorem toList_toString_ne (n : Int) (d : Double) : (toString n).toList ≠ d.toJsonText.toList := by
  intro same
  have plain : ∀ c ∈ d.toJsonText.toList, c = '-' ∨ c.isDigit = true := by
    intro c member
    rw [← same, toList_toString, List.mem_append] at member
    rcases member with sign | digit
    · split at sign
      · exact .inl (List.mem_singleton.mp sign)
      · cases sign
    · exact .inr (isDigit_of_mem_toDigits digit)
  rw [Decimal.toList_toJsonText_ofDouble] at plain
  rcases (Decimal.unsigned_marks d).2 with point | mark
  · exact absurd (plain '.' (List.mem_append_right _ point)) (by decide)
  · exact absurd (plain 'e' (List.mem_append_right _ mark)) (by decide)

theorem eq_of_toString {n m : Int} (same : (toString n).toList = (toString m).toList) : n = m := by
  obtain ⟨first, others, split, digit⟩ := exists_toDigits n.natAbs
  obtain ⟨first', others', split', digit'⟩ := exists_toDigits m.natAbs
  rw [toList_toString, toList_toString, split, split'] at same
  have signed : (if decide (n < 0) = true then ['-'] else []) ++ first :: others =
      (if decide (m < 0) = true then ['-'] else []) ++ first' :: others' := by
    simpa only [decide_eq_true_eq] using same
  obtain ⟨signs, texts⟩ := Decimal.eq_of_signed digit digit' signed
  have magnitudes : n.natAbs = m.natAbs := by
    rw [← Decimal.natural_wholeDigits n.natAbs, ← Decimal.natural_wholeDigits m.natAbs,
      Decimal.wholeDigits, Decimal.wholeDigits, split, split', texts]
  have signs : n < 0 ↔ m < 0 := decide_eq_decide.mp signs
  omega

theorem eq_of_numberText {n m : Number} (same : numberText n = numberText m) : n = m := by
  cases n with
  | integer n =>
      cases m with
      | integer m => exact congrArg _ (eq_of_toString same)
      | double d => exact absurd same (toList_toString_ne n d)
  | double d =>
      cases m with
      | integer m => exact absurd same.symm (toList_toString_ne m d)
      | double e => exact congrArg _ (Decimal.eq_of_toJsonText same)

/-! Where a value begins and ends. -/

/-- The kind of the values that begin with a character. -/
def kindOfFirst (c : Char) : Nat :=
  if c = 'n' then 1
  else if c.isDigit = true ∨ c = '-' then 2
  else if c = '"' then 3
  else if c = '\x7b' then 4
  else if c = '[' then 5
  else if c = 't' ∨ c = 'f' then 8
  else 0

theorem kindOfFirst_digit {c : Char} (digit : c.isDigit = true) : kindOfFirst c = 2 := by
  have letter : c ≠ 'n' := by
    rintro rfl
    cases digit
  rw [kindOfFirst, if_neg letter, if_pos (.inl digit)]

theorem exists_compactChars (value : Value) :
    ∃ first others, compactChars value = first :: others ∧
      kindOfFirst first = value.kindRank := by
  cases value with
  | null => exact ⟨_, _, rfl, rfl⟩
  | bool b => cases b <;> exact ⟨_, _, rfl, rfl⟩
  | number n =>
      obtain ⟨negative, first, others, text, digit, _⟩ := exists_signed n
      rw [compactChars, text]
      cases negative
      · exact ⟨first, others, rfl, kindOfFirst_digit digit⟩
      · exact ⟨'-', first :: others, rfl, rfl⟩
  | string s => exact ⟨_, _, rfl, rfl⟩
  | array items => exact ⟨_, _, rfl, rfl⟩
  | object fields => exact ⟨_, _, rfl, rfl⟩

/-- What may stand behind a value. -/
def closers : List Char := [',', ']', '\x7d']

def Ends (rest : List Char) : Prop := ∀ c ∈ rest.head?, c ∈ closers

theorem ends_nil : Ends [] := nofun

theorem ends_cons {c : Char} (closer : c ∈ closers) (rest : List Char) : Ends (c :: rest) := by
  intro d first
  exact Option.some.inj first ▸ closer

/-- A word without a closing character ends where one stands. -/
theorem eq_of_word {word word' rest rest' : List Char} (plain : ∀ c ∈ word, c ∉ closers)
    (plain' : ∀ c ∈ word', c ∉ closers) (ends : Ends rest) (ends' : Ends rest')
    (same : word ++ rest = word' ++ rest') : word = word' ∧ rest = rest' := by
  have taken : ∀ {word rest : List Char}, (∀ c ∈ word, c ∉ closers) → Ends rest →
      (word ++ rest).takeWhile (fun c => decide (c ∉ closers)) = word := by
    intro word rest plain ends
    rw [List.takeWhile_append_of_pos fun c member => decide_eq_true (plain c member)]
    cases rest with
    | nil => exact List.append_nil _
    | cons c rest =>
        rw [List.takeWhile_cons_of_neg, List.append_nil]
        exact fun outside => of_decide_eq_true outside (ends c rfl)
  have words : word = word' := by
    rw [← taken plain ends, same, taken plain' ends']
  subst words
  exact ⟨rfl, List.append_cancel_left same⟩

theorem not_mem_closers_of_numberText {n : Number} {c : Char} (member : c ∈ numberText n) :
    c ∉ closers := by
  rcases mem_numberText member with digit | mark
  · intro closer
    have letters : (closers.all fun c => !c.isDigit) = true := by decide
    have letter := List.all_eq_true.mp letters c closer
    rw [digit] at letter
    cases letter
  · have apart : (['.', 'e', '+', '-'].all fun c => !closers.contains c) = true := by decide
    simpa using List.all_eq_true.mp apart c mark

/-! The text of a value. -/

/-- The rest of the text of an array behind one of its items. -/
def behindItem : List Value → List Char
  | [] => [']']
  | items => ',' :: compactItems items ++ [']']

/-- The rest of the text of an object behind one of its fields. -/
def behindField : Fields → List Char
  | [] => ['\x7d']
  | fields => ',' :: compactFields fields ++ ['\x7d']

theorem compactItems_cons (item : Value) (items : List Value) :
    compactItems (item :: items) ++ [']'] = compactChars item ++ behindItem items := by
  cases items <;> simp [compactItems, behindItem]

theorem compactFields_cons (name : String) (value : Value) (fields : Fields) :
    compactFields ((name, value) :: fields) ++ ['\x7d'] =
      stringText name ++ ':' :: compactChars value ++ behindField fields := by
  cases fields <;> simp [compactFields, behindField]

theorem ends_behindItem (items : List Value) (rest : List Char) :
    Ends (behindItem items ++ rest) := by
  cases items <;> exact ends_cons (by decide) _

theorem ends_behindField (fields : Fields) (rest : List Char) :
    Ends (behindField fields ++ rest) := by
  cases fields <;> exact ends_cons (by decide) _

theorem bracket_ne_compactChars (value : Value) {rest rest' : List Char} :
    [']'] ++ rest ≠ compactChars value ++ rest' := by
  intro same
  obtain ⟨first, others, text, kind⟩ := exists_compactChars value
  rw [text] at same
  rw [← (List.cons.inj same).1] at kind
  cases value <;> cases kind

mutual
/-- A value is told from its text with what stands behind it. -/
theorem eq_of_compactChars (value other : Value) {rest rest' : List Char} (ends : Ends rest)
    (ends' : Ends rest') (same : compactChars value ++ rest = compactChars other ++ rest') :
    value = other ∧ rest = rest' := by
  have kinds : value.kindRank = other.kindRank := by
    obtain ⟨first, others, text, kind⟩ := exists_compactChars value
    obtain ⟨first', others', text', kind'⟩ := exists_compactChars other
    rw [text, text'] at same
    rw [← kind, ← kind', (List.cons.inj same).1]
  have kind := Value.sameKind_of_kindRank kinds
  cases value with
  | null =>
      cases kind
      exact ⟨rfl, List.append_cancel_left same⟩
  | bool b =>
      cases kind with
      | bool b b' =>
          cases b <;> cases b'
          · exact ⟨rfl, List.append_cancel_left same⟩
          · exact absurd (List.cons.inj same).1 (by decide)
          · exact absurd (List.cons.inj same).1 (by decide)
          · exact ⟨rfl, List.append_cancel_left same⟩
  | number n =>
      cases kind with
      | number n m =>
          obtain ⟨texts, rest⟩ := eq_of_word (fun c => not_mem_closers_of_numberText)
            (fun c => not_mem_closers_of_numberText) ends ends' same
          exact ⟨congrArg _ (eq_of_numberText texts), rest⟩
  | string s =>
      cases kind with
      | string s t =>
          obtain ⟨rfl, rest⟩ := eq_of_stringText same
          exact ⟨rfl, rest⟩
  | array items =>
      cases kind with
      | array items others =>
          obtain ⟨rfl, rest⟩ := eq_of_compactItems items others (List.cons.inj same).2
          exact ⟨rfl, rest⟩
  | object fields =>
      cases kind with
      | object fields others =>
          obtain ⟨rfl, rest⟩ := eq_of_compactFields fields others (List.cons.inj same).2
          exact ⟨rfl, rest⟩
termination_by structural value

theorem eq_of_compactItems (items others : List Value) {rest rest' : List Char}
    (same : compactItems items ++ [']'] ++ rest = compactItems others ++ [']'] ++ rest') :
    items = others ∧ rest = rest' := by
  cases items with
  | nil =>
      cases others with
      | nil => exact ⟨rfl, (List.cons.inj same).2⟩
      | cons other others =>
          rw [compactItems_cons, List.append_assoc (compactChars other)] at same
          exact absurd same (bracket_ne_compactChars other)
  | cons item items =>
      cases others with
      | nil =>
          rw [compactItems_cons, List.append_assoc (compactChars item)] at same
          exact absurd same.symm (bracket_ne_compactChars item)
      | cons other others =>
          rw [compactItems_cons, compactItems_cons, List.append_assoc, List.append_assoc] at same
          obtain ⟨rfl, behind⟩ := eq_of_compactChars item other (ends_behindItem items rest)
            (ends_behindItem others rest') same
          cases items with
          | nil =>
              cases others with
              | nil => exact ⟨rfl, (List.cons.inj behind).2⟩
              | cons other others => cases (List.cons.inj behind).1
          | cons next items =>
              cases others with
              | nil => cases (List.cons.inj behind).1
              | cons other others =>
                  obtain ⟨tails, rest⟩ := eq_of_compactItems (next :: items) (other :: others)
                    (List.cons.inj behind).2
                  exact ⟨congrArg _ tails, rest⟩
termination_by structural items

theorem eq_of_compactFields (fields others : Fields) {rest rest' : List Char}
    (same : compactFields fields ++ ['\x7d'] ++ rest = compactFields others ++ ['\x7d'] ++ rest') :
    fields = others ∧ rest = rest' := by
  cases fields with
  | nil =>
      cases others with
      | nil => exact ⟨rfl, (List.cons.inj same).2⟩
      | cons other others =>
          rw [compactFields_cons] at same
          exact absurd (List.cons.inj same).1 (by decide)
  | cons field fields =>
      cases others with
      | nil =>
          rw [compactFields_cons] at same
          exact absurd (List.cons.inj same).1 (by decide)
      | cons other others =>
          obtain ⟨name, value⟩ := field
          obtain ⟨otherName, otherValue⟩ := other
          rw [compactFields_cons, compactFields_cons, List.append_assoc, List.append_assoc,
            List.append_assoc, List.append_assoc] at same
          obtain ⟨rfl, values⟩ := eq_of_stringText same
          obtain ⟨rfl, behind⟩ := eq_of_compactChars value otherValue
            (ends_behindField fields rest) (ends_behindField others rest') (List.cons.inj values).2
          cases fields with
          | nil =>
              cases others with
              | nil => exact ⟨rfl, (List.cons.inj behind).2⟩
              | cons other others => cases (List.cons.inj behind).1
          | cons next fields =>
              cases others with
              | nil => cases (List.cons.inj behind).1
              | cons other others =>
                  obtain ⟨tails, rest⟩ := eq_of_compactFields (next :: fields) (other :: others)
                    (List.cons.inj behind).2
                  exact ⟨congrArg _ tails, rest⟩
termination_by structural fields
end

/-- No two values have one compact text. -/
theorem compact_injective {value other : Value} (same : compact value = compact other) :
    value = other := by
  have texts : compactChars value ++ [] = compactChars other ++ [] := by
    rw [List.append_nil, List.append_nil]
    exact String.ofList_inj.mp same
  exact (eq_of_compactChars value other ends_nil ends_nil texts).1

end Engagements.Json
