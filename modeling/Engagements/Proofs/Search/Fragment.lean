import Engagements.Proofs.Regex.Literal
import Engagements.Proofs.Search.Equality
import Engagements.Proofs.Search.Likeness

/-!
Escaped texts in a search. The component that asks for values like an escaped text is one piece, and
what is read back is the text without the white space around it, unless it goes over a line.
-/
namespace Engagements.Search

open Regex

/-- The component that asks for the values of a field that are like an escaped text. -/
def likeness (field fragment : String) : String := s!"{field} like {Regex.escape fragment}"

/-! An escaped text is one piece. -/

theorem splitUnescapedChars_escapeChars (text : List Char) :
    splitUnescapedChars '&' false (escapeChars text) = [escapeChars text] ∧
      endsEscaped false (escapeChars text) = false := by
  induction text with
  | nil => exact ⟨rfl, rfl⟩
  | cons c text ih =>
      rw [escapeChars_cons]
      by_cases special : isMeta c = true
      · rw [if_pos special]
        simp [splitUnescapedChars, endsEscaped, ih]
      · have plain : ∀ d ∈ [c], d ≠ '&' ∧ d ≠ '\\' := by
          intro d member
          obtain rfl := List.mem_singleton.mp member
          constructor <;> rintro rfl
          · exact special isMeta_ampersand
          · exact special isMeta_slash
        obtain ⟨single, ends⟩ := splitUnescapedChars_of_plain plain ih.1
        rw [if_neg special]
        exact ⟨single, ends.trans ih.2⟩

theorem whole_escape (text : String) : Whole (escape text) := by
  obtain ⟨single, settled⟩ := splitUnescapedChars_escapeChars text.toList
  rw [← String.toList_ofList (l := escapeChars text.toList)] at single settled
  refine ⟨?_, settled⟩
  rw [splitUnescaped, escape, single, List.map_singleton, String.ofList_toList]

/-! Escaped texts keep what they match. -/

theorem unescape_escapeChars (text : String) :
    unescape (escapeChars text.toList) = (Pattern.literal text).source := by
  rw [unescape, unescapeChars_escapeChars, Pattern.literal]

/-- An escaped text is taken as one piece and ends outside of an escape, and what is read of it is a
pattern for exactly the texts that contain it up to case. -/
theorem escapes_survive_search (text : String) :
    Whole (escape text) ∧
      ∃ regex, parse? true (unescape (escape text).toList) = some regex ∧
        ∀ found, regex.occursIn found = true ↔
          Text.caseFolded text <:+: Text.caseFolded found := by
  have read := parse?_literal text
  rw [← unescape_escapeChars, ← String.toList_ofList (l := escapeChars text.toList)] at read
  exact ⟨whole_escape text, _, read, occursIn_folds (Text.caseFolded text)⟩

/-! White space around an escaped text is that around the text. -/

theorem not_isMeta_of_isBlank {c : Char} (blank : Unicode.Property.isBlank c = true) :
    isMeta c = false := by
  have visible : (metaCharacters.all fun c => !Text.blankSpans.any (·.contains c)) = true := by
    decide
  by_contra special
  rw [Bool.not_eq_false] at special
  have seen := List.all_eq_true.mp visible c (List.contains_iff_mem.mp special)
  rw [← Text.isBlank_char, blank] at seen
  cases seen

theorem escapeChars_append (front back : List Char) :
    escapeChars (front ++ back) = escapeChars front ++ escapeChars back := List.flatMap_append

theorem isBlank_slash : Unicode.Property.isBlank '\\' = false := by
  rw [Text.isBlank_char]
  decide

theorem skipBlank_escapeChars (text : List Char) :
    Text.skipBlank (escapeChars text) = escapeChars (Text.skipBlank text) := by
  induction text with
  | nil => rfl
  | cons c text ih =>
      by_cases blank : Unicode.Property.isBlank c = true
      · rw [escapeChars_cons, not_isMeta_of_isBlank blank, if_neg Bool.false_ne_true,
          List.singleton_append, Text.skipBlank, Text.skipBlank, List.dropWhile_cons_of_pos blank,
          List.dropWhile_cons_of_pos blank]
        exact ih
      · rw [Bool.not_eq_true] at blank
        have kept : Text.skipBlank (c :: text) = c :: text :=
          (Text.skipBlank_eq_self_iff _).mpr (by simpa using blank)
        rw [kept, Text.skipBlank_eq_self_iff, escapeChars_cons]
        split
        · simpa using isBlank_slash
        · simpa using blank

theorem skipBlank_reverse_escapeChars (text : List Char) :
    Text.skipBlank (escapeChars text).reverse =
      (escapeChars (Text.skipBlank text.reverse).reverse).reverse := by
  induction text using List.reverseRecOn with
  | nil => rfl
  | append_singleton text c ih =>
      rw [List.reverse_concat, escapeChars_append, List.reverse_append]
      by_cases blank : Unicode.Property.isBlank c = true
      · have single : escapeChars [c] = [c] := by
          rw [escapeChars_cons, not_isMeta_of_isBlank blank]
          rfl
        rw [single, List.reverse_singleton, List.singleton_append, Text.skipBlank, Text.skipBlank,
          List.dropWhile_cons_of_pos blank, List.dropWhile_cons_of_pos blank]
        exact ih
      · rw [Bool.not_eq_true] at blank
        have kept : Text.skipBlank (c :: text.reverse) = c :: text.reverse :=
          (Text.skipBlank_eq_self_iff _).mpr (by simpa using blank)
        have none : escapeChars [] = [] := rfl
        rw [kept, List.reverse_cons, List.reverse_reverse, escapeChars_append,
          List.reverse_append, Text.skipBlank_eq_self_iff, escapeChars_cons, none, List.append_nil]
        split <;> simpa using blank

theorem trimChars_escapeChars (text : List Char) :
    Text.trimChars (escapeChars text) = escapeChars (Text.trimChars text) := by
  rw [Text.trimChars, Text.trimChars, skipBlank_escapeChars, skipBlank_reverse_escapeChars,
    List.reverse_reverse]

theorem mem_escapeChars_iff {c : Char} (other : c ≠ '\\') (text : List Char) :
    c ∈ escapeChars text ↔ c ∈ text := by
  rw [escapeChars, List.mem_flatMap]
  constructor
  · rintro ⟨d, member, inside⟩
    split at inside
    · simp only [List.mem_cons, other, false_or, List.not_mem_nil, or_false] at inside
      rwa [inside]
    · rwa [List.mem_singleton.mp inside]
  · exact fun member => ⟨c, member, by split <;> simp⟩

/-! What is read back. -/

variable {field : String}

theorem toList_trim (text : String) : (Text.trim text).toList = Text.trimChars text.toList :=
  String.toList_ofList

theorem readPattern_escapeChars (field text : String) :
    readPattern field (escapeChars text.toList) =
      if Pattern.Fits text then .ok (Pattern.literal text)
      else .error (.invalidSearchField field
        s!"invalid pattern '{(Pattern.literal text).source}'") := by
  simp only [readPattern, unescape_escapeChars, Pattern.Fits, Pattern.read?]
  split_ifs <;> simp_all

/-- What a search for an escaped text comes to: a condition on the trimmed text, nothing if that
goes over a line, and an error if its pattern is too large. -/
theorem read_likeness (today : Date) (kind : kindOf? field = some .string) (fragment : String) :
    read today (likeness field fragment) =
      if '\n' ∈ (Text.trim fragment).toList then .ok ⟨none, [likeness field fragment]⟩
      else if Pattern.Fits (Text.trim fragment) then
        .ok ⟨some (.like field (Pattern.literal (Text.trim fragment))), []⟩
      else .error (.invalidSearchField field
        s!"invalid pattern '{(Pattern.literal (Text.trim fragment)).source}'") := by
  have named := isName_of_isKey (isKey_fields _ (mem_fields_of_kindOf? kind))
  have written : likeness field fragment = field ++ " like " ++ escape fragment := rfl
  have trimmed : Text.trimChars (escape fragment).toList =
      escapeChars (Text.trim fragment).toList := by
    rw [escape, String.toList_ofList, trimChars_escapeChars, toList_trim]
  rw [written, read_like today named (whole_escape fragment).single, trimmed, readPattern_escapeChars]
  simp only [mem_escapeChars_iff (by decide : '\n' ≠ '\\')]
  split_ifs <;> rfl

end Engagements.Search
