import Engagements.Proofs.Regex
import Engagements.Search.Component

/-!
Patterns for the texts that contain a given one. An escaped text comes out of a search text with its
ampersands bare, and then still stands for its characters one after another.
-/
namespace Engagements

namespace Regex

/-- A character as a pattern of its own, in which an ampersand needs no escape. -/
def literalUnit (c : Char) : List Char := if isMeta c && c != '&' then ['\\', c] else [c]

def literalChars (text : List Char) : List Char := text.flatMap literalUnit

theorem isMeta_ampersand : isMeta '&' = true := by decide

theorem isMeta_slash : isMeta '\\' = true := by decide

theorem literalUnit_of_not_isMeta {c : Char} (plain : isMeta c = false) :
    literalUnit c = [c] := by
  rw [literalUnit, plain, Bool.false_and, if_neg Bool.false_ne_true]

theorem literalUnit_of_isMeta {c : Char} (special : isMeta c = true) (other : c ≠ '&') :
    literalUnit c = ['\\', c] := by
  rw [literalUnit, special, Bool.true_and, if_pos (bne_iff_ne.mpr other)]

theorem literalUnit_ne_nil (c : Char) : literalUnit c ≠ [] := by
  rw [literalUnit]
  split <;> exact List.cons_ne_nil _ _

theorem escapeChars_cons (c : Char) (text : List Char) :
    escapeChars (c :: text) = (if isMeta c then ['\\', c] else [c]) ++ escapeChars text :=
  List.flatMap_cons

/-- An escaped text does not begin with an ampersand. -/
theorem head?_escapeChars_ne (text : List Char) : (escapeChars text).head? ≠ some '&' := by
  cases text with
  | nil => exact nofun
  | cons c text =>
      rw [escapeChars_cons]
      by_cases special : isMeta c = true
      · rw [if_pos special]
        exact fun same => absurd (Option.some.inj same) (by decide)
      · rw [if_neg special]
        intro same
        obtain rfl : c = '&' := Option.some.inj same
        exact special isMeta_ampersand

open Search

theorem unescapeChars_cons {c : Char} {text : List Char}
    (kept : c ≠ '\\' ∨ text.head? ≠ some '&') :
    unescapeChars (c :: text) = c :: unescapeChars text := by
  rw [unescapeChars]
  rintro rest rfl rfl
  rcases kept with other | other <;> exact other rfl

/-- Of an escaped text only the ampersands lose their escapes. -/
theorem unescapeChars_escapeChars (text : List Char) :
    unescapeChars (escapeChars text) = literalChars text := by
  induction text with
  | nil => rfl
  | cons c text ih =>
      rw [escapeChars_cons, literalChars, List.flatMap_cons, ← literalChars, ← ih]
      by_cases special : isMeta c = true
      · rw [if_pos special]
        by_cases ampersand : c = '&'
        · subst ampersand
          rfl
        · have first : ('\\' :: [c] ++ escapeChars text) = '\\' :: (c :: escapeChars text) := rfl
          have bare : (c :: escapeChars text).head? ≠ some '&' :=
            fun same => ampersand (Option.some.inj same)
          rw [literalUnit_of_isMeta special ampersand, first, unescapeChars_cons (.inr bare),
            unescapeChars_cons (.inr (head?_escapeChars_ne text))]
          rfl
      · rw [if_neg special, List.singleton_append,
          unescapeChars_cons (.inr (head?_escapeChars_ne text)),
          literalUnit_of_not_isMeta (Bool.not_eq_true _ ▸ special)]
        rfl

theorem Reader.Plain.run_literalUnit {reader : Reader} (plain : reader.Plain) (fuel : Nat)
    (c : Char) (rest : List Char) :
    Reader.run (fuel + 1) reader (literalUnit c ++ rest) =
      Reader.run fuel (reader.pushPart (.literal c)) rest := by
  by_cases ampersand : c = '&'
  · subst ampersand
    exact plain.run_succ fuel '&' rest
  · rw [← plain.run_escaped, literalUnit, bne_iff_ne.mpr ampersand, Bool.and_true]

end Regex

/-- The pattern of all texts that contain the given one up to case. -/
def Pattern.literal (text : String) : Pattern :=
  ⟨String.ofList (Regex.literalChars text.toList)⟩

namespace Regex

theorem parse?_literal (text : String) :
    parse? true (Pattern.literal text).source =
      some (inOrder ((text.toList.map Unicode.foldCase).map folded)) := by
  have source : (Pattern.literal text).source.toList = literalChars text.toList :=
    String.toList_ofList
  obtain ⟨extra, longer⟩ :=
    Nat.exists_eq_add_of_le (length_le_length_flatMap literalUnit_ne_nil text.toList)
  have start : (Reader.start true).Plain := ⟨rfl, rfl⟩
  have ran : Reader.run ((literalChars text.toList).length + 1) (Reader.start true)
      (literalChars text.toList) =
        some ((text.toList.map .literal).foldl Reader.pushPart (Reader.start true)) := by
    have step := start.run_units (fun _ plain => plain.run_literalUnit) (extra + 1) text.toList []
    have read := Reader.foldl_pushPart (Reader.start true) (text.toList.map .literal)
    rw [List.append_nil, ← literalChars, ← Nat.add_assoc, ← longer] at step
    rw [List.foldl_map] at read ⊢
    refine step.trans ?_
    rw [read]
    rfl
  rw [parse?_of_run (by rw [source]; exact ran), List.map_map, List.map_map]
  rfl

/-- Folded characters in order occur where they stand one after another up to case. -/
theorem occursIn_folds (keys : List Char) (text : String) :
    (inOrder (keys.map folded)).occursIn text = true ↔
      keys <:+: text.toList.map Unicode.foldCase := by
  rw [occursIn, ends_inOrder, any_iff_flagged]
  generalize text.toList = text
  have length : ((gaps text).map fun _ => true).length = text.length + 1 := by
    rw [List.length_map, length_gaps]
  simp only [flagged_ends_folds text keys length, flagged_start]
  constructor
  · rintro ⟨_, start, _, _, folds⟩
    rw [List.map_take, List.map_drop] at folds
    rw [← folds]
    exact (List.take_prefix _ _).isInfix.trans (List.drop_suffix _ _).isInfix
  · rintro ⟨front, back, split⟩
    have lengths := congrArg List.length split
    simp only [List.length_append, List.length_map] at lengths
    refine ⟨_, front.length, by omega, rfl, ?_⟩
    rw [List.map_take, List.map_drop, ← split, List.append_assoc, List.drop_left', List.take_left']
      <;> rfl

end Regex

/-- The pattern of a text is no larger than patterns may be. -/
def Pattern.Fits (text : String) : Prop := (Pattern.read? (Pattern.literal text).source).isSome

instance (text : String) : Decidable (Pattern.Fits text) := inferInstanceAs (Decidable (_ = true))

theorem Pattern.occursIn_literal (text found : String) :
    (Pattern.literal text).occursIn found = true ↔
      Text.caseFolded text <:+: Text.caseFolded found := by
  rw [Pattern.occursIn, Pattern.regex?, Regex.parse?_literal, Option.any_some,
    Regex.occursIn_folds, Text.caseFolded, Text.caseFolded]

end Engagements
