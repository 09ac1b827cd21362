import Engagements.Pattern
import Mathlib.Data.List.Basic

/-!
Patterns that stand for a text. Escaping makes a pattern that is read as the characters of the text
one after another, and what it matches is equal to the text up to case.
-/
namespace Engagements

namespace Regex

/-! The places that are flagged in a row. -/

def Flagged (row : Row) (place : Nat) : Prop := row[place]? = some true

theorem any_iff_flagged (row : Row) : row.any id = true ↔ ∃ place, Flagged row place := by
  simp only [Flagged, List.any_eq_true, id_eq, exists_eq_right, List.mem_iff_getElem?]

theorem Flagged.lt_length {row : Row} {place : Nat} (flagged : Flagged row place) :
    place < row.length := (List.getElem?_eq_some_iff.mp flagged).1

theorem getElem?_gapsAfter (before : Option Char) (text : List Char) {place : Nat}
    (bound : place ≤ text.length) :
    (gapsAfter before text)[place]? =
      some ⟨if place = 0 then before else text[place - 1]?, text[place]?⟩ := by
  induction text generalizing before place with
  | nil =>
      obtain rfl : place = 0 := Nat.le_zero.mp bound
      rfl
  | cons c rest ih =>
      cases place with
      | zero => rfl
      | succ place =>
          rw [gapsAfter, List.getElem?_cons_succ, ih _ (Nat.le_of_succ_le_succ bound)]
          cases place <;> simp

@[simp] theorem length_gapsAfter (before : Option Char) (text : List Char) :
    (gapsAfter before text).length = text.length + 1 := by
  induction text generalizing before with
  | nil => rfl
  | cons c rest ih => simp [gapsAfter, ih]

@[simp] theorem length_gaps (text : List Char) : (gaps text).length = text.length + 1 :=
  length_gapsAfter none text

theorem flagged_start (text : List Char) (place : Nat) :
    Flagged ((gaps text).map fun _ => true) place ↔ place ≤ text.length := by
  rw [Flagged, List.getElem?_map, Option.map_eq_some_iff, ← Nat.lt_succ_iff, Nat.succ_eq_add_one,
    ← length_gaps]
  constructor
  · rintro ⟨gap, found, _⟩
    exact (List.getElem?_eq_some_iff.mp found).1
  · intro bound
    exact ⟨_, List.getElem?_eq_getElem bound, rfl⟩

theorem flagged_keep (test : Gap → Bool) (gaps : List Gap) (row : Row) (place : Nat) :
    Flagged (keep test gaps row) place ↔
      Flagged row place ∧ ∃ gap, gaps[place]? = some gap ∧ test gap = true := by
  rw [Flagged, keep, List.getElem?_zipWith, Flagged]
  cases gaps[place]? <;> cases row[place]? <;> simp

theorem length_keep (test : Gap → Bool) {gaps : List Gap} {row : Row}
    (same : row.length = gaps.length) : (keep test gaps row).length = gaps.length := by
  rw [keep, List.length_zipWith, same, Nat.min_self]

theorem flagged_shift (row : Row) (place : Nat) :
    Flagged (shift row) place ↔
      ∃ before, place = before + 1 ∧ before + 1 < row.length ∧ Flagged row before := by
  cases place with
  | zero => simp [Flagged, shift]
  | succ before =>
      rw [Flagged, shift, List.getElem?_cons_succ, List.getElem?_dropLast]
      by_cases bound : before < row.length - 1
      · have inside : before + 1 < row.length := by omega
        simp [Flagged, bound, inside]
      · have outside : ¬before + 1 < row.length := by omega
        simp [bound, outside]

theorem length_shift {row : Row} (some : 0 < row.length) : (shift row).length = row.length := by
  rw [shift, List.length_cons, List.length_dropLast]
  omega

/-! What the characters of a text match, one after another. -/

/-- Expressions one after another. -/
def inOrder : List Regex → Regex
  | [] => .empty
  | [only] => only
  | first :: rest => .sequence first (inOrder rest)

theorem inOrder_cons {first : Regex} {rest : List Regex} (more : rest ≠ []) :
    inOrder (first :: rest) = .sequence first (inOrder rest) := by
  cases rest with
  | nil => exact absurd rfl more
  | cons second rest => rfl

theorem ends_inOrder (gaps : List Gap) (parts : List Regex) (row : Row) :
    ends gaps (inOrder parts) row = parts.foldl (fun row part => ends gaps part row) row := by
  induction parts generalizing row with
  | nil => rfl
  | cons first rest ih =>
      cases rest with
      | nil => rfl
      | cons second rest =>
          rw [inOrder_cons (List.cons_ne_nil second rest), List.foldl_cons, ← ih]
          rfl

theorem length_ends_folded {text : List Char} {row : Row} (length : row.length = text.length + 1)
    (key : Char) : (ends (gaps text) (.folded key) row).length = text.length + 1 := by
  have kept := length_keep (fun gap => gap.after.any fun c => Unicode.foldCase c == key)
    (length.trans (length_gaps text).symm)
  rw [length_gaps] at kept
  rw [ends, length_shift (by omega), kept]

theorem flagged_ends_folded {text : List Char} {row : Row} (length : row.length = text.length + 1)
    (key : Char) (place : Nat) :
    Flagged (ends (gaps text) (.folded key) row) place ↔
      ∃ before c, place = before + 1 ∧ Flagged row before ∧ text[before]? = some c ∧
        Unicode.foldCase c = key := by
  rw [ends, flagged_shift, length_keep _ (length.trans (length_gaps text).symm), length_gaps]
  simp only [flagged_keep]
  constructor
  · rintro ⟨before, next, inside, flagged, gap, found, test⟩
    rw [gaps, getElem?_gapsAfter none text (by omega), Option.some.injEq] at found
    subst found
    have inside : before < text.length := by omega
    refine ⟨before, text[before], next, flagged, List.getElem?_eq_getElem inside, ?_⟩
    simpa [List.getElem?_eq_getElem inside] using test
  · rintro ⟨before, c, next, flagged, after, same⟩
    have inside := (List.getElem?_eq_some_iff.mp after).1
    refine ⟨before, next, by omega, flagged, _, getElem?_gapsAfter none text (by omega), ?_⟩
    simp [after, same]

/-- A match of folded characters covers as many characters of the text, which fold to them. -/
theorem flagged_ends_folds (text keys : List Char) {row : Row}
    (length : row.length = text.length + 1) (place : Nat) :
    Flagged ((keys.map folded).foldl (fun row part => ends (gaps text) part row) row) place ↔
      ∃ start, Flagged row start ∧ place = start + keys.length ∧
        ((text.drop start).take keys.length).map Unicode.foldCase = keys := by
  induction keys generalizing row with
  | nil => simp
  | cons key keys ih =>
      rw [List.map_cons, List.foldl_cons, ih (length_ends_folded length key)]
      simp only [flagged_ends_folded length, List.length_cons]
      constructor
      · rintro ⟨_, ⟨start, c, rfl, flagged, found, same⟩, ends, rest⟩
        refine ⟨start, flagged, by omega, ?_⟩
        obtain ⟨inside, here⟩ := List.getElem?_eq_some_iff.mp found
        rw [List.drop_eq_getElem_cons inside, List.take_succ_cons, List.map_cons, here, same, rest]
      · rintro ⟨start, flagged, ends, folds⟩
        have inside : start < text.length := by
          by_contra outside
          rw [List.drop_eq_nil_of_le (by omega)] at folds
          cases folds
        rw [List.drop_eq_getElem_cons inside, List.take_succ_cons, List.map_cons,
          List.cons.injEq] at folds
        exact ⟨start + 1, ⟨start, text[start], rfl, flagged, List.getElem?_eq_getElem inside,
          folds.1⟩, by omega, folds.2⟩

theorem length_ends_folds (text keys : List Char) {row : Row}
    (length : row.length = text.length + 1) :
    ((keys.map folded).foldl (fun row part => ends (gaps text) part row) row).length =
      text.length + 1 := by
  induction keys generalizing row with
  | nil => exact length
  | cons key keys ih => exact ih (length_ends_folded length key)

/-- From the start of a text to its end. -/
def whole (keys : List Char) : Regex :=
  inOrder (.look .textStart :: (keys.map folded ++ [.look .textEnd]))

/-- The places at the start of a text are the places where nothing is before. -/
theorem flagged_ends_textStart (text : List Char) (place : Nat) :
    Flagged (ends (gaps text) (.look .textStart) ((gaps text).map fun _ => true)) place ↔
      place = 0 := by
  rw [ends, flagged_keep, flagged_start]
  constructor
  · rintro ⟨bound, gap, found, first⟩
    rw [gaps, getElem?_gapsAfter none text bound, Option.some.injEq] at found
    subst found
    by_contra later
    simp only [Look.holds, if_neg later, Option.isNone_iff_eq_none, List.getElem?_eq_none_iff]
      at first
    omega
  · rintro rfl
    exact ⟨Nat.zero_le _, _, getElem?_gapsAfter none text (Nat.zero_le _), rfl⟩

theorem flagged_ends_textEnd (text : List Char) {row : Row} (length : row.length = text.length + 1)
    (place : Nat) :
    Flagged (ends (gaps text) (.look .textEnd) row) place ↔
      Flagged row place ∧ place = text.length := by
  rw [ends, flagged_keep]
  refine and_congr_right fun flagged => ?_
  have bound : place ≤ text.length := by
    have inside := flagged.lt_length
    omega
  rw [gaps, getElem?_gapsAfter none text bound]
  simp only [Option.some.injEq, exists_eq_left', Look.holds, Option.isNone_iff_eq_none,
    List.getElem?_eq_none_iff]
  omega

theorem occursIn_whole (keys : List Char) (text : String) :
    (whole keys).occursIn text = true ↔ text.toList.map Unicode.foldCase = keys := by
  rw [occursIn, whole, ends_inOrder, List.foldl_cons, List.foldl_append, any_iff_flagged]
  generalize text.toList = text
  have length : (ends (gaps text) (.look .textStart)
      ((gaps text).map fun _ => true)).length = text.length + 1 := by
    rw [ends, length_keep _ (by simp), length_gaps]
  simp only [List.foldl_cons, List.foldl_nil,
    flagged_ends_textEnd text (length_ends_folds text keys length),
    flagged_ends_folds text keys length, flagged_ends_textStart, exists_eq_left]
  constructor
  · rintro ⟨place, ⟨ended, folds⟩, last⟩
    rwa [List.drop_zero, List.take_of_length_le (by omega)] at folds
  · rintro rfl
    refine ⟨text.length, ⟨by simp, ?_⟩, rfl⟩
    rw [List.length_map, List.drop_zero, List.take_length]

/-! How an escaped text is read. -/

theorem escape?_of_isMeta (flags : Flags) {c : Char} (special : isMeta c = true)
    (rest : List Char) : escape? flags (c :: rest) = some (.literal c, rest) := by
  have ordinary : ∀ c ∈ metaCharacters, decide (c.isDigit = false ∧
      (decide (c = 'x') || decide (c = 'u') || decide (c = 'U')) = false ∧
      (decide (c = 'p') || decide (c = 'P')) = false ∧
      "dswDSW".toList.contains c = false) = true :=
    List.all_eq_true.mp (by decide +kernel)
  obtain ⟨noDigit, noNumber, noProperty, noClass⟩ :=
    of_decide_eq_true (ordinary c (List.contains_iff_mem.mp special))
  have escapable : isEscapable c = true := by rw [isEscapable, special, Bool.true_or]
  simp only [escape?, noDigit, noNumber, noProperty, noClass, escapable, Bool.false_eq_true,
    if_false, if_true]

namespace Reader

theorem stepPattern?_of_not_isMeta (reader : Reader) {c : Char} (plain : isMeta c = false)
    (rest : List Char) :
    reader.stepPattern? c rest = some (reader.pushPart (.literal c), rest) := by
  unfold stepPattern?
  split
  case h_13 => rfl
  all_goals exact absurd plain (by decide +kernel)

/-- A reader in a pattern outside of brackets, with no white space to skip. -/
structure Plain (reader : Reader) : Prop where
  outside : reader.brackets = []
  solid : reader.flags.spaced = false

theorem Plain.pushPart {reader : Reader} (plain : reader.Plain) (part : Part) :
    (reader.pushPart part).Plain := ⟨plain.outside, plain.solid⟩

theorem Plain.run_succ {reader : Reader} (plain : reader.Plain) (fuel : Nat) (c : Char)
    (rest : List Char) :
    run (fuel + 1) reader (c :: rest) =
      (reader.stepPattern? c rest).bind fun step => run fuel step.1 step.2 := by
  simp only [run, plain.solid, skip, Bool.false_eq_true, if_false, step?, plain.outside,
    List.isEmpty_nil, if_true]
  cases reader.stepPattern? c rest with
  | none => rfl
  | some step => rfl

theorem Plain.run_escaped {reader : Reader} (plain : reader.Plain) (fuel : Nat) (c : Char)
    (rest : List Char) :
    run (fuel + 1) reader ((if isMeta c then ['\\', c] else [c]) ++ rest) =
      run fuel (reader.pushPart (.literal c)) rest := by
  by_cases special : isMeta c = true
  · rw [if_pos special, List.cons_append, List.cons_append, List.nil_append, plain.run_succ]
    simp only [stepPattern?, escape?_of_isMeta _ special, Option.map_some, Option.bind_some]
  · rw [if_neg special, List.cons_append, List.nil_append, plain.run_succ,
      stepPattern?_of_not_isMeta reader (Bool.not_eq_true _ ▸ special), Option.bind_some]

/-- A text whose characters are each read in one step is read as these characters. -/
theorem Plain.run_units {unit : Char → List Char}
    (step : ∀ reader : Reader, reader.Plain → ∀ fuel c rest,
      run (fuel + 1) reader (unit c ++ rest) = run fuel (reader.pushPart (.literal c)) rest)
    {reader : Reader} (plain : reader.Plain) (fuel : Nat) (text rest : List Char) :
    run (text.length + fuel) reader (text.flatMap unit ++ rest) =
      run fuel (text.foldl (fun reader c => reader.pushPart (.literal c)) reader) rest := by
  induction text generalizing reader with
  | nil => rw [List.length_nil, Nat.zero_add]; rfl
  | cons c text ih =>
      rw [List.flatMap_cons, List.append_assoc, List.length_cons, Nat.add_right_comm,
        step reader plain, ih (plain.pushPart _)]
      rfl

/-- An escaped text is read as its characters, one step for each. -/
theorem Plain.run_escapeChars {reader : Reader} (plain : reader.Plain) (fuel : Nat)
    (text rest : List Char) :
    run (text.length + fuel) reader (escapeChars text ++ rest) =
      run fuel (text.foldl (fun reader c => reader.pushPart (.literal c)) reader) rest :=
  plain.run_units (fun _ plain => plain.run_escaped) fuel text rest

theorem foldl_pushPart (reader : Reader) (parts : List Part) :
    parts.foldl pushPart reader =
      { reader with
        pieces := ((parts.map (partRegex reader.flags)).map Piece.plain).reverse
          ++ reader.pieces } := by
  induction parts generalizing reader with
  | nil => rfl
  | cons part parts ih =>
      rw [List.foldl_cons, ih]
      simp [pushPart, push]

end Reader

theorem inOrder_append_singleton (front : List Regex) (last : Regex) :
    inOrder (front ++ [last]) = front.foldr .sequence last := by
  induction front with
  | nil => rfl
  | cons first rest ih => rw [List.cons_append, inOrder_cons (by simp), ih, List.foldr_cons]

theorem deepest_plain (parts : List Regex) :
    Piece.deepest (parts.map Piece.plain) = 0 := by
  induction parts with
  | nil => rfl
  | cons part parts ih => exact ih

theorem regex_sequenceOf_plain (parts : List Regex) :
    (Piece.sequenceOf (parts.map Piece.plain).reverse).regex = inOrder parts := by
  rcases List.eq_nil_or_concat parts with rfl | ⟨front, last, rfl⟩
  · rfl
  · rw [List.concat_eq_append, inOrder_append_singleton, List.map_append, List.reverse_append,
      List.map_singleton, List.reverse_singleton, List.singleton_append]
    cases front with
    | nil => rfl
    | cons first front =>
        rw [Piece.sequenceOf, List.foldl_reverse, List.foldr_map]
        · rfl
        · simp

theorem depth_sequenceOf_plain_le (parts : List Regex) :
    (Piece.sequenceOf (parts.map Piece.plain).reverse).depth ≤ 1 := by
  have flat := deepest_plain parts.reverse
  rw [← List.map_reverse]
  generalize parts.reverse.map Piece.plain = pieces at flat
  match pieces with
  | [] => exact Nat.zero_le 1
  | [only] =>
      have none : only.depth = 0 := by simpa [Piece.deepest] using flat
      rw [Piece.sequenceOf, none]
      exact Nat.zero_le 1
  | last :: next :: earlier =>
      have nested : (Piece.sequenceOf (last :: next :: earlier)).depth =
          Piece.deepest (last :: next :: earlier) + 1 := rfl
      exact Nat.le_of_eq (nested.trans (congrArg (· + 1) flat))

/-- A pattern of plain parts is read as these parts in order. -/
theorem body_foldl_pushPart (caseless : Bool) (parts : List Part) :
    let body := (parts.foldl Reader.pushPart (Reader.start caseless)).body
    body.regex = inOrder (parts.map (Reader.partRegex (Reader.start caseless).flags)) ∧
      body.depth ≤ 1 := by
  rw [Reader.foldl_pushPart]
  simp only [Reader.start, Reader.body, Piece.eitherOf, List.append_nil]
  exact ⟨regex_sequenceOf_plain _, depth_sequenceOf_plain_le _⟩

theorem length_le_length_flatMap {unit : Char → List Char} (visible : ∀ c, unit c ≠ [])
    (text : List Char) : text.length ≤ (text.flatMap unit).length := by
  induction text with
  | nil => exact Nat.zero_le _
  | cons c text ih =>
      have some := List.length_pos_of_ne_nil (visible c)
      rw [List.flatMap_cons, List.length_append, List.length_cons]
      omega

theorem length_le_length_escapeChars (text : List Char) :
    text.length ≤ (escapeChars text).length :=
  length_le_length_flatMap (fun c => by split <;> exact List.cons_ne_nil _ _) text

/-- A pattern that is read as plain parts is parsed as these parts in order. -/
theorem parse?_of_run {pattern : String} {parts : List Part}
    (ran : Reader.run (pattern.toList.length + 1) (Reader.start true) pattern.toList =
      some (parts.foldl Reader.pushPart (Reader.start true))) :
    parse? true pattern =
      some (inOrder (parts.map (Reader.partRegex (Reader.start true).flags))) := by
  obtain ⟨regex, depth⟩ := body_foldl_pushPart true parts
  have shallow := Nat.le_trans depth (show 1 ≤ depthLimit by decide)
  have closed : (parts.foldl Reader.pushPart (Reader.start true)).groups = [] ∧
      (parts.foldl Reader.pushPart (Reader.start true)).brackets = [] := by
    rw [Reader.foldl_pushPart]
    exact ⟨rfl, rfl⟩
  simp only [parse?, ran, closed, shallow, regex]
  simp

def partsOf (text : List Char) : List Part :=
  .look .textStart :: (text.map .literal ++ [.look .textEnd])

theorem run_exactly (text : List Char) :
    Reader.run ((escapeChars text).length + 3) (Reader.start true)
        ('^' :: (escapeChars text ++ ['$'])) =
      some ((partsOf text).foldl Reader.pushPart (Reader.start true)) := by
  obtain ⟨extra, longer⟩ := Nat.exists_eq_add_of_le (length_le_length_escapeChars text)
  have start : (Reader.start true).Plain := ⟨rfl, rfl⟩
  have first := start.pushPart (.look .textStart)
  have read := Reader.foldl_pushPart ((Reader.start true).pushPart (.look .textStart))
    (text.map .literal)
  rw [List.foldl_map] at read
  rw [show (escapeChars text).length + 3 = text.length + (extra + 2) + 1 by omega, start.run_succ]
  refine (first.run_escapeChars _ text ['$']).trans ?_
  rw [partsOf, List.foldl_cons, List.foldl_append, List.foldl_map, read]
  rfl

theorem parse?_exactly (text : String) :
    parse? true (Pattern.exactly text).source =
      some (whole (text.toList.map Unicode.foldCase)) := by
  have source : (Pattern.exactly text).source.toList =
      '^' :: (escapeChars text.toList ++ ['$']) := by
    simp [Pattern.exactly, escape]
  have fuel : ('^' :: (escapeChars text.toList ++ ['$'])).length + 1 =
      (escapeChars text.toList).length + 3 := by
    simp
  have folds : (partsOf text.toList).map (Reader.partRegex (Reader.start true).flags) =
      .look .textStart :: ((text.toList.map Unicode.foldCase).map folded ++ [.look .textEnd]) := by
    rw [partsOf, List.map_cons, List.map_append, List.map_map, List.map_map]
    rfl
  rw [parse?_of_run (by rw [source, fuel, run_exactly]), folds, whole]

end Regex

/-- What two texts have in common that are equal up to case. -/
def Text.caseFolded (text : String) : List Char := text.toList.map Unicode.foldCase

theorem Pattern.occursIn_exactly (text found : String) :
    (Pattern.exactly text).occursIn found = true ↔
      Text.caseFolded found = Text.caseFolded text := by
  rw [Pattern.occursIn, Pattern.regex?, Regex.parse?_exactly, Option.any_some,
    Regex.occursIn_whole, Text.caseFolded, Text.caseFolded]

end Engagements
