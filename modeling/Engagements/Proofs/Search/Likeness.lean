import Engagements.Proofs.Regex.Room
import Engagements.Proofs.Search.Component
import Engagements.Proofs.Search.Equality
import Mathlib.Data.List.DropRight

/-!
Components that ask for the texts that are like a pattern, or for all others. Both are read with the
name that they begin with and the text behind the words, whatever stands in these.
-/
namespace Engagements

namespace Unicode

/-! Folding moves no white space. -/

set_option maxRecDepth 30000 in
theorem blank_foldShifts : ∀ shift ∈ foldShifts, ∀ span ∈ Text.blankSpans,
    span.last < shift.first ∨ shift.last < span.first := by
  rw [foldShifts, Shift.readAll_of_chars rfl]
  decide +kernel

theorem foldCase_of_isBlank {c : Char} (blank : Property.isBlank c = true) : foldCase c = c := by
  rw [Text.isBlank_char] at blank
  obtain ⟨span, listed, inside⟩ := List.any_eq_true.mp blank
  simp only [Span.contains, Bool.and_eq_true, decide_eq_true_eq] at inside
  by_cases ascii : c.toNat < 128
  · have spans : ∀ span ∈ Text.blankSpans, 128 ≤ span.first ∨ span.last < 'A'.toNat := by decide
    have place := spans span listed
    exact foldCase_of_early (by omega)
  · have unmoved : foldShifts.find? (fun shift => shift.covers c.toNat) = none := by
      refine List.find?_eq_none.mpr fun shift member covered => ?_
      simp only [Shift.covers, Bool.and_eq_true, decide_eq_true_eq] at covered
      have apart := blank_foldShifts shift member span listed
      omega
    rw [foldCase, if_neg ascii, Shift.applyFirst, unmoved]

end Unicode

namespace Search

variable {name word cs rest value : List Char}

/-! Names and words are visible. -/

theorem isNameChar_space : Component.isNameChar ' ' = false := by
  rw [isNameChar_of_ascii (by decide)]
  decide

theorem isBlank_space : Unicode.Property.isBlank ' ' = true := by
  rw [Text.isBlank_char]
  decide

theorem isBlank_of_isNameStart {c : Char} (first : Component.isNameStart c = true) :
    Unicode.Property.isBlank c = false := by
  by_contra blank
  rw [Bool.not_eq_false] at blank
  rw [Component.isNameStart, Unicode.foldCase_of_isBlank blank] at first
  rw [Text.isBlank_char] at blank
  obtain ⟨span, listed, inside⟩ := List.any_eq_true.mp blank
  have spans : ∀ span ∈ Text.blankSpans, span.last < '_'.toNat ∨ 'z'.toNat < span.first := by
    decide
  have place := spans span listed
  simp only [Bool.or_eq_true, Bool.and_eq_true, decide_eq_true_eq, beq_iff_eq,
    Unicode.Span.contains] at first inside
  rcases first with ⟨low, high⟩ | rfl
  · have low : 'a'.toNat ≤ c.toNat := low
    have high : c.toNat ≤ 'z'.toNat := high
    have letters : '_'.toNat ≤ 'a'.toNat := by decide
    omega
  · have sign : '_'.toNat ≤ 'z'.toNat := by decide
    omega

/-- What begins with a name begins with a visible character. -/
theorem begins_of_isName (named : isName name = true) (rest : List Char) :
    Text.skipBlank (name ++ rest) = name ++ rest ∧
      (name ++ rest).all Unicode.Property.isBlank = false := by
  cases name with
  | nil => cases named
  | cons c others =>
      have visible := isBlank_of_isNameStart (Bool.and_eq_true_iff.mp named).1
      rw [Text.skipBlank_eq_self_iff]
      exact ⟨by simpa using visible, by simp [visible]⟩

/-- A word is found in front, in any case. -/
theorem keyword?_eq_some_iff :
    Component.keyword? word cs = some rest ↔
      ∃ front, cs = front ++ rest ∧ front.map Unicode.foldCase = word := by
  induction word generalizing cs with
  | nil =>
      constructor
      · intro found
        exact ⟨[], Option.some.inj found, rfl⟩
      · rintro ⟨front, rfl, folded⟩
        rw [List.map_eq_nil_iff.mp folded]
        rfl
  | cons letter letters ih =>
      cases cs with
      | nil =>
          constructor
          · intro found
            cases found
          · rintro ⟨front, split, folded⟩
            rw [(List.append_eq_nil_iff.mp split.symm).1] at folded
            cases folded
      | cons c cs =>
          rw [Component.keyword?]
          constructor
          · intro found
            split at found
            · rename_i same
              obtain ⟨front, rfl, folded⟩ := ih.mp found
              exact ⟨c :: front, rfl, by rw [List.map_cons, same, folded]⟩
            · cases found
          · rintro ⟨front, split, folded⟩
            cases front with
            | nil => cases folded
            | cons d front =>
                obtain ⟨rfl, rfl⟩ := List.cons.inj split
                obtain ⟨same, folded⟩ := List.cons.inj folded
                rw [if_pos same]
                exact ih.mpr ⟨front, rfl, folded⟩

/-- Whether a word has no white space in it. -/
def isVisible (word : List Char) : Bool := word.all fun c => !Text.blankSpans.any (·.contains c)

theorem not_isBlank_of_folded {front : List Char} (visible : isVisible word = true)
    (folded : front.map Unicode.foldCase = word) :
    ∀ c ∈ front, Unicode.Property.isBlank c = false := by
  intro c member
  by_contra blank
  rw [Bool.not_eq_false] at blank
  have inside : c ∈ word := by
    rw [← folded, ← Unicode.foldCase_of_isBlank blank]
    exact List.mem_map_of_mem member
  have seen := List.all_eq_true.mp visible c inside
  rw [← Text.isBlank_char, blank] at seen
  cases seen

theorem blank?_space (rest : List Char) :
    Component.blank? (' ' :: rest) = some (Text.skipBlank rest) := by
  rw [Component.blank?, isBlank_space, if_pos rfl]

theorem eq_skipBlank_of_blank? (found : Component.blank? cs = some rest) :
    rest = Text.skipBlank cs := by
  cases cs with
  | nil => cases found
  | cons c cs =>
      rw [Component.blank?] at found
      split at found
      · rename_i blank
        rw [← Option.some.inj found]
        exact (List.dropWhile_cons_of_pos blank).symm
      · cases found

theorem trimChars_skipBlank (text : List Char) :
    Text.trimChars (Text.skipBlank text) = Text.trimChars text := by
  have again : Text.skipBlank (Text.skipBlank text) = Text.skipBlank text :=
    List.dropWhile_idempotent _ _
  rw [Text.trimChars, again, Text.trimChars]

/-- A last word leaves nothing else of a text that is trimmed. -/
theorem visible_of_lastKeyword? {letters : String} (visible : isVisible letters.toList = true)
    (found : Component.lastKeyword? letters (' ' :: value) = some ()) :
    ∀ c ∈ Text.trimChars value, Unicode.Property.isBlank c = false := by
  rw [Component.lastKeyword?, blank?_space, Option.bind_some] at found
  obtain ⟨rest, worded, found⟩ := Option.bind_eq_some_iff.mp found
  obtain ⟨front, split, folded⟩ := keyword?_eq_some_iff.mp worded
  have blank : Text.skipBlank rest = [] := by
    by_contra other
    rw [if_neg other] at found
    cases found
  have behind : ∀ c ∈ rest.reverse, Unicode.Property.isBlank c = true := by
    intro c member
    exact List.dropWhile_eq_nil_iff.mp blank c (List.mem_reverse.mp member)
  intro c member
  rw [Text.trimChars, split, List.reverse_append, List.mem_reverse, Text.skipBlank,
    List.dropWhile_append_of_pos behind] at member
  have inside := List.mem_reverse.mp ((List.dropWhile_sublist _).mem member)
  exact not_isBlank_of_folded visible folded c inside

/-! The two forms. -/

/-- The words `like` and `not` with what stands behind them. -/
def likeChars (value : List Char) : List Char := 'l' :: 'i' :: 'k' :: 'e' :: ' ' :: value

def notChars (rest : List Char) : List Char := 'n' :: 'o' :: 't' :: ' ' :: rest

theorem skipBlank_like (value : List Char) :
    Text.skipBlank (likeChars value) = likeChars value ∧
      Text.skipBlank (notChars value) = notChars value := by
  simp only [Text.skipBlank_eq_self_iff, likeChars, notChars, List.head?_cons, Option.mem_some_iff,
    forall_eq', Text.isBlank_char]
  decide

theorem keyword?_like (value : List Char) :
    Component.keyword? "like".toList (likeChars value) = some (' ' :: value) ∧
      Component.keyword? "not".toList (likeChars value) = none ∧
      Component.keyword? "exists".toList (likeChars value) = none ∧
      Component.keyword? "not".toList (notChars value) = some (' ' :: value) :=
  ⟨rfl, if_neg (by decide), if_neg (by decide), rfl⟩

theorem name?_like (value : List Char) :
    Component.name? (likeChars value) = some ("like".toList, ' ' :: value) := by
  have named : isName "like".toList = true := isName_of_isKey (by decide)
  exact name?_of_isName named isNameChar_space value

/-- The second name in a component of likeness is followed by the rest of the component. -/
theorem name?_skipBlank {tail : List Char}
    (inside : ∀ c ∈ tail, Component.isNameChar c = true) {behind : List Char}
    (found : Component.name? (Text.skipBlank (tail ++ ' ' :: likeChars value)) =
      some (name, behind)) :
    behind = ' ' :: likeChars value ∨ behind = ' ' :: value := by
  induction tail with
  | nil =>
      have begins : Text.skipBlank (' ' :: likeChars value) = likeChars value :=
        (List.dropWhile_cons_of_pos isBlank_space).trans (skipBlank_like value).1
      rw [List.nil_append, begins, name?_like] at found
      exact Or.inr (Prod.mk.inj (Option.some.inj found)).2.symm
  | cons c tail ih =>
      obtain ⟨_, others⟩ := List.forall_mem_cons.mp inside
      by_cases blank : Unicode.Property.isBlank c = true
      · have next : Text.skipBlank (c :: (tail ++ ' ' :: likeChars value)) =
            Text.skipBlank (tail ++ ' ' :: likeChars value) := List.dropWhile_cons_of_pos blank
        rw [List.cons_append, next] at found
        exact ih others found
      · have kept : Text.skipBlank (c :: (tail ++ ' ' :: likeChars value)) =
            c :: (tail ++ ' ' :: likeChars value) := List.dropWhile_cons_of_neg blank
        rw [List.cons_append, kept] at found
        by_cases first : Component.isNameStart c = true
        · have named : isName (c :: tail) = true := by
            rw [isName, first, List.all_eq_true.mpr others]
            rfl
          have whole := name?_of_isName named isNameChar_space (likeChars value)
          rw [List.cons_append, found] at whole
          exact Or.inl (Prod.mk.inj (Option.some.inj whole)).2
        · rw [Component.name?, if_neg first] at found
          cases found

/-- A visible word in front of a name and white space ends within the name. -/
theorem exists_tail_of_keyword? (some : word ≠ []) (visible : isVisible word = true)
    (found : Component.keyword? word (name ++ ' ' :: cs) = Option.some rest) :
    ∃ tail, tail <:+ name.tail ∧ rest = tail ++ ' ' :: cs := by
  obtain ⟨front, split, folded⟩ := keyword?_eq_some_iff.mp found
  cases front with
  | nil => exact absurd folded.symm some
  | cons c front =>
      rcases List.append_eq_append_iff.mp split with ⟨more, whole, behind⟩ | ⟨tail, rfl, behind⟩
      · cases more with
        | nil => exact ⟨[], List.nil_suffix, behind.symm⟩
        | cons d more =>
            obtain ⟨rfl, _⟩ := List.cons.inj behind
            have seen := not_isBlank_of_folded visible folded ' ' (by simp [whole])
            rw [isBlank_space] at seen
            cases seen
      · exact ⟨tail, List.suffix_append _ _, behind⟩

/-- The question whether a field is missing has no room for the word in the middle, except as the
name of the field. -/
theorem notFieldExists?_like (named : isName name = true) (lines : '\n' ∈ Text.trimChars value) :
    Component.notFieldExists? (name ++ ' ' :: likeChars value) = none := by
  by_contra other
  obtain ⟨component, made⟩ := Option.ne_none_iff_exists'.mp other
  simp only [Component.notFieldExists?, Option.bind_eq_bind, Option.bind_eq_some_iff] at made
  obtain ⟨rest, negated, begun, blank, ⟨field, behind⟩, second, _, last, _⟩ := made
  obtain ⟨tail, suffix, rfl⟩ := exists_tail_of_keyword? (by decide) (by decide) negated
  have inside : ∀ c ∈ tail, Component.isNameChar c = true := by
    intro c member
    cases name with
    | nil => cases named
    | cons d others =>
        exact List.all_eq_true.mp (Bool.and_eq_true_iff.mp named).2 c (suffix.subset member)
  rw [eq_skipBlank_of_blank? blank] at second
  rcases name?_skipBlank inside second with rfl | rfl
  · rw [Component.lastKeyword?, blank?_space, Option.bind_some, (skipBlank_like value).1,
      (keyword?_like value).2.2.1] at last
    cases last
  · have seen := visible_of_lastKeyword? (by decide) last _ lines
    rw [Text.isBlank_char] at seen
    cases seen

/-- Likeness is read as such, unless the text goes over a line. -/
theorem read?_like {text : String} (written : text.toList = name ++ ' ' :: likeChars value)
    (named : isName name = true) :
    Component.read? text =
      if '\n' ∈ Text.trimChars value then none else some (.like name (Text.trimChars value)) := by
  have split := name?_of_isName named isNameChar_space (likeChars value)
  have begins := (skipBlank_like value).1
  obtain ⟨like, negated, last, _⟩ := keyword?_like value
  have sign : Text.skipBlank (' ' :: likeChars value) = likeChars value :=
    (List.dropWhile_cons_of_pos isBlank_space).trans begins
  have shown : Component.patternText? (Text.skipBlank value) =
      if '\n' ∈ Text.trimChars value then none else some (Text.trimChars value) := by
    rw [Component.patternText?, trimChars_skipBlank]
    simp only [List.contains_iff_mem]
  rw [Component.read?, written, (begins_of_isName named _).1]
  by_cases lines : '\n' ∈ Text.trimChars value
  · simp only [Component.unlike?, Component.like?, notFieldExists?_like named lines,
      Component.fieldNotExists?, Component.exists?, Component.equals?, Component.spacedKeyword?,
      Component.lastKeyword?, Option.bind_eq_bind, Option.bind_some, Option.bind_none, split,
      blank?_space, begins, like, negated, last, sign, shown, lines, if_true]
    rfl
  · simp only [Component.unlike?, Component.like?, Component.spacedKeyword?, Option.bind_eq_bind,
      Option.bind_some, Option.bind_none, split, blank?_space, begins, like, negated, shown, lines,
      if_false]
    rfl

theorem read?_unlike {text : String}
    (written : text.toList = name ++ ' ' :: notChars (likeChars value))
    (named : isName name = true) (singleLine : '\n' ∉ Text.trimChars value) :
    Component.read? text = some (.unlike name (Text.trimChars value)) := by
  have split := name?_of_isName named isNameChar_space (notChars (likeChars value))
  have begins := (skipBlank_like value).1
  have negation := (skipBlank_like (likeChars value)).2
  have shown : Component.patternText? (Text.skipBlank value) = some (Text.trimChars value) := by
    rw [Component.patternText?, trimChars_skipBlank]
    simp only [List.contains_iff_mem, singleLine, if_false]
  obtain ⟨_, _, _, negated⟩ := keyword?_like (likeChars value)
  rw [Component.read?, written, (begins_of_isName named _).1]
  simp only [Component.unlike?, Component.spacedKeyword?, Option.bind_eq_bind, Option.bind_some,
    split, blank?_space, begins, negation, negated, (keyword?_like value).1, shown]
  rfl

/-! What a search for one of them comes to. -/

theorem plain_of_isName (named : isName name = true) : ∀ c ∈ name, c ≠ '&' ∧ c ≠ '\\' := by
  have other : ∀ stop ∈ ['&', '\\'],
      Component.isNameStart stop = false ∧ Component.isNameChar stop = false := by
    refine List.forall_mem_cons.mpr ⟨?_, List.forall_mem_singleton.mpr ?_⟩
    · rw [isNameChar_of_ascii (by decide)]
      decide
    · rw [isNameChar_of_ascii (by decide)]
      decide
  have apart : ∀ c ∈ name, Component.isNameStart c = true ∨ Component.isNameChar c = true := by
    cases name with
    | nil => cases named
    | cons first rest =>
        obtain ⟨start, inside⟩ := Bool.and_eq_true_iff.mp named
        exact List.forall_mem_cons.mpr
          ⟨Or.inl start, fun c member => Or.inr (List.all_eq_true.mp inside c member)⟩
  intro c member
  constructor <;> rintro rfl <;> rcases apart _ member with start | inside <;> simp_all

theorem splitUnescaped_append {front value : String}
    (plain : ∀ c ∈ front.toList, c ≠ '&' ∧ c ≠ '\\') (single : splitUnescaped '&' value = [value]) :
    splitUnescaped '&' (front ++ value) = [front ++ value] := by
  obtain ⟨piece, split, same⟩ := List.map_eq_singleton_iff.mp single
  rw [← same, String.toList_ofList] at split
  have together := (splitUnescapedChars_of_plain plain split).1
  rw [← same, splitUnescaped, String.toList_append, String.toList_ofList, together,
    List.map_singleton, String.ofList_append, String.ofList_toList]

variable {field value : String}

theorem toList_like (field value : String) :
    (field ++ " like " ++ value).toList = field.toList ++ ' ' :: likeChars value.toList ∧
      (field ++ " not like " ++ value).toList =
        field.toList ++ ' ' :: notChars (likeChars value.toList) := by
  simp [likeChars, notChars]

theorem splitUnescaped_like (named : isName field.toList = true)
    (single : splitUnescaped '&' value = [value]) :
    splitUnescaped '&' (field ++ " like " ++ value) = [field ++ " like " ++ value] ∧
      splitUnescaped '&' (field ++ " not like " ++ value) = [field ++ " not like " ++ value] := by
  have plain : ∀ words ∈ [" like ", " not like "], ∀ c ∈ (field ++ words).toList,
      c ≠ '&' ∧ c ≠ '\\' := by
    intro words listed c member
    rw [String.toList_append] at member
    rcases List.mem_append.mp member with name | word
    · exact plain_of_isName named c name
    · have letters : ([" like ", " not like "].all fun words =>
          words.toList.all fun c => c != '&' && c != '\\') = true := by
        decide
      simpa using List.all_eq_true.mp (List.all_eq_true.mp letters words listed) c word
  exact ⟨splitUnescaped_append (plain _ (by simp)) single,
    splitUnescaped_append (plain _ (by simp)) single⟩

/-- A single piece with a pattern is all that the text asks for. -/
theorem read_of_pattern (today : Date) {text : String} (single : splitUnescaped '&' text = [text])
    {found : Result Pattern} {make : Pattern → Predicate}
    (plain : ∀ pattern, (make pattern).conjuncts = [make pattern])
    (added : Progress.start.addPiece text =
      found.map fun pattern => Progress.start.add (make pattern)) :
    read today text = found.map fun pattern => ⟨some (make pattern), []⟩ := by
  rw [read, single, List.foldlM_cons, added]
  cases found with
  | error error => rfl
  | ok pattern =>
      have whole : Predicate.allOf [make pattern] = some (make pattern) := by
        simp [Predicate.allOf, plain]
      exact congrArg (fun predicate => Except.ok (Expression.mk predicate [])) whole

theorem read_like (today : Date) (named : isName field.toList = true)
    (single : splitUnescaped '&' value = [value]) :
    read today (field ++ " like " ++ value) =
      if '\n' ∈ Text.trimChars value.toList then .ok ⟨none, [field ++ " like " ++ value]⟩
      else (readPattern field (Text.trimChars value.toList)).map fun pattern =>
        ⟨some (.like field pattern), []⟩ := by
  have written := (toList_like field value).1
  have whole := (splitUnescaped_like named single).1
  have visible : Text.isBlank (field ++ " like " ++ value) = false := by
    rw [Text.isBlank, written, (begins_of_isName named _).2]
  have form := read?_like written named
  split_ifs with lines
  · rw [if_pos lines] at form
    rw [read, whole, List.foldlM_cons, Progress.addPiece, visible, form]
    rfl
  · rw [if_neg lines] at form
    refine read_of_pattern today whole (fun _ => rfl) ?_
    rw [Progress.addPiece, visible, form]
    simp only [Bool.false_eq_true, if_false, Progress.addComponent, String.ofList_toList]
    cases readPattern field (Text.trimChars value.toList) <;> rfl

theorem read_unlike (today : Date) (named : isName field.toList = true)
    (single : splitUnescaped '&' value = [value]) (line : '\n' ∉ Text.trimChars value.toList) :
    read today (field ++ " not like " ++ value) =
      (readPattern field (Text.trimChars value.toList)).map fun pattern =>
        ⟨some (.unlike field pattern), []⟩ := by
  have written := (toList_like field value).2
  have visible : Text.isBlank (field ++ " not like " ++ value) = false := by
    rw [Text.isBlank, written, (begins_of_isName named _).2]
  refine read_of_pattern today (splitUnescaped_like named single).2 (fun _ => rfl) ?_
  rw [Progress.addPiece, visible, read?_unlike written named line]
  simp only [Bool.false_eq_true, if_false, Progress.addComponent, String.ofList_toList]
  cases readPattern field (Text.trimChars value.toList) <;> rfl

end Search

end Engagements
