import Engagements.Proofs.Predicate
import Engagements.Proofs.Search.Component
import Engagements.Proofs.Search.Pieces
import Engagements.Proofs.Search.Reading

/-!
Conditions of equality that are written into a search text are read back as they are, if their
values can be written at all.
-/
namespace Engagements.Search

/-- A value with a backslash before each ampersand. -/
def escapedChars (value : List Char) : List Char :=
  value.flatMap fun c => if c = '&' then ['\\', '&'] else [c]

/-- The component that asks for a value of a field. -/
def equality (field value : String) : String :=
  field ++ "=" ++ String.ofList (escapedChars value.toList)

theorem escapedChars_cons (c : Char) (value : List Char) :
    escapedChars (c :: value) =
      if c = '&' then '\\' :: '&' :: escapedChars value else c :: escapedChars value := by
  rw [escapedChars, List.flatMap_cons, ← escapedChars]
  split <;> rfl

theorem unescapeChars_escapedChars (value : List Char) :
    unescapeChars (escapedChars value) = value := by
  induction value with
  | nil => rfl
  | cons c value ih =>
      rw [escapedChars_cons]
      split
      · rename_i ampersand
        rw [unescapeChars, ih, ampersand]
      · rename_i plain
        have kept : unescapeChars (c :: escapedChars value) =
            c :: unescapeChars (escapedChars value) := by
          rw [unescapeChars]
          rintro rest rfl begins
          cases value with
          | nil => cases begins
          | cons next value =>
              rw [escapedChars_cons] at begins
              split at begins
              · cases begins
              · rename_i different
                exact different (List.cons.inj begins).1
        rw [kept, ih]

/-! An escaped value is one piece if no backslash stands in the way of its escapes. -/

/-- Whether no ampersand of a text is escaped, read on from a place within or outside of an
escape. -/
def Apart (escaped : Bool) (text : List Char) : Prop :=
  ∀ front back, text = front ++ '&' :: back → endsEscaped escaped front = false

theorem Apart.tail {escaped : Bool} {c : Char} {text : List Char}
    (apart : Apart escaped (c :: text)) : Apart (!escaped && c == '\\') text :=
  fun front back split => apart (c :: front) back (by rw [split, List.cons_append])

theorem splitUnescapedChars_escapedChars {escaped : Bool} {value : List Char}
    (apart : Apart escaped value) :
    splitUnescapedChars '&' escaped (escapedChars value) = [escapedChars value] ∧
      endsEscaped escaped (escapedChars value) = endsEscaped escaped value := by
  induction value generalizing escaped with
  | nil => exact ⟨rfl, rfl⟩
  | cons c value ih =>
      obtain ⟨single, ends⟩ := ih apart.tail
      rw [escapedChars_cons]
      by_cases ampersand : c = '&'
      · subst ampersand
        have unescaped : escaped = false := apart [] value rfl
        subst unescaped
        simp at single ends
        simp [splitUnescapedChars, endsEscaped, single, ends]
      · rw [if_neg ampersand]
        simp [splitUnescapedChars, endsEscaped, single, ends, ampersand]

theorem splitUnescapedChars_of_plain {front rest : List Char}
    (plain : ∀ c ∈ front, c ≠ '&' ∧ c ≠ '\\')
    (single : splitUnescapedChars '&' false rest = [rest]) :
    splitUnescapedChars '&' false (front ++ rest) = [front ++ rest] ∧
      endsEscaped false (front ++ rest) = endsEscaped false rest := by
  induction front with
  | nil => exact ⟨single, rfl⟩
  | cons c front ih =>
      obtain ⟨⟨ampersand, slash⟩, others⟩ := List.forall_mem_cons.mp plain
      obtain ⟨together, ends⟩ := ih others
      have next : (!false && c == '\\') = false := by simp [slash]
      rw [List.cons_append, splitUnescapedChars, endsEscaped, next, together, ends]
      simp [ampersand]

/-! Equality of one field. -/

/-- The paths of the fields are keys in which nothing is escaped, and none is a key of a state. -/
theorem fields_are_plain_keys : ∀ field ∈ fields,
    isKey field.1.toList = true ∧
      (field.1.toList.all fun c => c != '&' && c != '\\') = true ∧
      Text.asciiLower field.1 ∉ ["state", "start", "end", "today"] := by decide +kernel

theorem isKey_fields (field : String × FieldKind) (member : field ∈ fields) :
    isKey field.1.toList = true := (fields_are_plain_keys field member).1

theorem plain_fields (field : String × FieldKind) (member : field ∈ fields) :
    (field.1.toList.all fun c => c != '&' && c != '\\') = true :=
  (fields_are_plain_keys field member).2.1

theorem free_fields (field : String × FieldKind) (member : field ∈ fields) :
    Text.asciiLower field.1 ∉ ["state", "start", "end", "today"] :=
  (fields_are_plain_keys field member).2.2

theorem mem_fields_of_kindOf? {field : String} {kind : FieldKind}
    (known : kindOf? field = some kind) : (field, kind) ∈ fields := by
  obtain ⟨before, after, split, _⟩ := List.lookup_eq_some_iff.mp known
  rw [split]
  simp

theorem toList_equality (field value : String) :
    (equality field value).toList = field.toList ++ '=' :: escapedChars value.toList := by
  simp [equality]

/-- Whether a value can be written into a search text. White space around it would be cut off, a
text over several lines has no form, and a backslash in front of an ampersand would escape the
backslash of this one. -/
structure Expressible (value : String) : Prop where
  trimmed : Text.trim value = value
  singleLine : '\n' ∉ value.toList
  apart : ∀ place < value.toList.length, value.toList[place]? = some '&' →
    Even (backslashesAtEnd (value.toList.take place))

variable {field value : String}

/-- Whether a text begins and ends with a visible character, if with any. -/
def isTrimmed (value : String) : Bool :=
  value.toList.head?.all (fun c => !Text.blankSpans.any (·.contains c)) &&
    value.toList.getLast?.all fun c => !Text.blankSpans.any (·.contains c)

theorem isTrimmed_iff (value : String) : isTrimmed value = true ↔ Text.trim value = value := by
  rw [Text.trim_eq_self_iff, isTrimmed, Bool.and_eq_true]
  simp only [Option.all_eq_true, Bool.not_eq_true', Text.isBlank_char, Option.mem_def]

/-- Whether every ampersand stands behind an even number of backslashes. -/
def isUnescaped (value : List Char) : Bool :=
  (List.range value.length).all fun place =>
    value[place]? != some '&' || backslashesAtEnd (value.take place) % 2 == 0

theorem isUnescaped_iff (value : List Char) :
    isUnescaped value = true ↔ ∀ place < value.length, value[place]? = some '&' →
      Even (backslashesAtEnd (value.take place)) := by
  simp only [isUnescaped, List.all_eq_true, List.mem_range, Bool.or_eq_true, bne_iff_ne, ne_eq,
    beq_iff_eq, ← Nat.even_iff, ← imp_iff_not_or]

instance (value : String) : Decidable (Expressible value) :=
  decidable_of_iff
    ((isTrimmed value && !value.toList.contains '\n' && isUnescaped value.toList) = true) (by
      rw [Bool.and_eq_true, Bool.and_eq_true, isTrimmed_iff, isUnescaped_iff, Bool.not_eq_true']
      constructor
      · rintro ⟨⟨trimmed, line⟩, apart⟩
        exact ⟨trimmed, by simpa using line, apart⟩
      · rintro ⟨trimmed, singleLine, apart⟩
        exact ⟨⟨trimmed, by simpa using singleLine⟩, apart⟩)

theorem Expressible.unescaped (expressible : Expressible value) : Apart false value.toList := by
  intro front back split
  have before := expressible.apart front.length (by simp [split]) (by simp [split])
  rw [split, List.take_left' rfl] at before
  exact (endsEscaped_eq_false_iff front).mpr before

variable {sort : FieldKind}

theorem visible_equality (kind : kindOf? field = some sort) (value : String) :
    Text.isBlank (equality field value) = false := by
  rw [Text.isBlank, toList_equality]
  exact visible_of_isKey (isKey_fields _ (mem_fields_of_kindOf? kind)) _

theorem read?_equality (kind : kindOf? field = some sort) (value : String) :
    Component.read? (equality field value) =
      if '\n' ∈ value.toList then none
      else some (.equals field.toList (escapedChars value.toList)) := by
  have line : '\n' ∈ escapedChars value.toList ↔ '\n' ∈ value.toList := by
    rw [escapedChars, List.mem_flatMap]
    constructor
    · rintro ⟨c, member, inside⟩
      split at inside
      · simp at inside
      · rwa [List.mem_singleton.mp inside]
    · exact fun member => ⟨_, member, by simp⟩
  rw [read?_of_isKey (toList_equality field value) (isKey_fields _ (mem_fields_of_kindOf? kind))]
  simp only [List.contains_iff_mem, line]

theorem trimChars_escapedChars (trimmed : Text.trim value = value) :
    Text.trimChars (escapedChars value.toList) = escapedChars value.toList := by
  obtain ⟨first, last⟩ := (Text.trim_eq_self_iff value).mp trimmed
  have slash : Unicode.Property.isBlank '\\' = false := by
    rw [Text.isBlank_char]
    decide
  refine (Text.trimChars_eq_self_iff _).mpr ⟨?_, ?_⟩
  · cases split : value.toList with
    | nil => exact nofun
    | cons c rest =>
        rw [split] at first
        rw [escapedChars_cons]
        split
        · simpa using slash
        · simpa using first
  · have same : (escapedChars value.toList).getLast? = value.toList.getLast? := by
      rcases List.eq_nil_or_concat value.toList with none | ⟨front, c, split⟩
      · rw [none]
        rfl
      · rw [split, List.concat_eq_append, escapedChars, List.flatMap_append,
          List.flatMap_singleton, List.getLast?_append]
        by_cases ampersand : c = '&' <;> simp [ampersand]
    rw [same]
    exact last

/-- A condition of equality is read back, with what its text stands for in the field. -/
theorem addPiece_equality (kind : kindOf? field = some sort) (trimmed : Text.trim value = value)
    (singleLine : '\n' ∉ value.toList) {meant : Value} (coerced : coerce field value = .ok meant) :
    Progress.start.addPiece (equality field value) =
      .ok (Progress.start.add (.equals field meant)) := by
  rw [Progress.addPiece, visible_equality kind, read?_equality kind, if_neg singleLine]
  simp only [Bool.false_eq_true, if_false, Progress.addComponent, trimChars_escapedChars trimmed,
    unescape, unescapeChars_escapedChars, String.ofList_toList]
  rw [Progress.addEquals_of_free (free_fields _ (mem_fields_of_kindOf? kind)), coerced]
  rfl

theorem coerce_string (kind : kindOf? field = some .string) (value : String) :
    coerce field value = .ok (.string value) := by
  rw [coerce, kind]
  rfl

theorem split_equality (kind : kindOf? field = some sort) (apart : Apart false value.toList) :
    splitUnescaped '&' (equality field value) = [equality field value] ∧
      endsEscaped false (equality field value).toList = endsEscaped false value.toList := by
  have plain : ∀ c ∈ field.toList ++ ['='], c ≠ '&' ∧ c ≠ '\\' := by
    intro c member
    rcases List.mem_append.mp member with name | sign
    · have plain := plain_fields _ (mem_fields_of_kindOf? kind)
      simpa using List.all_eq_true.mp plain c name
    · rw [List.mem_singleton.mp sign]
      decide
  obtain ⟨single, ends⟩ := splitUnescapedChars_escapedChars apart
  obtain ⟨single', ends'⟩ := splitUnescapedChars_of_plain plain single
  rw [List.append_assoc, List.singleton_append, ← toList_equality] at single' ends'
  rw [splitUnescaped, single', ends', ends]
  simp

theorem whole_equality (kind : kindOf? field = some sort) (expressible : Expressible value)
    (settled : Even (backslashesAtEnd value.toList)) : Whole (equality field value) := by
  obtain ⟨single, ends⟩ := split_equality kind expressible.unescaped
  exact ⟨single, ends.trans ((endsEscaped_eq_false_iff _).mpr settled)⟩

theorem read_equality (today : Date) (kind : kindOf? field = some sort)
    (expressible : Expressible value) {meant : Value} (coerced : coerce field value = .ok meant) :
    read today (equality field value) = .ok ⟨some (.equals field meant), []⟩ := by
  have added := addPiece_equality kind expressible.trimmed expressible.singleLine coerced
  rw [read, (split_equality kind expressible.unescaped).1, List.foldlM_cons, added]
  rfl

/-! Several conditions of equality. -/

def equalities (pairs : List (String × String)) : List String :=
  pairs.map fun pair => equality pair.1 pair.2

def conditionsOf (pairs : List (String × String)) : List Predicate :=
  pairs.map fun pair => .equals pair.1 (.string pair.2)

theorem foldlM_equalities {pairs : List (String × String)}
    (kinds : ∀ pair ∈ pairs, kindOf? pair.1 = some .string)
    (expressible : ∀ pair ∈ pairs, Expressible pair.2) (progress : Progress) :
    (equalities pairs).foldlM Progress.addPiece progress =
      .ok { progress with predicates := progress.predicates ++ conditionsOf pairs } := by
  induction pairs generalizing progress with
  | nil => simp [equalities, conditionsOf, pure, Except.pure]
  | cons pair pairs ih =>
      obtain ⟨kind, kinds⟩ := List.forall_mem_cons.mp kinds
      obtain ⟨value, values⟩ := List.forall_mem_cons.mp expressible
      have added : progress.addPiece (equality pair.1 pair.2) =
          .ok (progress.add (.equals pair.1 (.string pair.2))) := by
        rw [Progress.addPiece_eq, addPiece_equality kind value.trimmed value.singleLine
          (coerce_string kind pair.2), Except.map]
        simp [Progress.append, Progress.add, Progress.start]
      rw [equalities, List.map_cons, List.foldlM_cons, added]
      refine (ih kinds values _).trans ?_
      simp [Progress.add, conditionsOf]

theorem splitUnescaped_equalities {pairs : List (String × String)} (nonempty : pairs ≠ [])
    (kinds : ∀ pair ∈ pairs, kindOf? pair.1 = some .string)
    (expressible : ∀ pair ∈ pairs, Expressible pair.2)
    (settled : ∀ pair ∈ pairs.dropLast, Even (backslashesAtEnd pair.2.toList)) :
    splitUnescaped '&' (joined (equalities pairs)) = equalities pairs := by
  obtain ⟨front, last, split⟩ := (List.eq_nil_or_concat pairs).resolve_left nonempty
  rw [List.concat_eq_append] at split
  subst split
  rw [List.dropLast_concat] at settled
  rw [equalities, List.map_append, List.map_singleton]
  refine splitUnescaped_joined (fun component member => ?_) ?_
  · obtain ⟨pair, inside, rfl⟩ := List.mem_map.mp member
    have inside' := List.mem_append_left [last] inside
    exact whole_equality (kinds pair inside') (expressible pair inside') (settled pair inside)
  · exact (split_equality (kinds last (by simp)) (expressible last (by simp)).unescaped).1

theorem read_equalities (today : Date) (pairs : List (String × String)) (nonempty : pairs ≠ [])
    (kinds : ∀ pair ∈ pairs, kindOf? pair.1 = some .string)
    (expressible : ∀ pair ∈ pairs, Expressible pair.2)
    (settled : ∀ pair ∈ pairs.dropLast, Even (backslashesAtEnd pair.2.toList)) :
    read today (joined (equalities pairs)) =
      .ok ⟨Predicate.allOf (conditionsOf pairs), []⟩ := by
  rw [read, splitUnescaped_equalities nonempty kinds expressible settled,
    foldlM_equalities kinds expressible]
  have unset : Progress.start.temporal.predicates today = [] := rfl
  change Except.ok (Expression.mk (Predicate.allOf ([] ++ conditionsOf pairs ++
    Progress.start.temporal.predicates today)) []) = _
  rw [unset, List.append_nil, List.nil_append]

/-- Conditions of equality are read back from the text that they are written into, in their order,
if their values can be written and none but the last ends in an escape. -/
theorem equalities_read_back (today : Date) (pairs : List (String × String))
    (nonempty : pairs ≠ []) (kinds : ∀ pair ∈ pairs, kindOf? pair.1 = some .string)
    (expressible : ∀ pair ∈ pairs, Expressible pair.2)
    (settled : ∀ pair ∈ pairs.dropLast, Even (backslashesAtEnd pair.2.toList)) :
    let conditions : List Predicate := pairs.map fun pair => .equals pair.1 (.string pair.2)
    read today (joined (pairs.map fun pair => equality pair.1 pair.2)) =
        .ok ⟨Predicate.allOf conditions, []⟩ ∧
      (Predicate.allOf conditions).map Predicate.conjuncts = some conditions := by
  refine ⟨read_equalities today pairs nonempty kinds expressible settled, ?_⟩
  refine Predicate.conjuncts_allOf (by simpa using nonempty) fun predicate member => ?_
  obtain ⟨pair, _, rfl⟩ := List.mem_map.mp member
  rfl

/-- A company with an ampersand, a path that ends in a backslash, and both together. -/
def expressiblePairs : List (String × String) :=
  [("customerName", "Smith & Sons"), ("description", "C:\\\\&"), ("location", "\\")]

theorem names_with_ampersands_read_back :
    (∀ pair ∈ expressiblePairs, Expressible pair.2) ∧
      read ⟨2020, 6, 1⟩ "customerName=Smith \\& Sons&description=C:\\\\\\&&location=\\" =
        .ok ⟨some (.all [.equals "customerName" (.string "Smith & Sons"),
          .equals "description" (.string "C:\\\\&"), .equals "location" (.string "\\")]), []⟩ := by
  have expressible : ∀ pair ∈ expressiblePairs, Expressible pair.2 := by decide
  refine ⟨expressible, ?_⟩
  have read := (equalities_read_back ⟨2020, 6, 1⟩ expressiblePairs (by decide) (by decide)
    expressible (by decide)).1
  exact read

/-- A value over several lines leaves the text without a form, and it is reported. -/
theorem read_of_lines (today : Date) (kind : kindOf? field = some .string)
    (lines : '\n' ∈ value.toList) (apart : Apart false value.toList) :
    read today (equality field value) = .ok ⟨none, [equality field value]⟩ := by
  have reported : Progress.start.addPiece (equality field value) =
      .ok ⟨[], [equality field value], Progress.start.temporal⟩ := by
    rw [Progress.addPiece, visible_equality kind, read?_equality kind, if_pos lines]
    rfl
  rw [read, (split_equality kind apart).1, List.foldlM_cons, reported]
  rfl

/-- Conditions on fields of texts, with values that are trimmed, which are not read back. -/
def Lost (today : Date) (pairs : List (String × String)) : Prop :=
  pairs ≠ [] ∧ (∀ pair ∈ pairs, kindOf? pair.1 = some .string) ∧
    (∀ pair ∈ pairs, Text.trim pair.2 = pair.2) ∧
      read today (joined (pairs.map fun pair => equality pair.1 pair.2)) ≠
        .ok ⟨Predicate.allOf (pairs.map fun pair => .equals pair.1 (.string pair.2)), []⟩

/-- Conditions are lost if other ones have the same text and are read back. -/
theorem read_of_same_text (today : Date) {pairs others : List (String × String)}
    (same : joined (equalities pairs) = joined (equalities others)) (nonempty : others ≠ [])
    (kinds : ∀ pair ∈ others, kindOf? pair.1 = some .string)
    (expressible : ∀ pair ∈ others, Expressible pair.2)
    (settled : ∀ pair ∈ others.dropLast, Even (backslashesAtEnd pair.2.toList))
    (different : Predicate.allOf (conditionsOf pairs) ≠ Predicate.allOf (conditionsOf others)) :
    read today (joined (equalities pairs)) ≠
      .ok ⟨Predicate.allOf (conditionsOf pairs), []⟩ := by
  rw [same, read_equalities today others nonempty kinds expressible settled]
  intro again
  exact different (congrArg Expression.predicate (Except.ok.inj again)).symm

/-- A backslash at the end of a value that is not the last, one before an ampersand, and a line
feed. -/
theorem equalities_lost :
    Lost ⟨2020, 6, 1⟩ [("customerName", "a\\"), ("projectName", "b")] ∧
      Lost ⟨2020, 6, 1⟩ [("customerName", "a\\&projectName=b")] ∧
        Lost ⟨2020, 6, 1⟩ [("customerName", "a\nb")] := by
  simp only [Lost, ← isTrimmed_iff]
  refine ⟨⟨by decide, by decide, by decide, ?_⟩, ⟨by decide, by decide, by decide, ?_⟩,
    by decide, by decide, by decide, ?_⟩
  · refine read_of_same_text ⟨2020, 6, 1⟩ ?_
      (List.cons_ne_nil ("customerName", "a&projectName=b") []) (by decide) (by decide) (by decide) ?_
    · decide
    · simp [Predicate.allOf, conditionsOf, Predicate.conjuncts]
  · refine read_of_same_text ⟨2020, 6, 1⟩ ?_
      (List.cons_ne_nil ("customerName", "a\\\\") [("projectName", "b")])
      (by decide) (by decide) (by decide) ?_
    · decide
    · simp [Predicate.allOf, conditionsOf, Predicate.conjuncts]
  · have text : joined ([("customerName", "a\nb")].map fun pair => equality pair.1 pair.2) =
        equality "customerName" "a\nb" := by decide
    have apart : Apart false "a\nb".toList := by
      intro front back split
      have member : '&' ∈ "a\nb".toList := by
        rw [split]
        simp
      exact absurd member (by decide)
    rw [text, read_of_lines _ (by decide) (by decide) apart]
    simp

end Engagements.Search
