import Engagements.Proofs.Search.Calendar
import Engagements.Proofs.Search.Independence
import Engagements.Proofs.Search.Likeness

/-!
States in a search. As of any date an engagement that ends is in one state, and a search for several
states, however they are listed, is a choice between them.
-/
namespace Engagements

namespace Text

/-! Trimming what is joined by a visible separator. -/

variable {separator : Char} {entries : List (List Char)}

theorem reverse_intercalate (separator : Char) (entries : List (List Char)) :
    ([separator].intercalate entries).reverse =
      [separator].intercalate (entries.map List.reverse).reverse := by
  induction entries with
  | nil => rfl
  | cons entry entries ih =>
      by_cases none : entries = []
      · simp [none]
      · have some : (entries.map List.reverse).reverse ≠ [] := by simpa using none
        rw [List.intercalate_cons_of_ne_nil none, List.reverse_append, ih, List.map_cons,
          List.reverse_cons, intercalate_append separator some (List.cons_ne_nil _ _)]
        simp

theorem skipBlank_intercalate (visible : Unicode.Property.isBlank separator = false)
    (entry : List Char) (entries : List (List Char)) :
    skipBlank ([separator].intercalate (entry :: entries)) =
      [separator].intercalate (skipBlank entry :: entries) := by
  cases entries with
  | nil => simp
  | cons next entries =>
      simp only [List.intercalate_cons_cons, skipBlank, List.append_assoc, List.singleton_append,
        List.dropWhile_append, List.dropWhile_cons, visible, Bool.false_eq_true, if_false]
      split
      · rename_i empty
        rw [List.isEmpty_iff.mp empty, List.nil_append]
      · rfl

/-- Drops the white space at the end. -/
def trimEnd (text : List Char) : List Char := (skipBlank text.reverse).reverse

theorem trimChars_eq (text : List Char) : trimChars text = trimEnd (skipBlank text) := rfl

theorem trimEnd_intercalate (visible : Unicode.Property.isBlank separator = false)
    (front : List (List Char)) (last : List Char) :
    trimEnd ([separator].intercalate (front ++ [last])) =
      [separator].intercalate (front ++ [trimEnd last]) := by
  rw [trimEnd, reverse_intercalate, List.map_append, List.reverse_append, List.map_singleton,
    List.reverse_singleton, List.singleton_append, skipBlank_intercalate visible,
    reverse_intercalate, List.map_cons, List.reverse_cons, ← List.map_reverse, List.reverse_reverse,
    List.map_map, trimEnd]
  simp

theorem trimChars_append_blank (text : List Char) {back : List Char}
    (blank : ∀ c ∈ back, Unicode.Property.isBlank c = true) :
    trimChars (text ++ back) = trimChars text := by
  have behind : ∀ c ∈ back.reverse, Unicode.Property.isBlank c = true :=
    fun c member => blank c (List.mem_reverse.mp member)
  simp only [trimChars, skipBlank, List.dropWhile_append, List.dropWhile_eq_nil_iff.mpr blank]
  split
  · rename_i empty
    rw [List.isEmpty_iff.mp empty]
  · rw [List.reverse_append, List.dropWhile_append_of_pos behind]

theorem trimChars_trimEnd (text : List Char) : trimChars (trimEnd text) = trimChars text := by
  have split :
      trimEnd text ++ (text.reverse.takeWhile Unicode.Property.isBlank).reverse = text := by
    rw [trimEnd, skipBlank, ← List.reverse_append, List.takeWhile_append_dropWhile,
      List.reverse_reverse]
  have blank : ∀ c ∈ (text.reverse.takeWhile Unicode.Property.isBlank).reverse,
      Unicode.Property.isBlank c = true :=
    fun c member => List.mem_takeWhile_imp (List.mem_reverse.mp member)
  conv_rhs => rw [← split]
  exact (trimChars_append_blank _ blank).symm

theorem trimEnd_isInfix (text : List Char) : trimEnd text <:+: text := by
  have back : skipBlank text.reverse <:+ text.reverse := List.dropWhile_suffix _
  rw [trimEnd, ← List.reverse_infix, List.reverse_reverse]
  exact back.isInfix

/-- Trimming texts that are joined trims the first and the last of them. -/
theorem exists_trimmed_entries (visible : Unicode.Property.isBlank separator = false)
    (nonempty : entries ≠ []) :
    ∃ trimmed, trimChars ([separator].intercalate entries) = [separator].intercalate trimmed ∧
      trimmed ≠ [] ∧ trimmed.map trimChars = entries.map trimChars ∧
        ∀ entry ∈ trimmed, ∃ whole ∈ entries, entry <:+: whole := by
  obtain ⟨entry, others, rfl⟩ := List.exists_cons_of_ne_nil nonempty
  obtain ⟨front, last, split⟩ :=
    (List.eq_nil_or_concat (skipBlank entry :: others)).resolve_left (List.cons_ne_nil _ _)
  rw [List.concat_eq_append] at split
  have parts : ∀ part ∈ front ++ [last], ∃ whole ∈ entry :: others, part <:+: whole := by
    rw [← split, List.forall_mem_cons]
    have front : skipBlank entry <:+ entry := List.dropWhile_suffix _
    exact ⟨⟨entry, List.mem_cons_self, front.isInfix⟩,
      fun part member => ⟨part, List.mem_cons_of_mem entry member, List.infix_rfl⟩⟩
  refine ⟨front ++ [trimEnd last], ?_, by simp, ?_, ?_⟩
  · rw [trimChars_eq, skipBlank_intercalate visible, split, trimEnd_intercalate visible]
  · rw [List.map_append, List.map_singleton, trimChars_trimEnd, ← List.map_singleton,
      ← List.map_append, ← split, List.map_cons, Search.trimChars_skipBlank, List.map_cons]
  · intro part member
    rcases List.mem_append.mp member with before | here
    · exact parts part (List.mem_append_left _ before)
    · obtain ⟨whole, listed, inside⟩ := parts last (by simp)
      rw [List.mem_singleton.mp here]
      exact ⟨whole, listed, (trimEnd_isInfix last).trans inside⟩

end Text

namespace Search

open EngagementState

/-! The states that are listed. -/

/-- The states that entries name, blank ones aside. -/
def statesNamed (entries : List String) : List EngagementState :=
  (entries.filter (!Text.isBlank ·)).map ofName

theorem isBlank_iff_trim (text : String) : Text.isBlank text = true ↔ Text.trim text = "" := by
  have empty : Text.trim text = "" ↔ Text.trimChars text.toList = [] := by
    rw [Text.trim, ← String.toList_inj, String.toList_ofList]
    rfl
  rw [empty, Text.isBlank, List.all_eq_true, Text.trimChars, List.reverse_eq_nil_iff]
  constructor
  · intro blank
    have none : Text.skipBlank text.toList = [] := List.dropWhile_eq_nil_iff.mpr blank
    rw [none]
    rfl
  · intro none
    have rest : ∀ c ∈ Text.skipBlank text.toList, Unicode.Property.isBlank c = true :=
      fun c member => List.dropWhile_eq_nil_iff.mp none c (List.mem_reverse.mpr member)
    have front := List.takeWhile_append_dropWhile (p := Unicode.Property.isBlank) (l := text.toList)
    intro c member
    rw [← front] at member
    rcases List.mem_append.mp member with before | behind
    · exact List.mem_takeWhile_imp before
    · exact rest c behind

theorem isBlank_congr {text other : String} (same : Text.trim text = Text.trim other) :
    Text.isBlank text = Text.isBlank other := by
  rw [Bool.eq_iff_iff, isBlank_iff_trim, isBlank_iff_trim, same]

/-- White space around the entries does not matter. -/
theorem statesNamed_congr {entries others : List String}
    (same : entries.map Text.trim = others.map Text.trim) :
    statesNamed entries = statesNamed others := by
  induction entries generalizing others with
  | nil => rw [List.map_eq_nil_iff.mp same.symm]
  | cons entry entries ih =>
      cases others with
      | nil => cases same
      | cons other others =>
          obtain ⟨first, rest⟩ := List.cons.inj same
          have state : ofName entry = ofName other := by rw [ofName, ofName, first]
          have tails := ih rest
          simp only [statesNamed] at tails ⊢
          rw [List.filter_cons, List.filter_cons, isBlank_congr first]
          split
          · rw [List.map_cons, List.map_cons, state, tails]
          · exact tails

theorem statesOf_eq {value : String} (named : statesNamed (Text.split ',' value) ≠ []) :
    statesOf value = statesNamed (Text.split ',' value) := by
  rw [statesOf]
  split
  · rename_i none
    rw [statesNamed, none] at named
    exact absurd rfl named
  · rfl

theorem unescapeChars_of_plain {text : List Char} (plain : '\\' ∉ text) :
    unescapeChars text = text := by
  induction text with
  | nil => rfl
  | cons c text ih =>
      rw [List.mem_cons, not_or] at plain
      obtain ⟨slash, others⟩ := plain
      rw [unescapeChars, ih others]
      rintro rest rfl
      exact absurd rfl slash

theorem isBlank_comma : Unicode.Property.isBlank ',' = false := by
  rw [Text.isBlank_char]
  decide

/-- An entry of a list that stands for itself. -/
def isPlainEntry (entry : String) : Bool :=
  entry.toList.all fun c => c != ',' && c != '&' && c != '\\' && c != '\n'

/-- The component that lists entries. -/
def stateList (entries : List String) : String := "state=" ++ ",".intercalate entries

variable {entries : List String}

theorem toList_stateList (entries : List String) :
    (stateList entries).toList =
      "state".toList ++ '=' :: [','].intercalate (entries.map String.toList) := by
  rw [stateList, String.toList_append, String.toList_intercalate]
  rfl

theorem mem_intercalate {c separator : Char} {texts : List (List Char)}
    (member : c ∈ [separator].intercalate texts) : c = separator ∨ ∃ text ∈ texts, c ∈ text := by
  induction texts with
  | nil => cases member
  | cons text texts ih =>
      by_cases none : texts = []
      · rw [none, List.intercalate_singleton] at member
        exact Or.inr ⟨text, List.mem_cons_self, member⟩
      · rw [List.intercalate_cons_of_ne_nil none] at member
        simp only [List.append_assoc, List.mem_append, List.mem_singleton] at member
        rcases member with here | same | later
        · exact Or.inr ⟨text, List.mem_cons_self, here⟩
        · exact Or.inl same
        · exact (ih later).imp_right fun ⟨other, listed, inside⟩ =>
            ⟨other, List.mem_cons_of_mem text listed, inside⟩

theorem plain_of_entries (plain : ∀ entry ∈ entries, isPlainEntry entry = true) :
    ∀ c ∈ [','].intercalate (entries.map String.toList), c ≠ '&' ∧ c ≠ '\\' ∧ c ≠ '\n' := by
  intro c member
  rcases mem_intercalate member with rfl | ⟨text, listed, inside⟩
  · decide
  · obtain ⟨entry, here, rfl⟩ := List.mem_map.mp listed
    have clear := List.all_eq_true.mp (plain entry here) c inside
    simp only [Bool.and_eq_true, bne_iff_ne] at clear
    exact ⟨clear.1.1.2, clear.1.2, clear.2⟩

theorem whole_stateList (plain : ∀ entry ∈ entries, isPlainEntry entry = true) :
    Whole (stateList entries) := by
  have clear : ∀ c ∈ (stateList entries).toList, c ≠ '&' ∧ c ≠ '\\' := by
    intro c member
    rw [toList_stateList] at member
    rcases List.mem_append.mp member with key | value
    · have letters : ("state".toList.all fun c => c != '&' && c != '\\') = true := by decide
      simpa using List.all_eq_true.mp letters c key
    · rcases List.mem_cons.mp value with rfl | listed
      · decide
      · exact (plain_of_entries plain c listed).imp_right And.left
  have nothing : splitUnescapedChars '&' false [] = [[]] := rfl
  obtain ⟨single, ends⟩ := splitUnescapedChars_of_plain clear nothing
  rw [List.append_nil] at single ends
  exact ⟨by rw [splitUnescaped, single, List.map_singleton, String.ofList_toList], ends⟩

/-- Entries are told apart again, but for the white space around them. -/
theorem statesOf_entries (plain : ∀ entry ∈ entries, isPlainEntry entry = true)
    (named : statesNamed entries ≠ []) :
    statesOf (unescape (Text.trimChars ([','].intercalate (entries.map String.toList)))) =
      statesNamed entries := by
  have some : entries.map String.toList ≠ [] := by
    intro none
    rw [List.map_eq_nil_iff.mp none] at named
    exact named rfl
  obtain ⟨trimmed, joined, some', same, parts⟩ :=
    Text.exists_trimmed_entries isBlank_comma some
  have slash : '\\' ∉ [','].intercalate trimmed := by
    intro member
    rw [← joined] at member
    exact (plain_of_entries plain _ ((Text.trimChars_isInfix _).subset member)).2.1 rfl
  have commas : ∀ part ∈ trimmed, ',' ∉ part := by
    intro part member inside
    obtain ⟨whole, listed, within⟩ := parts part member
    obtain ⟨entry, here, rfl⟩ := List.mem_map.mp listed
    have clear := List.all_eq_true.mp (plain entry here) ',' (within.subset inside)
    exact absurd clear (by decide)
  have split :
      Text.split ',' (unescape ([','].intercalate trimmed)) = trimmed.map String.ofList := by
    rw [Text.split, unescape, unescapeChars_of_plain slash, String.toList_ofList,
      Text.splitChars_eq_splitOn, List.splitOn_intercalate _ commas some']
  have states : statesNamed (trimmed.map String.ofList) = statesNamed entries := by
    have trims := congrArg (List.map String.ofList) same
    have texts : Text.trim ∘ String.ofList = String.ofList ∘ Text.trimChars :=
      funext fun part => by rw [Function.comp_apply, Text.trim, String.toList_ofList]; rfl
    refine statesNamed_congr ?_
    rw [List.map_map, List.map_map, List.map_map] at trims
    rw [List.map_map, texts]
    exact trims
  rw [← split] at states
  rw [joined, statesOf_eq (states ▸ named), states]

theorem partOf_stateList (plain : ∀ entry ∈ entries, isPlainEntry entry = true)
    (named : statesNamed entries ≠ []) :
    isReadable (stateList entries) = true ∧ partOf (stateList entries) =
      { Progress.start with temporal := ⟨statesNamed entries, none, none, none⟩ } := by
  have line : ([','].intercalate (entries.map String.toList)).contains '\n' = false := by
    rw [← Bool.not_eq_true, List.contains_iff_mem]
    exact fun member => (plain_of_entries plain _ member).2.2 rfl
  have isKey : isKey "state".toList = true := by decide +kernel
  have visible : Text.isBlank (stateList entries) = false := by
    rw [Text.isBlank, toList_stateList]
    exact visible_of_isKey isKey _
  have read := read?_of_line (toList_stateList entries) isKey line
  have reserved : Text.asciiLower (String.ofList "state".toList) = "state" := by decide
  have set := Component.Sets.states reserved ([','].intercalate (entries.map String.toList))
  rw [statesOf_entries plain named] at set
  exact partOf_setting visible read set

theorem partOf_stateLists {components : List (List String)}
    (plain : ∀ entries ∈ components, ∀ entry ∈ entries, isPlainEntry entry = true)
    (named : ∀ entries ∈ components, statesNamed entries ≠ []) :
    (∀ component ∈ components.map stateList, isReadable component = true) ∧
      together ((components.map stateList).map partOf) =
        ⟨[], [], ⟨components.flatMap statesNamed, none, none, none⟩⟩ := by
  induction components with
  | nil => exact ⟨List.forall_mem_nil _, rfl⟩
  | cons entries components ih =>
      obtain ⟨clear, others⟩ := List.forall_mem_cons.mp plain
      obtain ⟨some, rest⟩ := List.forall_mem_cons.mp named
      obtain ⟨readable, parts⟩ := ih others rest
      obtain ⟨here, part⟩ := partOf_stateList clear some
      refine ⟨List.forall_mem_cons.mpr ⟨here, readable⟩, ?_⟩
      simp only [together, Progress.mk.injEq, Temporal.mk.injEq] at parts ⊢
      obtain ⟨predicates, ignored, states, start, finish, today⟩ := parts
      simp only [List.map_cons, List.flatMap_cons, List.filterMap_cons, part, predicates, ignored,
        states, start, finish, today, Progress.start, List.nil_append, and_self]

/-- A search for states is a choice between those that are named anywhere. -/
theorem read_states (today : Date) {components : List (List String)} (nonempty : components ≠ [])
    (plain : ∀ entries ∈ components, ∀ entry ∈ entries, isPlainEntry entry = true)
    (named : ∀ entries ∈ components, statesNamed entries ≠ []) :
    ∃ expression, read today (joined (components.map stateList)) = .ok expression ∧
      expression.ignored = [] ∧ ∀ document,
        Predicate.accepts expression.predicate document =
          (components.flatMap statesNamed).any fun state =>
            (state.predicate today.toText).holds document := by
  obtain ⟨readable, parts⟩ := partOf_stateLists plain named
  have whole : ∀ component ∈ components.map stateList, Whole component := by
    intro component member
    obtain ⟨entries, listed, rfl⟩ := List.mem_map.mp member
    exact whole_stateList (plain entries listed)
  refine ⟨_, (read_joined whole today _).mpr ⟨readable, rfl⟩, ?_, fun document => ?_⟩
  · simp only [expressionOf, parts]
  · have some : components.flatMap statesNamed ≠ [] := by
      obtain ⟨entries, others, rfl⟩ := List.exists_cons_of_ne_nil nonempty
      rw [List.flatMap_cons]
      exact List.append_ne_nil_of_left_ne_nil (named entries List.mem_cons_self) _
    have chosen : ((components.flatMap statesNamed).map
        fun state => state.predicate today.toText).isEmpty = false := by
      rw [List.isEmpty_map]
      exact List.isEmpty_eq_false_iff.mpr some
    have reference : (Temporal.mk (components.flatMap statesNamed) none none none).referenceDate
        today = today := rfl
    simp only [expressionOf, parts]
    rw [Predicate.accepts_allOf, List.nil_append, all_predicates, reference,
      Predicate.accepts_anyOf, chosen, Bool.false_or, List.any_map]
    exact Bool.and_true _

/-! The states of an engagement that ends. -/

/-- As of any date, an engagement with a single text as its end date is either upcoming, active or
past, and a terminating one is past. -/
theorem states_of_ending {document : Document} {text : String}
    (ends : Fields.get? document "endDate" = some (.string text)) (bound : String) :
    (∃ state ∈ [upcoming, active, past], ∀ other ∈ [upcoming, active, past],
      (other.predicate bound).holds (.object document) = decide (other = state)) ∧
    ((terminating.predicate bound).holds (.object document) = true →
      (past.predicate bound).holds (.object document) = true) := by
  have compared := holds_dated single_endDate ends
  constructor
  · have unlaunched := holds_upcoming (.object document) bound
    have running : (active.predicate bound).holds (.object document) =
        (launched.holds (.object document) && compare text bound != .lt) := by
      rw [predicate, Predicate.holds_and, compared]
      rfl
    have finished : (past.predicate bound).holds (.object document) =
        (launched.holds (.object document) && compare text bound == .lt) := by
      rw [predicate, Predicate.holds_and, compared]
      rfl
    simp only [List.forall_mem_cons, unlaunched, running, finished]
    cases launched.holds (.object document) with
    | false => exact ⟨upcoming, by decide, rfl, rfl, rfl, List.forall_mem_nil _⟩
    | true =>
        by_cases before : compare text bound = .lt
        · rw [before]
          exact ⟨past, by decide, by decide, by decide, by decide, List.forall_mem_nil _⟩
        · have later : (compare text bound == .lt) = false := beq_eq_false_iff_ne.mpr before
          rw [bne, later]
          exact ⟨active, by decide, by decide, by decide, by decide, List.forall_mem_nil _⟩
  · simp only [predicate, Predicate.holds_and]
    intro terminating
    exact (Bool.and_eq_true_iff.mp terminating).1

theorem mem_statesNamed_iff (state : EngagementState) (entries : List String) :
    state ∈ statesNamed entries ↔
      ∃ name ∈ entries, Text.isBlank name = false ∧ ofName name = state := by
  simp only [statesNamed, List.mem_map, List.mem_filter, Bool.not_eq_true', and_assoc]

/-- A search for one name is a search for its state. -/
theorem read_name (today : Date) {name : String} (plain : isPlainEntry name = true)
    (visible : Text.isBlank name = false) :
    ∃ single, read today ("state=" ++ name) = .ok single ∧ ∀ document,
      Predicate.accepts single.predicate document =
        ((ofName name).predicate today.toText).holds document := by
  have named : statesNamed [name] = [ofName name] := by simp [statesNamed, visible]
  have text : joined ([[name]].map stateList) = "state=" ++ name := by simp [joined, stateList]
  have nonempty : [[name]] ≠ [] := List.cons_ne_nil _ _
  obtain ⟨single, done, _, accepts⟩ := read_states today nonempty (by simpa using plain)
    (by simp [named])
  rw [text] at done
  refine ⟨single, done, fun document => ?_⟩
  rw [accepts, List.flatMap_singleton, named, List.any_cons, List.any_nil, Bool.or_false]

/-- The states tell all engagements apart that end, as of any date; and a search that lists names of
states in any number of components, with blank entries among them, finds what the searches for
single names find. -/
theorem states_classify_and_combine (today : Date) :
    (∀ (document : Document) (text bound : String),
      Fields.get? document "endDate" = some (.string text) →
        (∃ state ∈ [upcoming, active, past], ∀ other ∈ [upcoming, active, past],
          (other.predicate bound).holds (.object document) = decide (other = state)) ∧
        ((terminating.predicate bound).holds (.object document) = true →
          (past.predicate bound).holds (.object document) = true)) ∧
    ∀ components : List (List String), components ≠ [] →
      (∀ entries ∈ components, ∃ name ∈ entries, Text.isBlank name = false) →
      (∀ entries ∈ components, ∀ entry ∈ entries, isPlainEntry entry = true) →
      ∃ expression,
        read today (joined (components.map fun entries => "state=" ++ ",".intercalate entries)) =
          .ok expression ∧
        expression.ignored = [] ∧
        ∀ document, Predicate.accepts expression.predicate document = true ↔
          ∃ entries ∈ components, ∃ name ∈ entries, Text.isBlank name = false ∧
            ∃ single, read today ("state=" ++ name) = .ok single ∧
              Predicate.accepts single.predicate document = true := by
  refine ⟨fun document text bound ends => states_of_ending ends bound, ?_⟩
  intro components nonempty visible plain
  have named : ∀ entries ∈ components, statesNamed entries ≠ [] := by
    intro entries listed
    obtain ⟨name, here, shown⟩ := visible entries listed
    exact List.ne_nil_of_mem ((mem_statesNamed_iff _ entries).mpr ⟨name, here, shown, rfl⟩)
  obtain ⟨expression, done, understood, accepts⟩ := read_states today nonempty plain named
  refine ⟨expression, done, understood, fun document => ?_⟩
  rw [accepts, List.any_eq_true]
  constructor
  · rintro ⟨state, member, holds⟩
    obtain ⟨entries, listed, inside⟩ := List.mem_flatMap.mp member
    obtain ⟨name, here, shown, rfl⟩ := (mem_statesNamed_iff state entries).mp inside
    obtain ⟨single, found, same⟩ := read_name today (plain entries listed name here) shown
    exact ⟨entries, listed, name, here, shown, single, found, (same document).trans holds⟩
  · rintro ⟨entries, listed, name, here, shown, single, found, holds⟩
    obtain ⟨other, found', same⟩ := read_name today (plain entries listed name here) shown
    obtain rfl := Except.ok.inj (found.symm.trans found')
    have inside := (mem_statesNamed_iff _ entries).mpr ⟨name, here, shown, rfl⟩
    exact ⟨ofName name, List.mem_flatMap.mpr ⟨entries, listed, inside⟩,
      (same document).symm.trans holds⟩

/-- Names in odd cases and with white space around them, one of them twice and one unknown, with
blank entries among them. -/
def oddStates : List (List String) := [["", " AcTive\t", " "], ["past", "active", "", "someday"]]

theorem odd_states_combine :
    (oddStates ≠ [] ∧ (∀ entries ∈ oddStates, ∃ name ∈ entries, Text.isBlank name = false) ∧
      ∀ entries ∈ oddStates, ∀ entry ∈ entries, isPlainEntry entry = true) ∧
    (∃ expression,
      read ⟨2020, 6, 1⟩ "state=, AcTive\t, &state=past,active,,someday" = .ok expression ∧
        expression.ignored = [] ∧
        ∀ document, Predicate.accepts expression.predicate document = true ↔
          ∃ entries ∈ oddStates, ∃ name ∈ entries, Text.isBlank name = false ∧
            ∃ single, read ⟨2020, 6, 1⟩ ("state=" ++ name) = .ok single ∧
              Predicate.accepts single.predicate document = true) ∧
    ∃ state ∈ [upcoming, active, past], ∀ other ∈ [upcoming, active, past],
      (other.predicate "any day").holds
        (.object [("launch", .array [.null]), ("endDate", .string "soon")]) =
          decide (other = state) := by
  have visible : ∀ entries ∈ oddStates, ∃ name ∈ entries, Text.isBlank name = false := by
    simp only [Text.isBlank_eq]
    decide
  have plain : ∀ entries ∈ oddStates, ∀ entry ∈ entries, isPlainEntry entry = true := by decide
  obtain ⟨classify, combine⟩ := states_classify_and_combine ⟨2020, 6, 1⟩
  exact ⟨⟨by decide, visible, plain⟩, combine oddStates (by decide) visible plain,
    (classify _ "soon" "any day" rfl).1⟩

/-- A blank entry that goes over a line leaves the component without a form: it is reported, and
every engagement is found. -/
theorem blank_line_hides_states :
    Text.isBlank "\n" = true ∧
      read ⟨2020, 6, 1⟩ "state=active,\n" = .ok ⟨none, ["state=active,\n"]⟩ ∧
      ∃ single, read ⟨2020, 6, 1⟩ "state=active" = .ok single ∧
        Predicate.accepts single.predicate (.object [("endDate", .string "2020-07-01")]) = false ∧
        Predicate.accepts none (.object [("endDate", .string "2020-07-01")]) = true := by
  have blank : Text.isBlank "\n" = true := by
    rw [Text.isBlank_eq]
    decide
  have unread : Component.read? "state=active,\n" = none := by
    have written : "state=active,\n".toList = "state".toList ++ '=' :: "active,\n".toList := rfl
    rw [read?_of_isKey written (by decide +kernel)]
    rfl
  have shown : Text.isBlank "state=active,\n" = false := by
    rw [Text.isBlank_eq]
    decide
  have pieces : splitUnescaped '&' "state=active,\n" = ["state=active,\n"] := by decide
  have visible : Text.isBlank "active" = false := by
    rw [Text.isBlank_eq]
    decide
  obtain ⟨single, done, accepts⟩ := read_name ⟨2020, 6, 1⟩ (by decide) visible
  refine ⟨blank, ?_, single, done, ?_, rfl⟩
  · rw [read, pieces, List.foldlM_cons, Progress.addPiece, shown, unread]
    rfl
  · have state : ofName "active" = active := by
      simp only [ofName, Text.trim, Text.trimChars, Text.skipBlank_eq]
      decide
    rw [accepts, state, predicate, Predicate.holds_and, Bool.and_eq_false_iff]
    left
    rw [launched, Predicate.present, Predicate.holds,
      Value.candidates_field _ (segments_of_dotless (by decide))]
    rfl

end Search

end Engagements
