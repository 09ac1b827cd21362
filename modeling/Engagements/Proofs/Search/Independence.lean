import Engagements.Proofs.Predicate
import Engagements.Proofs.Search.Component
import Engagements.Proofs.Search.Pieces
import Engagements.Proofs.Search.Reading

/-!
The components of a search text do not depend on each other. Their order matters only among those
that give the same date, and those that mean nothing can be left out.
-/
namespace Engagements.Search

/-- Whether a component gives a value to a reserved key. -/
def assigns (key component : String) : Bool :=
  match Component.read? component with
  | some (.equals name _) => Text.asciiLower (String.ofList name) == key
  | _ => false

/-- Whether a component is blank or reported. -/
def isIdle (component : String) : Bool := Text.isBlank component || isReported component

/-- The same components in another order, in which those that give one date follow each other as
before. -/
structure Rearranged (components others : List String) : Prop where
  permuted : components.Perm others
  starts : components.filter (assigns "start") = others.filter (assigns "start")
  ends : components.filter (assigns "end") = others.filter (assigns "end")
  todays : components.filter (assigns "today") = others.filter (assigns "today")

/-! The part of a single piece. -/

namespace Adds

variable {piece : String} {part : Progress}

theorem ignored (adds : Adds piece part) :
    part.ignored = if isReported piece then [piece] else [] := by
  cases adds with
  | nothing blank => simp [isReported, blank, Progress.start]
  | report reported => simp [reported]
  | condition visible read asked => simp [isReported, read, Progress.add, Progress.start]
  | setting visible read set => simp [isReported, read, Progress.start]

/-- A date is given only by what assigns its key. -/
theorem dates (adds : Adds piece part) :
    (assigns "start" piece = false → part.temporal.start = none) ∧
      (assigns "end" piece = false → part.temporal.finish = none) ∧
        (assigns "today" piece = false → part.temporal.today = none) := by
  cases adds with
  | setting visible read set =>
      cases set with
      | states reserved value => exact ⟨fun _ => rfl, fun _ => rfl, fun _ => rfl⟩
      | start reserved date => simp [assigns, read, reserved]
      | finish reserved date => simp [assigns, read, reserved]
      | today reserved date => simp [assigns, read, reserved]
  | _ => exact ⟨fun _ => rfl, fun _ => rfl, fun _ => rfl⟩

end Adds

theorem partOf_idle {piece : String} (idle : isIdle piece = true) :
    isReadable piece = true ∧ (partOf piece).predicates = [] ∧
      (partOf piece).temporal = ⟨[], none, none, none⟩ := by
  rw [isReadable, partOf, Progress.addPiece]
  by_cases blank : Text.isBlank piece = true
  · rw [if_pos blank]
    exact ⟨rfl, rfl, rfl⟩
  · have unread : Component.read? piece = none := by
      simpa [isIdle, isReported, blank] using idle
    rw [if_neg blank, unread]
    exact ⟨rfl, rfl, rfl⟩

/-! The parts of several pieces. -/

theorem ignored_together {pieces : List String}
    (readable : ∀ piece ∈ pieces, isReadable piece = true) :
    (together (pieces.map partOf)).ignored = pieces.filter isReported := by
  induction pieces with
  | nil => rfl
  | cons piece pieces ih =>
      obtain ⟨here, rest⟩ := List.forall_mem_cons.mp readable
      have own := (adds_partOf here).ignored
      have others := ih rest
      simp only [together, List.map_cons, List.flatMap_cons] at others ⊢
      rw [own, others, List.filter_cons]
      cases isReported piece <;> rfl

/-- Pieces that a part of some kind does not come from can be left out when it is looked for. -/
theorem filterMap_partOf {β : Type} {pieces : List String}
    (readable : ∀ piece ∈ pieces, isReadable piece = true) {kind : String → Bool}
    {found : Progress → Option β}
    (missing : ∀ {piece part}, Adds piece part → kind piece = false → found part = none) :
    (pieces.map partOf).filterMap found = ((pieces.filter kind).map partOf).filterMap found := by
  induction pieces with
  | nil => rfl
  | cons piece pieces ih =>
      obtain ⟨here, rest⟩ := List.forall_mem_cons.mp readable
      rw [List.map_cons, List.filterMap_cons, List.filter_cons, ih rest]
      cases known : kind piece with
      | false => simp [missing (adds_partOf here) known]
      | true => simp [List.filterMap_cons]

theorem filterMap_rearranged {β : Type} {components others : List String}
    (readable : ∀ component ∈ components, isReadable component = true)
    (readable' : ∀ component ∈ others, isReadable component = true) {kind : String → Bool}
    {found : Progress → Option β}
    (missing : ∀ {piece part}, Adds piece part → kind piece = false → found part = none)
    (same : components.filter kind = others.filter kind) :
    (others.map partOf).filterMap found = (components.map partOf).filterMap found := by
  rw [filterMap_partOf readable missing, filterMap_partOf readable' missing, same]

theorem all_predicates (temporal : Temporal) (today : Date) (document : Value) :
    (temporal.predicates today).all (Predicate.holds document) =
      (Predicate.accepts (Predicate.anyOf
          (temporal.states.map (·.predicate (temporal.referenceDate today).toText))) document &&
        ((Temporal.endDateBound .greaterOrEqual temporal.start).all (Predicate.holds document) &&
          (Temporal.endDateBound .lessOrEqual temporal.finish).all
            (Predicate.holds document))) := by
  have choice (predicates : Option Predicate) :
      predicates.toList.all (Predicate.holds document) =
        Predicate.accepts predicates document := by
    cases predicates <;> simp [Predicate.accepts]
  rw [Temporal.predicates, List.all_append, List.all_append, choice, Bool.and_assoc]

/-- States in another order leave the same choice. -/
theorem all_predicates_of_perm {temporal other : Temporal}
    (states : temporal.states.Perm other.states) (start : temporal.start = other.start)
    (finish : temporal.finish = other.finish) (reference : temporal.today = other.today)
    (today : Date) (document : Value) :
    (temporal.predicates today).all (Predicate.holds document) =
      (other.predicates today).all (Predicate.holds document) := by
  have date : temporal.referenceDate today = other.referenceDate today := by
    rw [Temporal.referenceDate, Temporal.referenceDate, reference, start]
  have choice := states.map fun state => state.predicate (other.referenceDate today).toText
  rw [all_predicates, all_predicates, date, start, finish, Predicate.accepts_anyOf,
    Predicate.accepts_anyOf, choice.any_eq, choice.isEmpty_eq]

/-- Components that stand for themselves are read one by one. -/
theorem read_joined {components : List String}
    (whole : ∀ component ∈ components, Whole component) (today : Date) (expression : Expression) :
    read today (joined components) = .ok expression ↔
      (∀ component ∈ components, isReadable component = true) ∧
        expression = expressionOf today components := by
  rw [read_eq_ok_iff]
  rcases List.eq_nil_or_concat components with none | ⟨front, last, split⟩
  · subst none
    have pieces : splitUnescaped '&' (joined []) = [""] := rfl
    have blank : isReadable "" = true := rfl
    have same : expressionOf today [""] = expressionOf today [] := rfl
    rw [pieces, same]
    simp [blank]
  · rw [List.concat_eq_append] at split
    subst split
    have pieces := splitUnescaped_joined
      (fun component member => whole component (List.mem_append_left _ member))
      (whole last (by simp)).single
    rw [pieces]

theorem toOption_read_joined {components : List String}
    (whole : ∀ component ∈ components, Whole component) (today : Date) :
    (read today (joined components)).toOption =
      if ∀ component ∈ components, isReadable component = true then
        some (expressionOf today components)
      else none := by
  split
  · rename_i readable
    rw [(read_joined whole today _).mpr ⟨readable, rfl⟩]
    rfl
  · rename_i refused
    cases done : read today (joined components) with
    | error error => rfl
    | ok expression => exact absurd ((read_joined whole today expression).mp done).1 refused

theorem rearranged_expression {components others : List String}
    (rearranged : Rearranged components others)
    (readable : ∀ component ∈ components, isReadable component = true) (today : Date) :
    (∀ document, Predicate.accepts (expressionOf today others).predicate document =
        Predicate.accepts (expressionOf today components).predicate document) ∧
      (expressionOf today others).ignored.Perm (expressionOf today components).ignored := by
  have readable' : ∀ component ∈ others, isReadable component = true :=
    fun component member => readable component (rearranged.permuted.mem_iff.mpr member)
  have parts := rearranged.permuted.map partOf
  have starts := filterMap_rearranged readable readable' (fun adds => adds.dates.1)
    rearranged.starts
  have ends := filterMap_rearranged readable readable' (fun adds => adds.dates.2.1)
    rearranged.ends
  have todays := filterMap_rearranged readable readable' (fun adds => adds.dates.2.2)
    rearranged.todays
  have predicates : (together (others.map partOf)).predicates.Perm
      (together (components.map partOf)).predicates := parts.symm.flatMap_right _
  have states : (together (others.map partOf)).temporal.states.Perm
      (together (components.map partOf)).temporal.states := parts.symm.flatMap_right _
  constructor
  · intro document
    simp only [expressionOf]
    rw [Predicate.accepts_allOf, Predicate.accepts_allOf, List.all_append, List.all_append,
      predicates.all_eq]
    congr 1
    exact all_predicates_of_perm states (congrArg List.getLast? starts)
      (congrArg List.getLast? ends) (congrArg List.getLast? todays) today document
  · exact parts.symm.flatMap_right _

/-- What is idle adds no predicate and sets no key. -/
theorem together_filter (components : List String) :
    (together (components.map partOf)).predicates =
        (together ((components.filter (!isIdle ·)).map partOf)).predicates ∧
      (together (components.map partOf)).temporal =
        (together ((components.filter (!isIdle ·)).map partOf)).temporal := by
  induction components using List.reverseRecOn with
  | nil => exact ⟨rfl, rfl⟩
  | append_singleton front last ih =>
      obtain ⟨predicates, temporal⟩ := ih
      rw [List.filter_append, List.map_append, List.map_append, List.map_singleton,
        together_concat]
      cases idle : isIdle last with
      | false =>
          simp only [List.filter_cons, idle, Bool.not_false, if_true, List.filter_nil,
            List.map_singleton, together_concat, Progress.append, predicates, temporal, and_self]
      | true =>
          obtain ⟨_, nothing, unset⟩ := partOf_idle idle
          simp [Progress.append, idle, nothing, unset, predicates, temporal]

/-- Only what is blank or has no form is idle, and what has no form is reported. -/
theorem isIdle_of_reported {today : Date} {text : String} {expression : Expression}
    (done : read today text = .ok expression) {piece : String}
    (reported : piece ∈ expression.ignored) : isIdle piece = true := by
  obtain ⟨readable, same⟩ := (read_eq_ok_iff today text expression).mp done
  rw [same, expressionOf, ignored_together readable] at reported
  rw [isIdle, (List.mem_filter.mp reported).2, Bool.or_true]

theorem predicate_read_of_idle (today : Date) {front back : List String} {piece : String}
    (whole : ∀ component ∈ front ++ piece :: back, Whole component) (idle : isIdle piece = true) :
    (read today (joined (front ++ piece :: back))).toOption.map (·.predicate) =
      (read today (joined (front ++ back))).toOption.map (·.predicate) := by
  have others : ∀ component ∈ front ++ back, Whole component := by
    intro component member
    apply whole component
    rcases List.mem_append.mp member with before | after
    · exact List.mem_append_left _ before
    · exact List.mem_append_right _ (List.mem_cons_of_mem _ after)
  have readable : (∀ component ∈ front ++ piece :: back, isReadable component = true) ↔
      ∀ component ∈ front ++ back, isReadable component = true := by
    rw [List.forall_mem_append, List.forall_mem_cons, List.forall_mem_append]
    simp [(partOf_idle idle).1]
  have kept : (front ++ piece :: back).filter (!isIdle ·) = (front ++ back).filter (!isIdle ·) := by
    simp [List.filter_append, idle]
  have same : (expressionOf today (front ++ piece :: back)).predicate =
      (expressionOf today (front ++ back)).predicate := by
    obtain ⟨predicates, temporal⟩ := together_filter (front ++ piece :: back)
    obtain ⟨predicates', temporal'⟩ := together_filter (front ++ back)
    simp only [expressionOf]
    rw [predicates, temporal, kept, ← predicates', ← temporal']
  rw [toOption_read_joined whole, toOption_read_joined others]
  simp only [readable]
  split
  · exact congrArg some same
  · rfl

/-- Components can change places unless they give the same date, and blank or reported ones can
come and go: the text is read as before, and its predicate accepts the same documents. -/
theorem components_independent (today : Date) (components : List String)
    (whole : ∀ component ∈ components, Whole component) :
    (∀ others, Rearranged components others → ∀ expression,
      read today (joined components) = .ok expression →
        ∃ rearranged, read today (joined others) = .ok rearranged ∧
          (∀ document, Predicate.accepts rearranged.predicate document =
            Predicate.accepts expression.predicate document) ∧
          rearranged.ignored.Perm expression.ignored) ∧
      ∀ front piece back, components = front ++ back → Whole piece →
        (Text.isBlank piece = true ∨ ∃ text expression,
          read today text = .ok expression ∧ piece ∈ expression.ignored) →
          (read today (joined (front ++ piece :: back))).toOption.map (·.predicate) =
            (read today (joined components)).toOption.map (·.predicate) := by
  constructor
  · intro others rearranged expression done
    obtain ⟨readable, same⟩ := (read_joined whole today expression).mp done
    subst same
    have whole' : ∀ component ∈ others, Whole component :=
      fun component member => whole component (rearranged.permuted.mem_iff.mpr member)
    have readable' : ∀ component ∈ others, isReadable component = true :=
      fun component member => readable component (rearranged.permuted.mem_iff.mpr member)
    exact ⟨_, (read_joined whole' today _).mpr ⟨readable', rfl⟩,
      rearranged_expression rearranged readable today⟩
  · rintro front piece back rfl single idle
    refine predicate_read_of_idle today ?_ ?_
    · intro component member
      rcases List.mem_append.mp member with before | later
      · exact whole component (List.mem_append_left _ before)
      · rcases List.mem_cons.mp later with here | after
        · exact here ▸ single
        · exact whole component (List.mem_append_right _ after)
    · rcases idle with blank | ⟨text, expression, done, reported⟩
      · rw [isIdle, blank, Bool.true_or]
      · exact isIdle_of_reported done reported

/-- A start given twice, with a state between. -/
def scattered : List String := ["start=2020-01-01", "state=past", "start=2021-01-01"]

def gathered : List String := ["state=past", "start=2020-01-01", "start=2021-01-01"]

theorem states_move_between_dates :
    (∀ component ∈ scattered, Whole component) ∧ Rearranged scattered gathered ∧
      (∃ expression, read ⟨2020, 6, 1⟩ (joined scattered) = .ok expression ∧
        ∃ rearranged, read ⟨2020, 6, 1⟩ (joined gathered) = .ok rearranged ∧
          (∀ document, Predicate.accepts rearranged.predicate document =
            Predicate.accepts expression.predicate document) ∧
          rearranged.ignored.Perm expression.ignored) ∧
      (read ⟨2020, 6, 1⟩ (joined (scattered ++ ["\t"]))).toOption.map (·.predicate) =
        (read ⟨2020, 6, 1⟩ (joined scattered)).toOption.map (·.predicate) := by
  have whole : ∀ component ∈ scattered, Whole component := by
    have single : ∀ component ∈ scattered, splitUnescaped '&' component = [component] := by decide
    have settled : ∀ component ∈ scattered, endsEscaped false component.toList = false := by decide
    exact fun component member => ⟨single component member, settled component member⟩
  have first : Component.read? "start=2020-01-01" =
      some (.equals ['s', 't', 'a', 'r', 't'] ['2', '0', '2', '0', '-', '0', '1', '-', '0', '1']) :=
    read?_of_line (by decide) (by decide +kernel) (by decide)
  have second : Component.read? "start=2021-01-01" =
      some (.equals ['s', 't', 'a', 'r', 't'] ['2', '0', '2', '1', '-', '0', '1', '-', '0', '1']) :=
    read?_of_line (by decide) (by decide +kernel) (by decide)
  have state : Component.read? "state=past" =
      some (.equals ['s', 't', 'a', 't', 'e'] ['p', 'a', 's', 't']) :=
    read?_of_line (by decide) (by decide +kernel) (by decide)
  have rearranged : Rearranged scattered gathered := by
    constructor
    · decide
    · simp only [scattered, gathered, List.filter_cons, assigns, first, second, state]
      decide
    · simp only [scattered, gathered, List.filter_cons, assigns, first, second, state]
      decide
    · simp only [scattered, gathered, List.filter_cons, assigns, first, second, state]
      decide
  have visible : ∀ component ∈ scattered, Text.isBlank component = false := by
    simp only [Text.isBlank_eq]
    decide
  have dates : Date.read (unescape (Text.trimChars "2020-01-01".toList)) = .ok ⟨2020, 1, 1⟩ ∧
      Date.read (unescape (Text.trimChars "2021-01-01".toList)) = .ok ⟨2021, 1, 1⟩ := by
    simp only [Date.read, Date.readParts, Date.readYear, Date.readPart, Text.trim, Text.trimChars,
      Text.skipBlank_eq]
    exact ⟨rfl, rfl⟩
  have readable : ∀ component ∈ scattered, isReadable component = true := by
    simp only [scattered, List.forall_mem_cons]
    refine ⟨?_, ?_, ?_, List.forall_mem_nil _⟩
    · exact (partOf_setting (visible _ (by decide)) first (.start (by decide) dates.1)).1
    · exact (partOf_setting (visible _ (by decide)) state (.states (by decide) _)).1
    · exact (partOf_setting (visible _ (by decide)) second (.start (by decide) dates.2)).1
  have read := (read_joined whole ⟨2020, 6, 1⟩ _).mpr ⟨readable, rfl⟩
  have blank : Text.isBlank "\t" = true := by
    rw [Text.isBlank_eq]
    decide
  obtain ⟨moved, inserted⟩ := components_independent ⟨2020, 6, 1⟩ scattered whole
  exact ⟨whole, rearranged, ⟨_, read, moved gathered rearranged _ read⟩,
    inserted scattered "\t" [] (List.append_nil _).symm ⟨by decide, by decide⟩ (Or.inl blank)⟩

end Engagements.Search
