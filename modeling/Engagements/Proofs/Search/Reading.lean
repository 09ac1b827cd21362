import Engagements.Search.Expression
import Mathlib.Data.List.Induction

/-!
What a search text comes to: every piece adds its own part, whatever stands before it, and the parts
are put together in the order of the pieces.
-/
namespace Engagements.Search

namespace Progress

/-- What two parts of a text come to one after the other. Of two dates the later one counts. -/
def append (first second : Progress) : Progress where
  predicates := first.predicates ++ second.predicates
  ignored := first.ignored ++ second.ignored
  temporal :=
    { states := first.temporal.states ++ second.temporal.states
      start := second.temporal.start.or first.temporal.start
      finish := second.temporal.finish.or first.temporal.finish
      today := second.temporal.today.or first.temporal.today }

theorem append_start (progress : Progress) : progress.append start = progress := by
  simp [append, start]

theorem addEquals_eq (progress : Progress) (key value : String) :
    progress.addEquals key value = (start.addEquals key value).map progress.append := by
  simp only [addEquals]
  split
  · simp [append, start, Except.map]
  · cases reservedDate "start" value <;> simp [append, start, Except.map, bind, Except.bind]
  · cases reservedDate "end" value <;> simp [append, start, Except.map, bind, Except.bind]
  · cases reservedDate "today" value <;> simp [append, start, Except.map, bind, Except.bind]
  · cases coerce key value <;> simp [append, start, add, Except.map, bind, Except.bind]

/-- A key that is not reserved is the name of a field. -/
theorem addEquals_of_free {key : String}
    (free : Text.asciiLower key ∉ ["state", "start", "end", "today"]) (progress : Progress)
    (value : String) :
    progress.addEquals key value =
      (coerce key value).map fun sought => progress.add (.equals key sought) := by
  simp only [List.mem_cons, List.not_mem_nil, or_false, not_or] at free
  obtain ⟨state, start, finish, today⟩ := free
  simp only [addEquals]
  cases coerce key value <;> rfl

theorem addComponent_eq (progress : Progress) (component : Component) :
    progress.addComponent component = (start.addComponent component).map progress.append := by
  cases component with
  | like field value =>
      simp only [addComponent]
      cases readPattern (String.ofList field) value <;>
        simp [append, start, add, Except.map, bind, Except.bind]
  | unlike field value =>
      simp only [addComponent]
      cases readPattern (String.ofList field) value <;>
        simp [append, start, add, Except.map, bind, Except.bind]
  | present field => simp [addComponent, append, start, add, Except.map]
  | absent field => simp [addComponent, append, start, add, Except.map]
  | equals key value => exact addEquals_eq progress _ _

/-- A piece adds the same part to whatever has been read before it. -/
theorem addPiece_eq (progress : Progress) (piece : String) :
    progress.addPiece piece = (start.addPiece piece).map progress.append := by
  rw [addPiece, addPiece]
  split
  · rw [Except.map, append_start]
  · split
    · exact addComponent_eq progress _
    · simp [append, start, Except.map]

end Progress

open Progress

/-- The predicate of a component that gives no reserved key a value. -/
inductive Component.Asks : Component → Predicate → Prop
  | like {field value : List Char} {pattern : Pattern}
      (read : readPattern (String.ofList field) value = .ok pattern) :
      Asks (.like field value) (.like (String.ofList field) pattern)
  | unlike {field value : List Char} {pattern : Pattern}
      (read : readPattern (String.ofList field) value = .ok pattern) :
      Asks (.unlike field value) (.unlike (String.ofList field) pattern)
  | present (field : List Char) : Asks (.present field) (.present (String.ofList field))
  | absent (field : List Char) : Asks (.absent field) (.absent (String.ofList field))
  | equals {key value : List Char} {sought : Value}
      (free : Text.asciiLower (String.ofList key) ∉ ["state", "start", "end", "today"])
      (read : coerce (String.ofList key) (unescape (Text.trimChars value)) = .ok sought) :
      Asks (.equals key value) (.equals (String.ofList key) sought)

/-- What a component sets that gives a reserved key a value. -/
inductive Component.Sets : Component → Temporal → Prop
  | states {key : List Char} (reserved : Text.asciiLower (String.ofList key) = "state")
      (value : List Char) :
      Sets (.equals key value) ⟨statesOf (unescape (Text.trimChars value)), none, none, none⟩
  | start {key value : List Char} (reserved : Text.asciiLower (String.ofList key) = "start")
      {date : Date} (read : Date.read (unescape (Text.trimChars value)) = .ok date) :
      Sets (.equals key value) ⟨[], some date, none, none⟩
  | finish {key value : List Char} (reserved : Text.asciiLower (String.ofList key) = "end")
      {date : Date} (read : Date.read (unescape (Text.trimChars value)) = .ok date) :
      Sets (.equals key value) ⟨[], none, some date, none⟩
  | today {key value : List Char} (reserved : Text.asciiLower (String.ofList key) = "today")
      {date : Date} (read : Date.read (unescape (Text.trimChars value)) = .ok date) :
      Sets (.equals key value) ⟨[], none, none, some date⟩

/-- What is made of a result has been made of something. -/
theorem ok_of_bind {α β : Type} {result : Result α} {make : α → β} {made : β}
    (done : (do .ok (make (← result)) : Result β) = .ok made) :
    ∃ found, result = .ok found ∧ make found = made := by
  cases result with
  | error error => cases done
  | ok found => exact ⟨found, rfl, Except.ok.inj done⟩

theorem ok_of_mapError {α ε : Type} {found : Except ε α} {report : ε → Error} {value : α}
    (read : found.mapError report = .ok value) : found = .ok value := by
  cases found with
  | ok other => exact congrArg Except.ok (Except.ok.inj read)
  | error reason => cases read

theorem reservedDate_ok {key value : String} {date : Date}
    (read : reservedDate key value = .ok date) : Date.read value = .ok date := ok_of_mapError read

/-- A component that is not refused either adds one predicate or sets a reserved key. -/
theorem addComponent_cases {component : Component} {part : Progress}
    (added : Progress.start.addComponent component = .ok part) :
    (∃ predicate, component.Asks predicate ∧ Progress.start.add predicate = part) ∨
      ∃ temporal, component.Sets temporal ∧
        { Progress.start with temporal := temporal } = part := by
  cases component with
  | like field value =>
      obtain ⟨pattern, read, made⟩ := ok_of_bind added
      exact Or.inl ⟨_, .like read, made⟩
  | unlike field value =>
      obtain ⟨pattern, read, made⟩ := ok_of_bind added
      exact Or.inl ⟨_, .unlike read, made⟩
  | present field => exact Or.inl ⟨_, .present field, Except.ok.inj added⟩
  | absent field => exact Or.inl ⟨_, .absent field, Except.ok.inj added⟩
  | equals key value =>
      simp only [addComponent, addEquals] at added
      split at added
      · rename_i reserved
        refine Or.inr ⟨_, .states reserved value, ?_⟩
        rw [← Except.ok.inj added]
        simp [Progress.start]
      · rename_i reserved
        obtain ⟨date, read, made⟩ := ok_of_bind added
        exact Or.inr ⟨_, .start reserved (reservedDate_ok read), made⟩
      · rename_i reserved
        obtain ⟨date, read, made⟩ := ok_of_bind added
        exact Or.inr ⟨_, .finish reserved (reservedDate_ok read), made⟩
      · rename_i reserved
        obtain ⟨date, read, made⟩ := ok_of_bind added
        exact Or.inr ⟨_, .today reserved (reservedDate_ok read), made⟩
      · rename_i state start finish today
        obtain ⟨sought, read, made⟩ := ok_of_bind added
        have free : Text.asciiLower (String.ofList key) ∉ ["state", "start", "end", "today"] := by
          simp only [List.mem_cons, List.not_mem_nil, or_false, not_or]
          exact ⟨state, start, finish, today⟩
        exact Or.inl ⟨_, .equals free read, made⟩

theorem addComponent_of_sets {component : Component} {temporal : Temporal}
    (set : component.Sets temporal) :
    Progress.start.addComponent component =
      .ok { Progress.start with temporal := temporal } := by
  cases set with
  | states reserved value =>
      simp [Progress.addComponent, Progress.addEquals, reserved, Progress.start]
  | start reserved read | finish reserved read | today reserved read =>
      simp [Progress.addComponent, Progress.addEquals, reserved, reservedDate, read, Progress.start,
        Except.mapError, bind, Except.bind]

/-- Whether a piece is not refused. -/
def isReadable (piece : String) : Bool := (Progress.start.addPiece piece).isOk

/-- The part that a piece adds; nothing, if it is refused. -/
def partOf (piece : String) : Progress := (Progress.start.addPiece piece).toOption.getD .start

theorem addPiece_start {piece : String} (readable : isReadable piece = true) :
    Progress.start.addPiece piece = .ok (partOf piece) := by
  rw [isReadable] at readable
  rw [partOf]
  cases read : Progress.start.addPiece piece with
  | ok part => rfl
  | error error =>
      rw [read] at readable
      cases readable

/-- A piece that sets a reserved key is not refused, and adds nothing else. -/
theorem partOf_setting {piece : String} {component : Component} {temporal : Temporal}
    (visible : Text.isBlank piece = false) (read : Component.read? piece = some component)
    (set : component.Sets temporal) :
    isReadable piece = true ∧ partOf piece = { Progress.start with temporal := temporal } := by
  have added := addComponent_of_sets set
  rw [isReadable, partOf, Progress.addPiece, visible, if_neg Bool.false_ne_true, read]
  simp only [added]
  exact ⟨rfl, rfl⟩

/-- Whether a piece is reported for having no form. -/
def isReported (piece : String) : Bool :=
  !Text.isBlank piece && (Component.read? piece).isNone

/-- What a piece can add. -/
inductive Adds (piece : String) : Progress → Prop
  | nothing (blank : Text.isBlank piece = true) : Adds piece .start
  | report (reported : isReported piece = true) :
      Adds piece { Progress.start with ignored := [piece] }
  | condition {component : Component} {predicate : Predicate}
      (visible : Text.isBlank piece = false) (read : Component.read? piece = some component)
      (asked : component.Asks predicate) : Adds piece (Progress.start.add predicate)
  | setting {component : Component} {temporal : Temporal}
      (visible : Text.isBlank piece = false) (read : Component.read? piece = some component)
      (set : component.Sets temporal) : Adds piece { Progress.start with temporal := temporal }

theorem adds_partOf {piece : String} (readable : isReadable piece = true) :
    Adds piece (partOf piece) := by
  have added := addPiece_start readable
  rw [addPiece] at added
  split at added
  · rename_i blank
    rw [← Except.ok.inj added]
    exact .nothing blank
  · rename_i visible
    rw [Bool.not_eq_true] at visible
    cases read : Component.read? piece with
    | none =>
        rw [read] at added
        rw [← Except.ok.inj added]
        exact .report (by simp [isReported, visible, read])
    | some component =>
        rw [read] at added
        rcases addComponent_cases added with ⟨predicate, asked, made⟩ | ⟨temporal, set, made⟩
        · rw [← made]
          exact .condition visible read asked
        · rw [← made]
          exact .setting visible read set

/-- The parts of a text together. -/
def together (parts : List Progress) : Progress where
  predicates := parts.flatMap (·.predicates)
  ignored := parts.flatMap (·.ignored)
  temporal :=
    { states := parts.flatMap (·.temporal.states)
      start := (parts.filterMap (·.temporal.start)).getLast?
      finish := (parts.filterMap (·.temporal.finish)).getLast?
      today := (parts.filterMap (·.temporal.today)).getLast? }

theorem getLast?_filterMap_concat {α β : Type} (f : α → Option β) (front : List α) (last : α) :
    ((front ++ [last]).filterMap f).getLast? = (f last).or (front.filterMap f).getLast? := by
  rw [List.filterMap_append, List.getLast?_append]
  cases found : f last <;> simp [found]

theorem together_concat (parts : List Progress) (part : Progress) :
    together (parts ++ [part]) = (together parts).append part := by
  simp only [together, append, getLast?_filterMap_concat, List.flatMap_append,
    List.flatMap_singleton]

/-- Pieces are read in turn. -/
theorem foldlM_addPiece {pieces : List String}
    (readable : ∀ piece ∈ pieces, isReadable piece = true) :
    pieces.foldlM addPiece Progress.start = .ok (together (pieces.map partOf)) := by
  induction pieces using List.reverseRecOn with
  | nil => rfl
  | append_singleton pieces piece ih =>
      have before := ih fun piece member => readable piece (List.mem_append_left _ member)
      have last := addPiece_start (readable piece (by simp))
      rw [List.foldlM_append, before, List.map_append, List.map_singleton, together_concat]
      change [piece].foldlM addPiece (together (pieces.map partOf)) = _
      rw [List.foldlM_cons, addPiece_eq, last]
      rfl

theorem readable_of_foldlM {pieces : List String} (progress : Progress)
    (ok : (pieces.foldlM addPiece progress).isOk = true) :
    ∀ piece ∈ pieces, isReadable piece = true := by
  induction pieces generalizing progress with
  | nil => exact List.forall_mem_nil _
  | cons piece pieces ih =>
      rw [List.foldlM_cons, addPiece_eq] at ok
      cases read : Progress.start.addPiece piece with
      | error error =>
          rw [read] at ok
          cases ok
      | ok part =>
          rw [read] at ok
          have here : isReadable piece = true := by
            rw [isReadable, read]
            rfl
          exact List.forall_mem_cons.mpr ⟨here, ih _ ok⟩

/-- What pieces mean of which none is refused. -/
def expressionOf (today : Date) (pieces : List String) : Expression :=
  let progress := together (pieces.map partOf)
  { predicate := Predicate.allOf (progress.predicates ++ progress.temporal.predicates today)
    ignored := progress.ignored }

theorem read_of_readable (today : Date) {text : String}
    (readable : ∀ piece ∈ splitUnescaped '&' text, isReadable piece = true) :
    read today text = .ok (expressionOf today (splitUnescaped '&' text)) := by
  rw [read, foldlM_addPiece readable]
  rfl

/-- A text is read if none of its pieces is refused, and means what they mean together. -/
theorem read_eq_ok_iff (today : Date) (text : String) (expression : Expression) :
    read today text = .ok expression ↔
      (∀ piece ∈ splitUnescaped '&' text, isReadable piece = true) ∧
        expression = expressionOf today (splitUnescaped '&' text) := by
  constructor
  · intro done
    have readable : ∀ piece ∈ splitUnescaped '&' text, isReadable piece = true := by
      apply readable_of_foldlM Progress.start
      rw [read] at done
      cases folded : (splitUnescaped '&' text).foldlM addPiece Progress.start with
      | ok progress => rfl
      | error error =>
          rw [folded] at done
          cases done
    rw [read_of_readable today readable] at done
    exact ⟨readable, (Except.ok.inj done).symm⟩
  · rintro ⟨readable, rfl⟩
    exact read_of_readable today readable

end Engagements.Search
