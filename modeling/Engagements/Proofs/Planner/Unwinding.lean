import Engagements.Proofs.Planner
import Engagements.Proofs.Search.Equality

/-!
Matching before unwinding. The stages of a plan match documents, unwind them, and match again what
was unwound. For conditions that a document satisfies the sooner, the more values it has, this
leaves the rows that satisfy all conditions after unwinding.
-/
namespace Engagements

/-! The rows of a document. -/

namespace Document

variable {document row : Document} {name : String}

/-- Whether an array in a field has no arrays among its items. -/
def Flat (document : Document) (name : String) : Prop :=
  ∀ items, Fields.get? document name = some (.array items) → ∀ nested, Value.array nested ∉ items

/-- A row has the fields of its document, but for the unwound one, in which it sees a part of what
the document sees. -/
theorem unwind_sees (dotless : '.' ∉ name.toList) (flat : document.Flat name)
    (member : row ∈ document.unwind name) :
    (∀ other ≠ name, Fields.get? row other = Fields.get? document other) ∧
      ∀ below, Value.candidatesBelow (Fields.get? row name) below ⊆
        Value.candidatesBelow (Fields.get? document name) below := by
  have single := segments_of_dotless dotless
  rw [unwind, Value.get?_field document single] at member
  split at member
  · rename_i items found
    obtain ⟨item, inside, made⟩ := List.mem_map.mp member
    have row_eq : row = Fields.insert document name item := by
      rw [← made, Document.set, single, Document.setSegments]
    rw [row_eq]
    constructor
    · intro other different
      rw [Fields.get?_insert, if_neg different]
    · intro below
      rw [Fields.get?_insert_self, found]
      exact Value.candidatesBelow_item inside
        (fun nested same => flat items found nested (same ▸ inside)) below
  · cases member
  · cases member
  · rw [List.mem_singleton.mp member]
    exact ⟨fun _ _ => rfl, fun _ => List.Subset.refl _⟩

end Document

namespace Predicate

variable {document row : Document} {name : String} {predicate : Predicate}

theorem isScoped_iff (dotless : '.' ∉ name.toList) {field : String}
    (speaks : predicate.fields = [field]) :
    predicate.isScoped name = true ↔ (segments field).head? = some name := by
  rw [isScoped, speaks, ← isUnder_iff dotless]
  simp

/-- What a row satisfies is satisfied by its document, and what does not speak of the unwound field
is satisfied by both or none. -/
theorem holds_of_row (dotless : '.' ∉ name.toList) (flat : document.Flat name)
    (member : row ∈ document.unwind name) (positive : predicate.isPositive = true) :
    (predicate.holds (.object row) = true → predicate.holds (.object document) = true) ∧
      (predicate.isScoped name = false →
        predicate.holds (.object row) = predicate.holds (.object document)) := by
  obtain ⟨others, within⟩ := Document.unwind_sees dotless flat member
  obtain ⟨field, meets, speaks, holds⟩ := holds_of_isPositive positive
  obtain ⟨first, rest, split⟩ := List.exists_cons_of_ne_nil (segments_ne_nil field)
  have begins : (segments field).head? = some first := by rw [split, List.head?_cons]
  have under := isScoped_iff dotless speaks
  rw [holds, holds, Value.candidates_object row begins, Value.candidates_object document begins]
  by_cases here : first = name
  · rw [here] at begins ⊢
    constructor
    · intro satisfied
      obtain ⟨value, inside, met⟩ := List.any_eq_true.mp satisfied
      exact List.any_eq_true.mpr ⟨value, within _ inside, met⟩
    · intro unscoped
      rw [under.mpr begins] at unscoped
      cases unscoped
  · rw [others first here]
    exact ⟨id, fun _ => rfl⟩

/-- A row satisfies all conditions if its document does, and the row those that speak of the unwound
field. -/
theorem all_row (dotless : '.' ∉ name.toList) (flat : document.Flat name)
    (member : row ∈ document.unwind name) {conditions : List Predicate}
    (positive : ∀ predicate ∈ conditions, predicate.isPositive = true) :
    conditions.all (holds (.object row)) =
      (conditions.all (holds (.object document)) &&
        (conditions.filter (isScoped name)).all (holds (.object row))) := by
  rw [Bool.eq_iff_iff, Bool.and_eq_true]
  simp only [List.all_eq_true, List.mem_filter]
  constructor
  · intro satisfied
    exact ⟨fun predicate inside =>
      (holds_of_row dotless flat member (positive predicate inside)).1 (satisfied predicate inside),
      fun predicate inside => satisfied predicate inside.1⟩
  · rintro ⟨before, after⟩ predicate inside
    cases under : predicate.isScoped name with
    | true => exact after predicate ⟨inside, under⟩
    | false =>
        rw [(holds_of_row dotless flat member (positive predicate inside)).2 under]
        exact before predicate inside

end Predicate

/-! Search texts without a negation. -/

namespace Search

/-- Whether a component neither is negated nor asks for a state. -/
def Component.isPositive : Component → Bool
  | like _ _ | present _ => true
  | unlike _ _ | absent _ => false
  | equals key _ => Text.asciiLower (String.ofList key) != "state"

def isPositive (text : String) : Bool :=
  (splitUnescaped '&' text).all fun piece => (Component.read? piece).all (·.isPositive)

theorem Component.Asks.isPositive {component : Component} {predicate : Predicate}
    (asks : component.Asks predicate) (positive : component.isPositive = true) :
    predicate.isPositive = true := by
  cases asks with
  | unlike read => cases positive
  | absent field => cases positive
  | _ => rfl

theorem Component.Sets.states_eq_nil {component : Component} {temporal : Temporal}
    (sets : component.Sets temporal) (positive : component.isPositive = true) :
    temporal.states = [] := by
  cases sets with
  | states reserved value => simp [Component.isPositive, reserved] at positive
  | _ => rfl

theorem Adds.positive {piece : String} {part : Progress} (adds : Adds piece part)
    (positive : (Component.read? piece).all (·.isPositive) = true) :
    (∀ predicate ∈ part.predicates, predicate.isPositive = true) ∧ part.temporal.states = [] := by
  cases adds with
  | condition visible read asked =>
      rw [read] at positive
      refine ⟨fun predicate member => ?_, rfl⟩
      rw [List.mem_singleton.mp member]
      exact asked.isPositive positive
  | setting visible read set =>
      rw [read] at positive
      exact ⟨List.forall_mem_nil _, set.states_eq_nil positive⟩
  | _ => exact ⟨List.forall_mem_nil _, rfl⟩

/-- A text without a negation is a conjunction of positive predicates. -/
theorem positive_conditions {today : Date} {text : String} {expression : Expression}
    (read : Search.read today text = .ok expression) (positive : isPositive text = true) :
    ∃ conditions, expression.predicate = Predicate.allOf conditions ∧
      ∀ predicate ∈ conditions, predicate.isPositive = true := by
  obtain ⟨readable, rfl⟩ := (read_eq_ok_iff today text expression).mp read
  have parts : ∀ piece ∈ splitUnescaped '&' text,
      (∀ predicate ∈ (partOf piece).predicates, predicate.isPositive = true) ∧
        (partOf piece).temporal.states = [] := fun piece member =>
    (adds_partOf (readable piece member)).positive (List.all_eq_true.mp positive piece member)
  have stateless : (together ((splitUnescaped '&' text).map partOf)).temporal.states = [] := by
    rw [together, List.flatMap_eq_nil_iff]
    intro part member
    obtain ⟨piece, inside, rfl⟩ := List.mem_map.mp member
    exact (parts piece inside).2
  refine ⟨_, rfl, fun predicate member => ?_⟩
  rcases List.mem_append.mp member with asked | dated
  · obtain ⟨part, member, inside⟩ := List.mem_flatMap.mp asked
    obtain ⟨piece, known, rfl⟩ := List.mem_map.mp member
    exact (parts piece known).1 predicate inside
  · have bound (comparison : Comparison) (date : Option Date) :
        ∀ predicate ∈ Temporal.endDateBound comparison date, predicate.isPositive = true := by
      cases date <;> simp [Temporal.endDateBound, Predicate.isPositive]
    rw [Temporal.predicates, stateless, List.mem_append, List.mem_append] at dated
    rcases dated with (state | start) | finish
    · cases state
    · exact bound _ _ predicate start
    · exact bound _ _ predicate finish

end Search

/-! The stages. -/

namespace Planner

/-- The stages that match, unwind and match again. -/
def matchStages (predicate : Option Predicate) (path : String) : Pipeline :=
  (predicate.map Stage.filter).toList ++ [.unwind path]
    ++ ((predicate.bind (·.scopedTo path)).map Stage.filter).toList

theorem runAll_filter (predicate : Option Predicate) (documents : List Document) :
    Stage.runAll documents (predicate.map Stage.filter).toList =
      .ok (documents.filter fun document => Predicate.accepts predicate (.object document)) := by
  cases predicate with
  | none => simp [Stage.runAll, Predicate.accepts]
  | some predicate => exact Stage.runAll_singleton documents (.filter predicate)

/-- A search alone selects what it accepts. -/
theorem rows_searching (planner : Planner) {text : String} {expression : Search.Expression}
    (read : Search.read planner.today text = .ok expression) (documents : List Document) :
    planner.rows (FilterSpec.empty.searching text) none documents =
      .ok (documents.filter fun document =>
        Predicate.accepts expression.predicate (.object document)) := by
  have conditions : planner.conditions (FilterSpec.empty.searching text) none =
      .ok (Predicate.allOf expression.predicate.toList, expression.ignored) := by
    have sought : Search.read planner.today (FilterSpec.empty.searching text).searchText =
        .ok expression := read
    rw [Planner.conditions, checkSize_of_unsized planner rfl, sought]
    rfl
  have same (document : Value) :
      Predicate.accepts (Predicate.allOf expression.predicate.toList) document =
        Predicate.accepts expression.predicate document := by
    rw [Predicate.accepts_allOf]
    cases expression.predicate <;> simp [Predicate.accepts]
  have stages (predicate : Option Predicate) :
      sharedStages (FilterSpec.empty.searching text) predicate =
        (predicate.map Stage.filter).toList := (List.append_nil _).trans (List.append_nil _)
  have selected := runAll_filter (Predicate.allOf expression.predicate.toList) documents
  rw [← stages] at selected
  rw [rows, conditions, ← funext fun document => same (.object document)]
  exact selected

theorem runAll_matchStages (predicate : Option Predicate) (path : String)
    (documents : List Document) :
    Stage.runAll documents (matchStages predicate path) =
      .ok (((documents.filter fun document =>
          Predicate.accepts predicate (.object document)).flatMap (Document.unwind · path)).filter
        fun row => Predicate.accepts (predicate.bind (·.scopedTo path)) (.object row)) := by
  rw [matchStages, List.append_assoc, Stage.runAll_append_ok (runAll_filter predicate documents),
    List.singleton_append, Stage.runAll, Stage.run]
  exact runAll_filter _ _

theorem accepts_scopedTo {conditions : List Predicate}
    (single : ∀ predicate ∈ conditions, predicate.conjuncts = [predicate]) (path : String)
    (document : Value) :
    Predicate.accepts ((Predicate.allOf conditions).bind (·.scopedTo path)) document =
      (conditions.filter (Predicate.isScoped path)).all (Predicate.holds document) := by
  by_cases nonempty : conditions = []
  · rw [nonempty]
    rfl
  · obtain ⟨whole, made, parts⟩ := Option.map_eq_some_iff.mp
      (Predicate.conjuncts_allOf nonempty single)
    rw [made, Option.bind_some, Predicate.scopedTo, parts, Predicate.accepts_allOf]

/-- Matching before unwinding leaves the rows that satisfy all conditions, in their order. -/
theorem filter_unwind {name : String} (dotless : '.' ∉ name.toList) {documents : List Document}
    (flat : ∀ document ∈ documents, document.Flat name) {conditions : List Predicate}
    (positive : ∀ predicate ∈ conditions, predicate.isPositive = true) :
    ((documents.filter fun document => conditions.all
        (Predicate.holds (.object document))).flatMap (Document.unwind · name)).filter
          (fun row => (conditions.filter (Predicate.isScoped name)).all
            (Predicate.holds (.object row))) =
      (documents.flatMap (Document.unwind · name)).filter fun row =>
        conditions.all (Predicate.holds (.object row)) := by
  induction documents with
  | nil => rfl
  | cons document documents ih =>
      obtain ⟨here, others⟩ := List.forall_mem_cons.mp flat
      have rows : (document.unwind name).filter (fun row =>
            conditions.all (Predicate.holds (.object row))) =
          (document.unwind name).filter (fun row =>
            conditions.all (Predicate.holds (.object document)) &&
              (conditions.filter (Predicate.isScoped name)).all
                (Predicate.holds (.object row))) :=
        List.filter_congr fun row member => Predicate.all_row dotless here member positive
      rw [List.flatMap_cons, List.filter_append, rows, ← ih others, List.filter_cons]
      cases conditions.all (Predicate.holds (.object document)) <;> simp

/-- The stages behind those that match. -/
def laterStages (spec : FilterSpec) (paging : Option Paging) : Pipeline :=
  (spec.groupByField.map groupStages).getD [] ++ envelopeStages spec paging

theorem sharedStages_of_entire {spec : FilterSpec} {name : String}
    (unwinds : spec.unwindField = some name) (entire : spec.flattenedFields = [])
    (predicate : Option Predicate) :
    sharedStages spec predicate =
      matchStages predicate name ++ (spec.groupByField.map groupStages).getD [] := by
  cases grouped : spec.groupByField <;>
    simp [sharedStages, matchStages, unwindStages, unwinds, entire, grouped]

theorem pipeline_of_plan {planner : Planner} {spec : FilterSpec} {plan : Plan}
    (accepted : planner.plan spec none = .ok plan) :
    ∃ expression, Search.read planner.today spec.searchText = .ok expression ∧
      plan.pipeline =
        sharedStages spec (Predicate.allOf expression.predicate.toList) ++
          envelopeStages spec plan.paging := by
  obtain ⟨predicate, ignored, found⟩ := conditions_of_plan (by rw [accepted]; rfl)
  obtain ⟨expression, read, rfl, _⟩ := read_of_conditions found
  rw [Planner.plan, found] at accepted
  rw [← Except.ok.inj accepted]
  exact ⟨expression, read, rfl⟩

/-- For a search text without a negation, matching before unwinding and again afterwards leaves the
rows that satisfy the whole text after unwinding, in their order. -/
theorem prefilter_keeps_rows (planner : Planner) (spec : FilterSpec) (plan : Plan) (name : String)
    (accepted : planner.plan spec none = .ok plan) (unwinds : spec.unwindField = some name)
    (dotless : '.' ∉ name.toList) (entire : spec.flattenedFields = [])
    (positive : Search.isPositive spec.searchText = true) (documents : List Document)
    (flat : ∀ document ∈ documents, document.Flat name) :
    ∃ expression, Search.read planner.today spec.searchText = .ok expression ∧
      plan.pipeline =
        matchStages expression.predicate name ++ laterStages spec plan.paging ∧
      Pipeline.run (matchStages expression.predicate name) documents =
        .ok ((documents.flatMap (Document.unwind · name)).filter fun row =>
          Predicate.accepts expression.predicate (.object row)) := by
  obtain ⟨expression, read, pipeline⟩ := pipeline_of_plan accepted
  obtain ⟨conditions, made, each⟩ := Search.positive_conditions read positive
  have single : ∀ predicate ∈ conditions, predicate.conjuncts = [predicate] :=
    fun predicate member => Predicate.conjuncts_of_isPositive (each predicate member)
  refine ⟨expression, read, ?_, ?_⟩
  · rw [pipeline, made, Predicate.allOf_toList_allOf single, sharedStages_of_entire unwinds entire,
      laterStages, List.append_assoc]
  · rw [Pipeline.run, runAll_matchStages, made]
    simp only [accepts_scopedTo single, Predicate.accepts_allOf]
    rw [filter_unwind dotless flat each]

/-- The category of a name for engagements of a customer, one row for each category. -/
def categoriesAsked : FilterSpec :=
  (FilterSpec.empty.searching "categories.name=a&customerName=c").unwinding "categories"

/-- Two engagements of the customer, of which only the first one has the category. -/
def categorized : List Document :=
  [[("customerName", .string "c"), ("categories", .array
      [.object [("name", .string "a")], .object [("name", .string "b")]])],
    [("customerName", .string "c"), ("categories", .array [.object [("name", .string "b")]])]]

theorem categories_keep_rows :
    ∃ plan, (standard ⟨2020, 6, 1⟩).plan categoriesAsked none = .ok plan ∧
      (∀ document ∈ categorized, document.Flat "categories") ∧
        ∃ expression, Search.read ⟨2020, 6, 1⟩ categoriesAsked.searchText = .ok expression ∧
          plan.pipeline = matchStages expression.predicate "categories" ++
            laterStages categoriesAsked plan.paging ∧
          Pipeline.run (matchStages expression.predicate "categories") categorized =
            .ok ((categorized.flatMap (Document.unwind · "categories")).filter
              fun row => Predicate.accepts expression.predicate (.object row)) := by
  have read := Search.read_equalities ⟨2020, 6, 1⟩ [("categories.name", "a"), ("customerName", "c")]
    (by decide) (by decide) (by decide) (by decide)
  have text : categoriesAsked.searchText = Search.joined
      (Search.equalities [("categories.name", "a"), ("customerName", "c")]) := by decide
  have valid : categoriesAsked.validate = .ok () := by
    rw [FilterSpec.validate_ok_iff]
    simp only [categoriesAsked, FilterSpec.unwinding, Option.any_some, Text.isBlank_eq]
    decide
  have flat : ∀ document ∈ categorized, document.Flat "categories" := by
    simp [categorized, Document.Flat, Fields.get?]
  have positive : Search.isPositive categoriesAsked.searchText = true := by
    have pieces : Search.splitUnescaped '&' categoriesAsked.searchText =
        ["categories.name=a", "customerName=c"] := by decide
    have category : Search.Component.read? "categories.name=a" =
        some (.equals "categories.name".toList ['a']) :=
      Search.read?_of_line (by decide) (by decide +kernel) (by decide)
    have customer : Search.Component.read? "customerName=c" =
        some (.equals "customerName".toList ['c']) :=
      Search.read?_of_line (by decide) (by decide +kernel) (by decide)
    rw [Search.isPositive, pieces, List.all_cons, List.all_cons, category, customer]
    decide
  have accepted : ∃ plan, (standard ⟨2020, 6, 1⟩).plan categoriesAsked none = .ok plan := by
    rw [plan, conditions, valid, text]
    exact ⟨_, by rw [standard, read]; rfl⟩
  obtain ⟨plan, accepted⟩ := accepted
  exact ⟨plan, accepted, flat, prefilter_keeps_rows (standard ⟨2020, 6, 1⟩) categoriesAsked plan
    "categories" accepted rfl (by decide) (by decide) positive categorized flat⟩

end Planner

end Engagements
