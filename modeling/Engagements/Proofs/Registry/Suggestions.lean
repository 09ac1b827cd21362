import Engagements.Proofs.Catalog.Groups
import Engagements.Proofs.Planner.Flattening
import Engagements.Proofs.Regex.Room
import Engagements.Proofs.Search.Fragment
import Engagements.Registry

/-!
Suggestions for a field. They are the values that contain a text literally, up to case; but the text
goes through the syntax of searches, which cuts off white space and does not read over lines.
-/
namespace Engagements.Registry

open Planner Search

variable {planner : Planner} {field : String}

/-! What is suggested. -/

/-- In a document the field is missing, null or a text. -/
def Textual (field : String) (document : Document) : Prop :=
  ∀ value ∈ (Value.object document).get? field, value = .null ∨ ∃ text, value = .string text

/-- A document has a text in the field that contains the given one up to case. -/
def Contains (field fragment : String) (document : Document) : Prop :=
  ∃ text ∈ ((Value.object document).get? field).bind Value.asString?,
    Text.caseFolded fragment <:+: Text.caseFolded text

instance (field fragment : String) (document : Document) :
    Decidable (Contains field fragment document) :=
  inferInstanceAs (Decidable (∃ text ∈ _, _))

/-- The filter whose results are the suggestions. -/
def suggestion (field fragment : String) : FilterSpec :=
  (FilterSpec.empty.searching (likeness field fragment)).groupedBy field

/-- What is shown of the documents of a group: the value of the field in the first of them, if it is
there, and their number. -/
def suggestionOf (field : String) (members : List Document) : Document :=
  ((Value.object (members.headD [])).get? field).toList.map (trailingSegment field, ·) ++
    [(countField, .int members.length)]

/-- A page shows the groups of some documents by the lowercase text of a field, in the order in
which they begin, and the numbers of their documents come to the number of all. -/
structure Lists (field : String) (documents : List Document) (page : Page) : Prop where
  rows : page.results =
    (groupTexts field documents).map fun text =>
      suggestionOf field (groupMembers field documents text)
  sum : (page.results.map fun row => (Catalog.count? row countField).getD 0).sum =
    documents.length

/-- A store that answers, and whose documents, in memory, have texts in the field if anything. -/
structure Answers (field : String) (store : Store) : Prop where
  struck : store.outage = none
  bound : store.documents.length < Width.size 63
  named : ∀ document ∈ store.documents, (Fields.names document).Nodup
  textual : ∀ document ∈ store.documents, Textual field document

/-- Suggestions for a text list some of the documents. -/
def Suggests (planner : Planner) (field fragment : String) (store : Store)
    (documents : List Document) : Prop :=
  ∃ page, store.perform (suggest planner field fragment) = (.ok page, store) ∧
    Lists field documents page

/-- On all stores that answer, suggestions for a text list the documents that contain it. -/
def SuggestsLiterally (planner : Planner) (field fragment : String) : Prop :=
  ∀ store, Answers field store → Suggests planner field fragment store
    (store.documents.filter fun document => Contains field fragment document)

/-! How a group is shown. -/

theorem reserved_fields : ∀ field ∈ fields, field.2 = .string →
    ∀ part ∈ Text.splitChars '.' field.1.toList,
      part ∉ [idField.toList, countField.toList, groupKeyField.toList] := by
  decide +kernel

/-- No searchable path leads over the places where groups are kept apart and counted. -/
theorem ne_of_mem_segments (kind : kindOf? field = some .string) {name : String}
    (member : name ∈ segments field) :
    name ≠ idField ∧ name ≠ countField ∧ name ≠ groupKeyField := by
  obtain ⟨part, split, rfl⟩ := List.mem_map.mp member
  have free := reserved_fields _ (mem_fields_of_kindOf? kind) rfl part split
  simp only [List.mem_cons, List.not_mem_nil, or_false, not_or] at free
  have apart {reserved : String} (other : part ≠ reserved.toList) :
      String.ofList part ≠ reserved :=
    fun same => other (by rw [← same, String.toList_ofList])
  exact ⟨apart free.1, apart free.2.1, apart free.2.2⟩

/-- A group is labelled and counted at places to which no searchable path leads. -/
theorem get?_groupRow (kind : kindOf? field = some .string) {documents : List Document}
    (named : ∀ document ∈ documents, (Fields.names document).Nodup) (text : String) :
    (Value.object (groupRow field documents text)).get? field =
      (Value.object ((groupMembers field documents text).headD [])).get? field := by
  have distinct : (Fields.names ((groupMembers field documents text).headD [])).Nodup := by
    cases split : groupMembers field documents text with
    | nil => exact List.nodup_nil
    | cons first rest =>
        have member : first ∈ groupMembers field documents text := by
          rw [split]
          exact List.mem_cons_self
        exact named first (List.mem_of_mem_filter member)
  refine get?_counted_labelled distinct ?_ ?_ _ _
  · intro begins
    exact (ne_of_mem_segments kind (List.mem_of_head? begins)).2.2 rfl
  · intro begins
    exact (ne_of_mem_segments kind (List.mem_of_head? begins)).2.1 rfl

theorem resultProjection_suggestion (kind : kindOf? field = some .string) (fragment : String) :
    resultProjection (suggestion field fragment) =
      [(idField, .dropped), (trailingSegment field, .computed (.field field)),
        (countField, .computed (.field countField))] := by
  obtain ⟨identified, counted, _⟩ := ne_of_mem_segments kind (trailingSegment_mem field)
  have plain : idField ≠ countField := by decide
  simp [resultProjection, suggestion, FilterSpec.searching, FilterSpec.groupedBy,
    FilterSpec.empty, Projection.drop, Projection.compute, Projection.add, Ne.symm identified,
    counted, plain]

theorem apply_groupRow (kind : kindOf? field = some .string) (fragment : String)
    {documents : List Document} (named : ∀ document ∈ documents, (Fields.names document).Nodup)
    (text : String) :
    (resultProjection (suggestion field fragment)).apply (groupRow field documents text) =
      suggestionOf field (groupMembers field documents text) := by
  obtain ⟨_, different, _⟩ := ne_of_mem_segments kind (trailingSegment_mem field)
  have single : segments countField = [countField] := by decide
  have value : (Expr.field field).eval (groupRow field documents text) =
      (Value.object ((groupMembers field documents text).headD [])).get? field :=
    get?_groupRow kind named text
  have count : (Expr.field countField).eval (groupRow field documents text) =
      some (.int (groupMembers field documents text).length) := by
    rw [Expr.eval, Value.get?_field _ single, groupRow, Fields.get?_insert_self]
  rw [resultProjection_suggestion kind fragment, Projection.apply, if_pos (by rfl),
    Projection.selectedId, if_pos (by rfl), suggestionOf]
  simp only [Projection.selectAll, Projection.select, value, count]
  cases (Value.object ((groupMembers field documents text).headD [])).get? field with
  | none => simp [Document.set, single, Document.setSegments, Fields.insert]
  | some shown =>
      simp [Document.set, single, segments_trailingSegment, Document.setSegments, Fields.insert,
        different]

theorem count?_suggestionOf (kind : kindOf? field = some .string) {members : List Document}
    (bound : members.length < Width.size 64) :
    Catalog.count? (suggestionOf field members) countField = some members.length := by
  obtain ⟨_, different, _⟩ := ne_of_mem_segments kind (trailingSegment_mem field)
  refine Catalog.count?_of_int ?_ bound
  rw [suggestionOf]
  cases (Value.object (members.headD [])).get? field with
  | none => rfl
  | some value => simp [Fields.get?, different]

/-! How suggestions are found. -/

theorem suggest_eq_findPage (planner : Planner) (field fragment : String) :
    suggest planner field fragment = Catalog.findPage planner (suggestion field fragment) none :=
  rfl

theorem validate_suggestion (kind : kindOf? field = some .string) (fragment : String) :
    (suggestion field fragment).validate = .ok () := by
  refine (FilterSpec.validate_ok_iff _).mpr ⟨nofun, nofun, nofun, nofun, ?_⟩
  have visible := visible_of_isKey (isKey_fields _ (mem_fields_of_kindOf? kind)) []
  rw [List.append_nil] at visible
  simp [suggestion, FilterSpec.groupedBy, Text.isBlank, visible]

theorem conditions_suggestion (planner : Planner) (kind : kindOf? field = some .string)
    (fragment : String) :
    planner.conditions (suggestion field fragment) none =
      (Search.read planner.today (likeness field fragment)).map fun expression =>
        (Predicate.allOf expression.predicate.toList, expression.ignored) := by
  have fits : planner.checkSize (suggestion field fragment) = .ok () :=
    planner.checkSize_of_unsized rfl
  rw [conditions, validate_suggestion kind, fits]
  change (do let expression ← Search.read planner.today (likeness field fragment); _) = _
  cases Search.read planner.today (likeness field fragment) <;> rfl

theorem rows_suggestion {fragment : String} {predicate : Option Predicate} {ignored : List String}
    (accepted : planner.conditions (suggestion field fragment) none = .ok (predicate, ignored))
    (documents : List Document) :
    planner.rows (suggestion field fragment).ungrouped none documents =
      .ok (documents.filter fun document => Predicate.accepts predicate (.object document)) := by
  have valid := valid_of_conditions accepted
  have same : planner.conditions (suggestion field fragment).ungrouped none =
      .ok (predicate, ignored) :=
    (conditions_ungrouped valid none).trans accepted
  rw [rows, same]
  cases predicate with
  | none =>
      have all : (documents.filter fun document =>
          Predicate.accepts none (.object document)) = documents := List.filter_true documents
      rw [all]
      rfl
  | some predicate => rfl

/-- What is selected before it is grouped makes up the suggestions. -/
theorem perform_suggest (kind : kindOf? field = some .string) {fragment : String} {store : Store}
    (struck : store.outage = none) {predicate : Option Predicate} {ignored : List String}
    (accepted : planner.conditions (suggestion field fragment) none = .ok (predicate, ignored))
    (bound : store.documents.length < Width.size 63)
    (named : ∀ document ∈ store.documents, (Fields.names document).Nodup) :
    ∃ page, store.perform (suggest planner field fragment) = (.ok page, store) ∧
      Lists field (store.documents.filter fun document =>
        Predicate.accepts predicate (.object document)) page := by
  have selected := rows_suggestion accepted store.documents
  generalize split : (store.documents.filter fun document =>
    Predicate.accepts predicate (.object document)) = chosen at selected
  have part : chosen.length ≤ store.documents.length := split ▸ List.length_filter_le _ _
  have named : ∀ document ∈ chosen, (Fields.names document).Nodup := fun document member =>
    named document (List.mem_of_mem_filter (split ▸ member))
  have made := rows_grouped (valid_of_conditions accepted) rfl selected (by omega)
  have unsorted : (suggestion field fragment).sortKeys = [] := by
    change FilterSpec.empty.sortKeys = []
    decide
  have shown : results (suggestion field fragment)
      ((groupTexts field chosen).map (groupRow field chosen)) =
        (groupTexts field chosen).map fun text =>
          suggestionOf field (groupMembers field chosen text) := by
    rw [Catalog.results_unsorted unsorted, List.map_map]
    refine List.map_congr_left fun text _ => ?_
    rw [Function.comp_apply, apply_groupRow kind fragment named]
  have unpaged : (suggestion field fragment).paging planner.defaultPerPage = none := rfl
  rw [suggest_eq_findPage, Catalog.perform_findPage struck made, unpaged, onPage, shown]
  refine ⟨_, rfl, Catalog.results_pageOf _ _ _, ?_⟩
  · rw [Catalog.results_pageOf, List.map_map, ← sum_groupMembers field chosen]
    refine congrArg List.sum (List.map_congr_left fun text _ => ?_)
    have some : (groupMembers field chosen text).length ≤ chosen.length :=
      List.length_filter_le _ _
    have wider : Width.size 63 ≤ Width.size 64 := by decide
    rw [Function.comp_apply, count?_suggestionOf kind (by omega), Option.getD_some]

/-! Which documents a suggestion counts. -/

/-- In documents whose field is a text if anything, the pattern of a text looks for this text. -/
theorem holds_like_literal {document : Document} (textual : Textual field document)
    (fragment : String) :
    (Predicate.like field (Pattern.literal fragment)).holds (.object document) = true ↔
      Contains field fragment document := by
  have flat : ∀ items, (Value.object document).get? field ≠ some (.array items) := by
    intro items held
    rcases textual _ held with same | ⟨text, same⟩ <;> cases same
  rw [Predicate.holds, Value.candidates_of_get? flat, Contains]
  cases (Value.object document).get? field with
  | none => simp
  | some value =>
      cases value with
      | string text => simp [Predicate.textMatches, Value.asString?, Pattern.occursIn_literal]
      | _ => simp [Predicate.textMatches, Value.asString?]

theorem filter_like_literal {documents : List Document}
    (textual : ∀ document ∈ documents, Textual field document) (fragment : String) :
    (documents.filter fun document =>
        Predicate.accepts (some (.like field (Pattern.literal fragment))) (.object document)) =
      documents.filter fun document => Contains field fragment document := by
  refine List.filter_congr fun document member => ?_
  rw [Bool.eq_iff_iff, decide_eq_true_iff]
  exact holds_like_literal (textual document member) fragment

/-! What becomes of a text. -/

theorem conditions_of_lines (planner : Planner) (kind : kindOf? field = some .string)
    {fragment : String} (lines : '\n' ∈ (Text.trim fragment).toList) :
    planner.conditions (suggestion field fragment) none =
      .ok (none, [likeness field fragment]) := by
  rw [conditions_suggestion planner kind, read_likeness planner.today kind, if_pos lines]
  rfl

theorem conditions_of_fits (planner : Planner) (kind : kindOf? field = some .string)
    {fragment : String} (single : '\n' ∉ (Text.trim fragment).toList)
    (fits : Pattern.Fits (Text.trim fragment)) :
    planner.conditions (suggestion field fragment) none =
      .ok (some (.like field (Pattern.literal (Text.trim fragment))), []) := by
  rw [conditions_suggestion planner kind, read_likeness planner.today kind, if_neg single,
    if_pos fits]
  rfl

theorem perform_of_large (planner : Planner) (kind : kindOf? field = some .string)
    {fragment : String} (single : '\n' ∉ (Text.trim fragment).toList)
    (large : ¬Pattern.Fits (Text.trim fragment))
    (store : Store) :
    ∃ error, store.perform (suggest planner field fragment) = (.error error, store) := by
  have refused := conditions_suggestion planner kind fragment
  rw [read_likeness planner.today kind, if_neg single, if_neg large] at refused
  have unplanned : ∃ error, planner.plan (suggestion field fragment) none = .error error := by
    rw [plan, refused]
    exact ⟨_, rfl⟩
  obtain ⟨error, unplanned⟩ := unplanned
  refine ⟨error, ?_⟩
  rw [suggest_eq_findPage, Catalog.findPage, Store.perform_bind, Store.perform_lift, unplanned]

theorem suggests_of_lines (planner : Planner) (kind : kindOf? field = some .string)
    {fragment : String} (lines : '\n' ∈ (Text.trim fragment).toList) {store : Store}
    (answers : Answers field store) :
    Suggests planner field fragment store store.documents := by
  have all : (store.documents.filter fun document =>
      Predicate.accepts none (.object document)) = store.documents := List.filter_true _
  rw [← all]
  exact perform_suggest kind answers.struck (conditions_of_lines planner kind lines) answers.bound
    answers.named

theorem suggests_of_fits (planner : Planner) (kind : kindOf? field = some .string)
    {fragment : String} (single : '\n' ∉ (Text.trim fragment).toList)
    (fits : Pattern.Fits (Text.trim fragment))
    {store : Store} (answers : Answers field store) :
    Suggests planner field fragment store
      (store.documents.filter fun document => Contains field (Text.trim fragment) document) := by
  rw [← filter_like_literal answers.textual]
  exact perform_suggest kind answers.struck (conditions_of_fits planner kind single fits)
    answers.bound answers.named

/-- Documents that are listed are as many as their counts on the page. -/
theorem Suggests.length_eq {fragment : String} {store : Store} {documents others : List Document}
    (suggested : Suggests planner field fragment store documents)
    (again : Suggests planner field fragment store others) :
    documents.length = others.length := by
  obtain ⟨page, found, lists⟩ := suggested
  obtain ⟨same, found', lists'⟩ := again
  obtain rfl : page = same := Except.ok.inj (congrArg Prod.fst (found.symm.trans found'))
  rw [← lists.sum, lists'.sum]

theorem Lists.results_single {document : Document} {page : Page}
    (lists : Lists field [document] page) :
    page.results = [suggestionOf field [document]] := by
  have single : groupTexts field [document] = [groupText field document] := by
    simp [groupTexts, List.eraseDups_cons]
  have members : groupMembers field [document] (groupText field document) = [document] := by
    simp [groupMembers]
  rw [lists.rows, single, List.map_singleton, members]

/-! Texts that are not suggested literally. -/

/-- A store of one document with a text in a field. -/
def storeOf (field text : String) : Store :=
  ⟨[Document.set [] field (.string text)], 0, ⟨0, 0⟩, 5000, none⟩

theorem answers_storeOf (field text : String) : Answers field (storeOf field text) where
  struck := rfl
  bound := (by decide : 1 < Width.size 63)
  named := by
    intro document member
    rw [List.mem_singleton.mp member]
    have none : (Fields.names []).Nodup := List.nodup_nil
    exact Document.nodup_setSegments none _ _
  textual := by
    intro document member value held
    rw [List.mem_singleton.mp member, Value.get?_set_self] at held
    exact Or.inr ⟨text, (Option.some.inj held).symm⟩

theorem contains_storeOf (field fragment text : String) :
    Contains field fragment (Document.set [] field (.string text)) ↔
      Text.caseFolded fragment <:+: Text.caseFolded text := by
  rw [Contains, Value.get?_set_self]
  simp [Value.asString?]

theorem filter_storeOf {fragment text : String}
    (inside : Text.caseFolded fragment <:+: Text.caseFolded text) :
    ((storeOf field text).documents.filter fun document => Contains field fragment document) =
      (storeOf field text).documents := by
  rw [List.filter_eq_self]
  intro document member
  rw [List.mem_singleton.mp member, decide_eq_true_iff]
  exact (contains_storeOf field fragment text).mpr inside

/-- What is suggested literally lists the one document of a store only if that contains it. -/
theorem SuggestsLiterally.infix_of_all {fragment text : String}
    (literally : SuggestsLiterally planner field fragment)
    (all : Suggests planner field fragment (storeOf field text) (storeOf field text).documents) :
    Text.caseFolded fragment <:+: Text.caseFolded text := by
  have length := (literally _ (answers_storeOf field text)).length_eq all
  rw [List.length_filter_eq_length_iff] at length
  exact (contains_storeOf field fragment text).mp
    (of_decide_eq_true (length _ (List.mem_singleton_self _)))

/-- What occurs in itself when it is trimmed was trimmed before. -/
theorem trim_eq_self_of_infix {fragment : String}
    (inside : Text.caseFolded fragment <:+: Text.caseFolded (Text.trim fragment)) :
    Text.trim fragment = fragment := by
  have longer := inside.length_le
  rw [Text.caseFolded, Text.caseFolded, List.length_map, List.length_map, toList_trim] at longer
  have same := (Text.trimChars_isInfix fragment.toList).eq_of_length_le longer
  rw [Text.trim, same, String.ofList_toList]

/-- On stores that answer a text is suggested as it stands without the white space around it, if it
then is of one line and fits into a pattern; over lines it lists all documents, and what is too large
fails. So it is suggested literally exactly if it is trimmed, of one line and fits. -/
theorem suggestions_are_literal_iff (planner : Planner) {field : String}
    (kind : kindOf? field = some .string) (fragment : String) :
    (∀ store, Answers field store →
      ('\n' ∈ (Text.trim fragment).toList →
        Suggests planner field fragment store store.documents) ∧
      ('\n' ∉ (Text.trim fragment).toList → Pattern.Fits (Text.trim fragment) →
        Suggests planner field fragment store
          (store.documents.filter fun document => Contains field (Text.trim fragment) document)) ∧
      ('\n' ∉ (Text.trim fragment).toList → ¬Pattern.Fits (Text.trim fragment) →
        ∃ error, store.perform (suggest planner field fragment) = (.error error, store))) ∧
    (SuggestsLiterally planner field fragment ↔
      Text.trim fragment = fragment ∧ '\n' ∉ fragment.toList ∧ Pattern.Fits fragment) := by
  refine ⟨fun store answers => ⟨?_, ?_, ?_⟩, ?_, ?_⟩
  · exact fun lines => suggests_of_lines planner kind lines answers
  · exact fun single fits => suggests_of_fits planner kind single fits answers
  · exact fun single large => perform_of_large planner kind single large store
  · intro literally
    rcases em ('\n' ∈ (Text.trim fragment).toList) with lines | single
    · have inside := literally.infix_of_all
        (suggests_of_lines planner kind lines (answers_storeOf field ""))
      have empty : fragment.toList = [] := List.map_eq_nil_iff.mp (List.infix_nil.mp inside)
      rw [toList_trim, empty] at lines
      cases lines
    · rcases em (Pattern.Fits (Text.trim fragment)) with fits | large
      · have all := suggests_of_fits planner kind single fits
          (answers_storeOf field (Text.trim fragment))
        rw [filter_storeOf (List.infix_refl _)] at all
        have trimmed := trim_eq_self_of_infix (literally.infix_of_all all)
        rw [trimmed] at single fits
        exact ⟨trimmed, single, fits⟩
      · obtain ⟨error, failed⟩ := perform_of_large planner kind single large (storeOf field "")
        obtain ⟨page, found, _⟩ := literally _ (answers_storeOf field "")
        rw [failed] at found
        cases found
  · rintro ⟨trimmed, single, fits⟩ store answers
    have suggested := suggests_of_fits planner kind (trimmed.symm ▸ single)
      (trimmed.symm ▸ fits) answers
    rwa [trimmed] at suggested

/-- A customer whose name has a hyphen, and one whose name has a space instead. -/
def hyphenStore : Store :=
  ⟨[[("customerName", .string "7-11")], [("customerName", .string "7 11")]], 0, ⟨0, 0⟩, 5000, none⟩

theorem answers_hyphenStore : Answers "customerName" hyphenStore where
  struck := rfl
  bound := by decide
  named := by decide
  textual := by
    intro document member value held
    rcases List.mem_pair.mp member with rfl | rfl
    · exact Or.inr ⟨"7-11", (Option.some.inj held).symm⟩
    · exact Or.inr ⟨"7 11", (Option.some.inj held).symm⟩

theorem hyphens_are_suggested :
    kindOf? "customerName" = some .string ∧
      ∃ page, hyphenStore.perform (suggest Catalog.tagPlanner "customerName" "7-") =
          (.ok page, hyphenStore) ∧
        page.results = [[("customerName", .string "7-11"), ("count", .int 1)]] := by
  have kind : kindOf? "customerName" = some .string := by decide
  have trimmed : Text.trim "7-" = "7-" := by
    simp only [Text.trim, Text.trimChars, Text.skipBlank_eq]
    decide
  obtain ⟨page, found, lists⟩ :=
    (suggestions_are_literal_iff Catalog.tagPlanner kind "7-").2.mpr
      ⟨trimmed, by decide, Pattern.fits_of_early (by decide) (by decide)⟩ hyphenStore
      answers_hyphenStore
  have chosen : (hyphenStore.documents.filter fun document =>
      Contains "customerName" "7-" document) = [[("customerName", .string "7-11")]] := by
    decide
  rw [chosen] at lists
  exact ⟨kind, page, found, lists.results_single⟩

theorem spaces_and_lines_are_lost :
    Answers "customerName" hyphenStore ∧ ∀ fragment ∈ [" 11", "7\n11"],
      Suggests Catalog.tagPlanner "customerName" fragment hyphenStore hyphenStore.documents ∧
        ¬Suggests Catalog.tagPlanner "customerName" fragment hyphenStore
          (hyphenStore.documents.filter fun document =>
            Contains "customerName" fragment document) := by
  have kind : kindOf? "customerName" = some .string := by decide
  have spaces : Suggests Catalog.tagPlanner "customerName" " 11" hyphenStore
      hyphenStore.documents := by
    have trimmed : Text.trim " 11" = "11" := by
      simp only [Text.trim, Text.trimChars, Text.skipBlank_eq]
      decide
    have fits : Pattern.Fits (Text.trim " 11") := by
      rw [trimmed]
      exact Pattern.fits_of_early (by decide) (by decide)
    have single : '\n' ∉ (Text.trim " 11").toList := by
      rw [trimmed]
      decide
    have both : (hyphenStore.documents.filter fun document =>
        Contains "customerName" "11" document) = hyphenStore.documents := by
      decide
    have suggested := suggests_of_fits Catalog.tagPlanner kind single fits answers_hyphenStore
    rwa [trimmed, both] at suggested
  have lines : Suggests Catalog.tagPlanner "customerName" "7\n11" hyphenStore
      hyphenStore.documents := by
    refine suggests_of_lines Catalog.tagPlanner kind ?_ answers_hyphenStore
    simp only [Text.trim, Text.trimChars, Text.skipBlank_eq]
    decide
  have missed : ∀ fragment ∈ [" 11", "7\n11"], (hyphenStore.documents.filter fun document =>
      Contains "customerName" fragment document).length ≠ hyphenStore.documents.length := by
    decide
  refine ⟨answers_hyphenStore, fun fragment member => ?_⟩
  have all : Suggests Catalog.tagPlanner "customerName" fragment hyphenStore
      hyphenStore.documents := by
    rcases List.mem_pair.mp member with rfl | rfl
    · exact spaces
    · exact lines
  exact ⟨all, fun literally => missed fragment member (literally.length_eq all)⟩

end Engagements.Registry
