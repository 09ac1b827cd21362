import Engagements.Proofs.Catalog.Pages
import Engagements.Proofs.Projection.Exposure
import Engagements.Proofs.Projection.Retention

/-!
Pages and lookups of a filter that includes some fields.
-/
namespace Engagements.Catalog

open Planner Projection

theorem resultProjection_of_included {spec : FilterSpec} {names : List String}
    (listed : spec.included = some names) : resultProjection spec = including names := by
  rw [resultProjection, listed]
  rfl

theorem lookupProjection_of_included {spec : FilterSpec} {names : List String}
    (valid : spec.validate = .ok ()) (listed : spec.included = some names) :
    lookupProjection (some spec) = .ok (including names) := by
  rw [lookupProjection, valid, listed]
  rfl

/-- The document of which a lookup makes an engagement, as its projection shows it. -/
def lookedUp (store : Store) (filter : Predicate) (projection : Projection) : Option Document :=
  (store.find? filter).map projection.apply

theorem perform_findFirst_some {spec : FilterSpec} {projection : Projection}
    (projected : lookupProjection (some spec) = .ok projection) {store : Store}
    (struck : store.outage = none) (filter : Predicate) :
    store.perform (findFirst filter (some spec)) =
      ((lookedUp store filter projection).mapM Engagement.ofDocument, store) := by
  rw [findFirst, projected, Store.perform_bind, Store.perform_lift]
  simp only [Store.perform_bind, Store.findOne, Store.perform_call, struck, lookedUp]
  cases store.find? filter with
  | none => rfl
  | some document =>
      simp only [Option.map_some, Store.perform_bind, Store.perform_lift]
      rw [Option.mapM_some]
      cases Engagement.ofDocument (projection.apply document) <;> rfl

/-- Where a filter includes at least one path, every scalar that a page shows or that a lookup reads
lies at or under an included path. Where it includes an empty set, everything but the identifying
field is shown. -/
theorem inclusions_expose_listed_fields (planner : Planner) (spec : FilterSpec)
    (base : Option Predicate) (store : Store) (names : List String) (struck : store.outage = none)
    (accepted : (planner.plan spec base).isOk = true) (listed : spec.included = some names) :
    ∃ rows page projection, planner.rows spec base store.documents = .ok rows ∧
      store.perform (findPage planner spec base) = (.ok page, store) ∧
      (∀ filter, store.perform (findFirst filter (some spec)) =
        ((lookedUp store filter projection).mapM Engagement.ofDocument, store)) ∧
      (names ≠ [] →
        (∀ result ∈ page.results, Value.Within names (.object result)) ∧
        ∀ filter, ∀ document ∈ lookedUp store filter projection,
          Value.Within names (.object document)) ∧
      (names = [] →
        page.results = (onPage (spec.paging planner.defaultPerPage)
          (sorted spec.sortKeys rows)).map (·.remove idField) ∧
        ∀ filter, lookedUp store filter projection =
          (store.find? filter).map (·.remove idField)) := by
  obtain ⟨rows, selected⟩ := rows_ok accepted store.documents
  obtain ⟨predicate, ignored, conditions⟩ := conditions_of_plan accepted
  have projected := lookupProjection_of_included (valid_of_conditions conditions).1 listed
  have shown := resultProjection_of_included listed
  refine ⟨rows, _, including names, selected, perform_findPage struck selected,
    perform_findFirst_some projected struck, fun some => ⟨?_, ?_⟩, ?_⟩
  · intro result member
    rw [results_pageOf, results, ← map_onPage, shown] at member
    obtain ⟨row, _, rfl⟩ := List.mem_map.mp member
    exact within_apply_including some row
  · intro filter document found
    obtain ⟨source, _, rfl⟩ := Option.map_eq_some_iff.mp found
    exact within_apply_including some source
  · rintro rfl
    have whole : (including []).apply = (·.remove idField) := funext apply_including_nil
    rw [results_pageOf, results, ← map_onPage, shown, whole]
    exact ⟨rfl, fun filter => by rw [lookedUp, whole]⟩

/-- A filter that includes an empty set of fields. -/
def nothingIncluded : FilterSpec := FilterSpec.empty.including []

theorem conditions_of_valid {spec : FilterSpec} (valid : spec.validate = .ok ())
    (unsized : spec.perPage = none) (unsearched : spec.search = none) :
    tagPlanner.conditions spec none = .ok (none, []) :=
  conditions_unsearched valid (tagPlanner.checkSize_of_unsized unsized) unsearched

/-- An empty inclusion shows the texts of a document under paths that it does not list. -/
theorem empty_inclusion_exposes_rest :
    nothingIncluded.included = some [] ∧ (tagPlanner.plan nothingIncluded none).isOk = true ∧
      ∃ page, taggedStore.perform (findPage tagPlanner nothingIncluded none) =
          (.ok page, taggedStore) ∧
        ∃ result ∈ page.results, ¬Value.Within [] (.object result) := by
  have valid : nothingIncluded.validate = .ok () := by decide
  have conditions := conditions_of_valid valid rfl rfl
  have accepted : (tagPlanner.plan nothingIncluded none).isOk = true := by
    rw [plan, conditions]
    rfl
  have selected : tagPlanner.rows nothingIncluded none taggedStore.documents =
      .ok taggedStore.documents := by
    rw [rows, conditions]
    rfl
  have listed : nothingIncluded.included = some [] := by
    rw [nothingIncluded, FilterSpec.including, Text.sortedSet, List.mergeSort_nil]
    rfl
  have all : results nothingIncluded taggedStore.documents =
      [[("tags", .array [.string "x", .string "y"]), ("name", .string "one")],
        [("tags", .array [.string "z"]), ("name", .string "two")]] := by
    decide +kernel
  refine ⟨listed, accepted, _, perform_findPage rfl selected,
    [("tags", .array [.string "z"]), ("name", .string "two")], ?_, fun within => ?_⟩
  · have whole : nothingIncluded.paging tagPlanner.defaultPerPage = none := rfl
    rw [results_pageOf, whole, onPage, all]
    exact List.mem_cons_of_mem _ List.mem_cons_self
  · obtain ⟨name, inside, _⟩ := within ["name"] (.string "two")
      (.field (List.mem_cons_of_mem _ List.mem_cons_self) (.scalar rfl))
    cases inside

/-- The tags of documents, each beside the name of its document, of which the name is shown. -/
def namedTags : FilterSpec := { tags with included := some ["name"] }

theorem named_tags_show_names :
    ∃ page projection, taggedStore.perform (findPage tagPlanner namedTags none) =
        (.ok page, taggedStore) ∧
      (∀ result ∈ page.results, Value.Within ["name"] (.object result)) ∧
      taggedStore.perform (findFirst (.equals "name" (.string "two")) (some namedTags)) =
        ((lookedUp taggedStore (.equals "name" (.string "two")) projection).mapM
          Engagement.ofDocument, taggedStore) ∧
      ∀ document ∈ lookedUp taggedStore (.equals "name" (.string "two")) projection,
        Value.Within ["name"] (.object document) := by
  have valid : namedTags.validate = .ok () := by
    refine (FilterSpec.validate_ok_iff namedTags).mpr
      ⟨by decide, by decide, by decide, ?_, by decide⟩
    simp only [namedTags, tags, Option.any_some, Text.isBlank_eq]
    decide
  have accepted : (tagPlanner.plan namedTags none).isOk = true := by
    rw [plan, conditions_of_valid valid rfl rfl]
    rfl
  obtain ⟨rows, page, projection, _, found, lookups, within, _⟩ :=
    inclusions_expose_listed_fields tagPlanner namedTags none taggedStore ["name"] rfl accepted rfl
  obtain ⟨results, documents⟩ := within (List.cons_ne_nil _ _)
  exact ⟨page, projection, found, results, lookups _, documents _⟩

/-- A filter that includes a set of paths shows the values of a document at each of them, where the
parts of the document along any two of them fit. In every document it does so just where no two of
the paths begin with the same field. -/
theorem inclusions_keep_listed_fields (spec : FilterSpec) (paths : List String)
    (valid : spec.validate = .ok ()) (listed : spec.included = some (Text.sortedSet paths)) :
    lookupProjection (some spec) = .ok (resultProjection spec) ∧
      (∀ document : Document, (Value.object document).Distinct →
        (∀ path ∈ paths, ∀ other ∈ paths, partsFit document path other = true) →
        ∀ path ∈ paths, (Value.object ((resultProjection spec).apply document)).resolve path =
          (Value.object document).resolve path) ∧
      ((∀ document : Document, (Value.object document).Distinct →
        ∀ path ∈ paths, (Value.object ((resultProjection spec).apply document)).resolve path =
          (Value.object document).resolve path) ↔
        ∀ path ∈ paths, ∀ other ∈ paths,
          (segments path).head? = (segments other).head? → path = other) := by
  have shown := resultProjection_of_included listed
  have ascending := Text.ascending_sortedSet paths
  have members : ∀ path, path ∈ Text.sortedSet paths ↔ path ∈ paths :=
    fun path => Text.mem_sortedSet path paths
  have kept : ∀ document : Document, (Value.object document).Distinct →
      (∀ path ∈ paths, ∀ other ∈ paths, partsFit document path other = true) →
        ∀ path ∈ paths, (Value.object ((resultProjection spec).apply document)).resolve path =
          (Value.object document).resolve path := by
    intro document distinct fit path member
    rw [shown]
    refine resolve_apply_including ascending distinct (fun name inside other inside' => ?_)
      ((members path).mpr member)
    exact fit name ((members name).mp inside) other ((members other).mp inside')
  refine ⟨(lookupProjection_of_included valid listed).trans (congrArg Except.ok shown.symm), kept,
    fun all path member other member' together => ?_, fun heads document distinct => ?_⟩
  · by_contra different
    obtain ⟨document, distinct, lost, inside, changed⟩ := exists_lost ascending
      ((members path).mpr member) ((members other).mpr member') different together
    exact changed (shown ▸ all document distinct lost ((members lost).mp inside))
  · exact kept document distinct fun path member other member' =>
      partsFit_of_heads distinct (heads path member other member')

/-- Two environments, of which only the second one has a version. -/
def unevenEnvironments : Document :=
  [("_id", .string "a"), ("uuid", .string "u"), ("hostingEnvironments", .array
    [.object [("ocpSubDomain", .string "env-one")],
      .object [("ocpSubDomain", .string "env-two"), ("ocpVersion", .string "4.6")]])]

def environmentFields : List String :=
  ["hostingEnvironments.ocpSubDomain", "hostingEnvironments.ocpVersion"]

theorem sortedSet_environmentFields : Text.sortedSet environmentFields = environmentFields :=
  Text.sortedSet_of_ascending (by decide)

/-- Where one item lacks an included field, the subdomains of all items are lost. -/
theorem uneven_items_lose_fields :
    (FilterSpec.empty.including environmentFields).included =
        some ["hostingEnvironments.ocpSubDomain", "hostingEnvironments.ocpVersion"] ∧
      (resultProjection (FilterSpec.empty.including environmentFields)).apply unevenEnvironments =
        [("hostingEnvironments", .array [.object [("ocpVersion", .string "4.6")]])] ∧
      (Value.object ((resultProjection (FilterSpec.empty.including environmentFields)).apply
        unevenEnvironments)).resolve "hostingEnvironments.ocpSubDomain" = [] ∧
      (Value.object unevenEnvironments).resolve "hostingEnvironments.ocpSubDomain" =
        [.string "env-one", .string "env-two"] := by
  have listed : (FilterSpec.empty.including environmentFields).included = some environmentFields :=
    congrArg some sortedSet_environmentFields
  rw [resultProjection_of_included listed]
  exact ⟨listed, by decide +kernel, by decide +kernel, by decide +kernel⟩

/-- Two environments, both of which have a version. -/
def evenEnvironments : Document :=
  [("hostingEnvironments", .array
    [.object [("ocpSubDomain", .string "env-one"), ("ocpVersion", .string "4.7")],
      .object [("ocpVersion", .string "4.6"), ("ocpSubDomain", .string "env-two")]])]

theorem even_items_keep_fields :
    (Value.object ((resultProjection (FilterSpec.empty.including environmentFields)).apply
        evenEnvironments)).resolve "hostingEnvironments.ocpSubDomain" =
          [.string "env-one", .string "env-two"] ∧
      (Value.object ((resultProjection (FilterSpec.empty.including environmentFields)).apply
        evenEnvironments)).resolve "hostingEnvironments.ocpVersion" =
          [.string "4.7", .string "4.6"] := by
  have valid : (FilterSpec.empty.including environmentFields).validate = .ok () := by
    refine (FilterSpec.validate_ok_iff _).mpr ⟨by simp [FilterSpec.including, FilterSpec.empty], ?_⟩
    exact ⟨by decide, by decide, by decide, by decide⟩
  obtain ⟨_, kept, _⟩ := inclusions_keep_listed_fields
    (FilterSpec.empty.including environmentFields) environmentFields valid rfl
  have distinct : (Value.object evenEnvironments).Distinct := by
    refine .object (by decide) fun field member => ?_
    rw [List.mem_singleton.mp member]
    refine .array fun item inside => ?_
    rcases List.mem_pair.mp inside with rfl | rfl
    all_goals
      refine .object (by decide) fun field member => ?_
      rcases List.mem_pair.mp member with rfl | rfl
      all_goals exact .string _
  have keeps := kept evenEnvironments distinct (by decide +kernel)
  exact ⟨(keeps _ (by decide)).trans (by decide +kernel),
    (keeps _ (by decide)).trans (by decide +kernel)⟩

end Engagements.Catalog
