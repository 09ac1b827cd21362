import Engagements.Proofs.Catalog.Pages
import Engagements.Proofs.Planner.Unwinding
import Engagements.Proofs.Search.Fragment

/-!
The results of a search for texts like a pattern, and those of the search for all other ones. If the
first is understood so is the second, and each document is a result of just one of them.
-/
namespace Engagements.Catalog

open Planner

/-- A search has just the documents that are kept as its results, in their order and without their
identifying field. -/
def Finds (planner : Planner) (text : String) (keep : Document → Bool) (store : Store) : Prop :=
  ∃ page, store.perform (findPage planner (FilterSpec.empty.searching text) none) =
      (.ok page, store) ∧
    page.results = (store.documents.filter keep).map (Projection.drop [] idField).apply

variable {planner : Planner}

theorem finds_of_read {text : String} {expression : Search.Expression}
    (read : Search.read planner.today text = .ok expression) {store : Store}
    (struck : store.outage = none) :
    Finds planner text
      (fun document => Predicate.accepts expression.predicate (.object document)) store :=
  ⟨_, perform_findPage struck (rows_searching planner read store.documents),
    results_pageOf _ _ _⟩

/-- If a search for texts like a pattern is understood, the search for all others has the same
pattern, and its results are what the first one leaves out, whether the field has one value, several
or none. -/
theorem unlike_finds_the_rest (planner : Planner) {field value : String}
    (named : Search.isName field.toList = true)
    (single : Search.splitUnescaped '&' value = [value]) {expression : Search.Expression}
    (read : Search.read planner.today (field ++ " like " ++ value) = .ok expression)
    (understood : expression.ignored = []) :
    ∃ pattern, expression.predicate = some (.like field pattern) ∧
      Search.read planner.today (field ++ " not like " ++ value) =
        .ok ⟨some (.unlike field pattern), []⟩ ∧
      ∀ store : Store, store.outage = none →
        Finds planner (field ++ " like " ++ value)
            (fun document => (Predicate.like field pattern).holds (.object document)) store ∧
          Finds planner (field ++ " not like " ++ value)
            (fun document => !(Predicate.like field pattern).holds (.object document)) store := by
  have found := Search.read_like planner.today named single
  rw [read] at found
  split_ifs at found with lines
  · obtain rfl := Except.ok.inj found
    cases understood
  · cases compiled : Search.readPattern field (Text.trimChars value.toList) with
    | error error =>
        rw [compiled] at found
        cases found
    | ok pattern =>
        rw [compiled] at found
        obtain rfl := Except.ok.inj found
        have negated := Search.read_unlike planner.today named single lines
        rw [compiled] at negated
        exact ⟨pattern, rfl, negated,
          fun store struck => ⟨finds_of_read read struck, finds_of_read negated struck⟩⟩

/-- Documents with one text, with several, with none and without the field. -/
def oddStore : Store :=
  ⟨[[("not", .string "7-11")], [("not", .array [.string "7 11", .string "at 7-11"])],
    [("not", .null)], []], 0, ⟨0, 0⟩, 5000, none⟩

theorem odd_texts_part_the_store :
    Search.isName "not".toList = true ∧
      Search.splitUnescaped '&' "\n 7\\-11\t" = ["\n 7\\-11\t"] ∧
      ∃ found left,
        oddStore.perform (findPage tagPlanner
          (FilterSpec.empty.searching "not like \n 7\\-11\t") none) = (.ok found, oddStore) ∧
        oddStore.perform (findPage tagPlanner
          (FilterSpec.empty.searching "not not like \n 7\\-11\t") none) = (.ok left, oddStore) ∧
        found.results = oddStore.documents.take 2 ∧ left.results = oddStore.documents.drop 2 := by
  have named : Search.isName "not".toList = true := by
    have letters : (['o', 't'].all fun c => c.isAlphanum || c == '.') = true := by decide
    have inside : ∀ c ∈ ['o', 't'], Search.Component.isNameChar c = true :=
      fun c member => Search.isNameChar_of_plain (List.all_eq_true.mp letters c member)
    have spelled : Search.isName ['n', 'o', 't'] = true := by
      rw [Search.isName, List.all_eq_true.mpr inside, Bool.and_true]
      decide
    exact spelled
  have single : Search.splitUnescaped '&' "\n 7\\-11\t" = ["\n 7\\-11\t"] := by decide
  have trimmed : Text.trimChars "\n 7\\-11\t".toList = Regex.escapeChars "7-11".toList := by
    simp only [Text.trimChars, Text.skipBlank_eq]
    decide
  have read : Search.read tagPlanner.today ("not" ++ " like " ++ "\n 7\\-11\t") =
      .ok ⟨some (.like "not" (Pattern.literal "7-11")), []⟩ := by
    rw [Search.read_like _ named single, trimmed, if_neg (by decide),
      Search.readPattern_escapeChars, if_pos (Pattern.fits_of_early (by decide) (by decide))]
    rfl
  obtain ⟨pattern, same, _, parted⟩ := unlike_finds_the_rest tagPlanner named single read rfl
  obtain ⟨_, rfl⟩ := Predicate.like.inj (Option.some.inj same)
  have holds (document : Document) :
      (Predicate.like "not" (Pattern.literal "7-11")).holds (.object document) =
        ((Value.object document).candidates "not").any fun candidate => candidate.asString?.any
          fun s => decide (Text.caseFolded "7-11" <:+: Text.caseFolded s) := by
    refine congrArg (List.any _) (funext fun candidate => ?_)
    cases candidate with
    | string s =>
        rw [Value.asString?, Option.any_some, Bool.eq_iff_iff, decide_eq_true_iff]
        exact Pattern.occursIn_literal "7-11" s
    | _ => rfl
  obtain ⟨⟨found, performed, shown⟩, left, performed', shown'⟩ := parted oddStore rfl
  simp only [holds] at shown shown'
  refine ⟨named, single, found, left, performed, performed', shown.trans ?_, shown'.trans ?_⟩
  · decide +kernel
  · decide +kernel

end Engagements.Catalog
