import Engagements.Proofs.Path.Parting
import Engagements.Proofs.Store

/-!
What an update changes: one document of a store, and of that document the fields with which its
paths begin.
-/
namespace Engagements

theorem Fields.getElem?_insert_of_ne {fields : Fields} {place : Nat} {key name : String}
    {old : Value} (stored : fields[place]? = some (key, old)) (different : key ≠ name)
    (value : Value) : (Fields.insert fields name value)[place]? = some (key, old) := by
  induction fields generalizing place with
  | nil => simp at stored
  | cons head tail ih =>
      obtain ⟨first, held⟩ := head
      rw [Fields.insert]
      cases place with
      | zero =>
          rw [List.getElem?_cons_zero, Option.some.injEq, Prod.mk.injEq] at stored
          rw [if_neg (stored.1 ▸ different), List.getElem?_cons_zero, stored.1, stored.2]
      | succ place =>
          rw [List.getElem?_cons_succ] at stored
          split
          · rwa [List.getElem?_cons_succ]
          · rw [List.getElem?_cons_succ, ih stored]

/-- Fields stay in their places, with their values if they are not touched, and new ones that are
touched come after them. -/
structure Fields.Keeps (touched : String → Prop) (fields after : Fields) : Prop where
  fixed : ∀ (place : Nat) name value, fields[place]? = some (name, value) → ¬ touched name →
    after[place]? = some (name, value)
  ordered : ∃ added, after.names = fields.names ++ added ∧ ∀ name ∈ added, touched name

namespace Fields.Keeps

variable {touched : String → Prop}

theorem refl (fields : Fields) : Keeps touched fields fields :=
  ⟨fun _ _ _ stored _ => stored, [], (List.append_nil _).symm, nofun⟩

theorem trans {fields between after : Fields} (first : Keeps touched fields between)
    (second : Keeps touched between after) : Keeps touched fields after := by
  refine ⟨fun place name value stored free => ?_, ?_⟩
  · exact second.fixed place name value (first.fixed place name value stored free) free
  · obtain ⟨added, names, inside⟩ := first.ordered
    obtain ⟨added', names', inside'⟩ := second.ordered
    refine ⟨added ++ added', by rw [names', names, List.append_assoc], fun name member => ?_⟩
    exact (List.mem_append.mp member).elim (inside name) (inside' name)

theorem mono {more : String → Prop} (weaken : ∀ name, touched name → more name)
    {fields after : Fields} (keeps : Keeps touched fields after) : Keeps more fields after := by
  refine ⟨fun place name value stored free => ?_, ?_⟩
  · exact keeps.fixed place name value stored fun touches => free (weaken name touches)
  · obtain ⟨added, names, inside⟩ := keeps.ordered
    exact ⟨added, names, fun name member => weaken name (inside name member)⟩

theorem insert (fields : Fields) {name : String} (touches : touched name) (value : Value) :
    Keeps touched fields (fields.insert name value) := by
  refine ⟨fun place key old stored free => ?_, ?_⟩
  · refine Fields.getElem?_insert_of_ne stored (fun same => ?_) value
    exact free (same ▸ touches)
  · rw [names_insert]
    split
    · exact ⟨[], (List.append_nil _).symm, nofun⟩
    · exact ⟨[name], rfl, fun other member => List.mem_singleton.mp member ▸ touches⟩

end Fields.Keeps

namespace Store

/-- A change begins with a field. -/
def Touches (changes : Fields) (name : String) : Prop :=
  ∃ change ∈ changes, (segments change.1).head? = some name

/-- What the changes make of a document: they keep all fields that none begins with, and a path
reads as it was set unless a later change lies on it, above it or below it. -/
structure Rewritten (changes : Fields) (document updated : Document) : Prop where
  keeps : Fields.Keeps (Touches changes) document updated
  reads : ∀ earlier path value later, changes = earlier ++ (path, value) :: later →
    (∀ change ∈ later, Diverge change.1 path) →
      (Value.object updated).get? path = some value

theorem keeps_set (document : Document) (path : String) (value : Value) :
    Fields.Keeps (fun name => (segments path).head? = some name) document
      (document.set path value) := by
  obtain ⟨name, below, split⟩ := List.exists_cons_of_ne_nil (segments_ne_nil path)
  rw [Document.set, split, Document.setSegments_cons]
  exact .insert document List.head?_cons _

theorem keeps_assign (document : Document) (changes : Fields) :
    Fields.Keeps (Touches changes) document (assign document changes) := by
  induction changes generalizing document with
  | nil => exact .refl document
  | cons change changes ih =>
      obtain ⟨path, value⟩ := change
      rw [assign_cons]
      have here : Fields.Keeps (Touches ((path, value) :: changes)) document
          (document.set path value) :=
        (keeps_set document path value).mono fun name begins => ⟨_, List.mem_cons_self, begins⟩
      refine here.trans ((ih _).mono ?_)
      rintro name ⟨change, member, begins⟩
      exact ⟨change, List.mem_cons_of_mem _ member, begins⟩

theorem leads_assign {document : Document} {goal : Value} {path : String}
    (leads : Value.Leads goal (.object document) (segments path)) {changes : Fields}
    (beside : ∀ change ∈ changes, Diverge change.1 path) :
    Value.Leads goal (.object (assign document changes)) (segments path) := by
  induction changes generalizing document with
  | nil => exact leads
  | cons change changes ih =>
      obtain ⟨here, later⟩ := List.forall_mem_cons.mp beside
      have parted := (diverge_iff change.1 path).mp here
      exact ih (leads.setSegments parted change.2) later

theorem rewritten_assign (document : Document) (changes : Fields) :
    Rewritten changes document (assign document changes) := by
  refine ⟨keeps_assign document changes, ?_⟩
  intro earlier path value later split beside
  rw [split, assign_append, assign_cons]
  have leads := Value.leads_setSegments (assign document earlier) (segments_ne_nil path) value
  exact (leads_assign leads beside).getSegments

theorem updateFirst_of_none {filter : Predicate} {documents : List Document}
    (missed : ∀ document ∈ documents, filter.holds (.object document) = false)
    (changes : Fields) : updateFirst filter changes documents = none := by
  rw [updateFirst_eq, List.findIdx?_eq_none_iff.mpr missed, Option.bind_none]

theorem updateFirst_of_first {filter : Predicate} {before : List Document} {document : Document}
    (earlier : ∀ other ∈ before, filter.holds (.object other) = false)
    (holds : filter.holds (.object document) = true) (changes : Fields) (after : List Document) :
    updateFirst filter changes (before ++ document :: after) =
      some (assign document changes, before ++ assign document changes :: after) := by
  induction before with
  | nil => rw [List.nil_append, updateFirst, if_pos holds, List.nil_append]
  | cons other before ih =>
      obtain ⟨here, later⟩ := List.forall_mem_cons.mp earlier
      rw [List.cons_append, updateFirst, if_neg (by rw [here]; exact Bool.false_ne_true), ih later]
      rfl

/-- An update finds no document and changes nothing, or it rewrites the first document that it
finds and returns it as it is stored then. -/
theorem update_rewrites_first {store : Store} (struck : store.outage = none) (filter : Predicate)
    (changes : Fields) :
    (∀ document ∈ store.documents, filter.holds (.object document) = false) ∧
        store.perform (findOneAndUpdate filter changes) = (.ok none, store) ∨
      ∃ before document after updated, store.documents = before ++ document :: after ∧
        (∀ other ∈ before, filter.holds (.object other) = false) ∧
        filter.holds (.object document) = true ∧
        store.perform (findOneAndUpdate filter changes) =
          (.ok (some updated), { store with documents := before ++ updated :: after }) ∧
        Rewritten changes document updated := by
  cases found : store.documents.find? fun document => filter.holds (.object document) with
  | none =>
      have missed : ∀ document ∈ store.documents, filter.holds (.object document) = false := by
        simpa using found
      refine Or.inl ⟨missed, ?_⟩
      simp only [findOneAndUpdate, perform_call, struck, updateFirst_of_none missed]
  | some document =>
      obtain ⟨holds, before, after, split, missed⟩ := List.find?_eq_some_iff_append.mp found
      have earlier : ∀ other ∈ before, filter.holds (.object other) = false := by
        simpa using missed
      refine Or.inr ⟨before, document, after, assign document changes, split, earlier, holds, ?_,
        rewritten_assign document changes⟩
      simp only [findOneAndUpdate, perform_call, struck, split,
        updateFirst_of_first earlier holds]

def towns : Store :=
  ⟨[[("_id", .string "a"), ("town", .string "Oslo")],
    [("_id", .string "b"), ("town", .string "Bergen"), ("launch", .array [.int 1])],
    [("_id", .string "c"), ("town", .string "Bergen")]], 0, ⟨0, 0⟩, 5000, none⟩

/-- What is set below a path takes the place of what was set at it before. -/
theorem launch_of_town_set :
    ∃ updated, (towns.perform (findOneAndUpdate (.equals "town" (.string "Bergen"))
        [("launch", .string "soon"), ("launch.launchedBy", .string "sam"),
          ("launch.tags", .null)])).1 = .ok (some updated) ∧
      (Value.object updated).get? "launch.launchedBy" = some (.string "sam") := by
  have struck : towns.outage = none := rfl
  rcases update_rewrites_first struck (.equals "town" (.string "Bergen"))
    [("launch", .string "soon"), ("launch.launchedBy", .string "sam"), ("launch.tags", .null)] with
    ⟨missed, _⟩ | ⟨before, document, after, updated, _, _, _, performed, rewritten⟩
  · have found : ¬ ∀ document ∈ towns.documents,
        (Predicate.equals "town" (.string "Bergen")).holds (.object document) = false := by
      decide +kernel
    exact absurd missed found
  · refine ⟨updated, congrArg Prod.fst performed, ?_⟩
    exact rewritten.reads [("launch", .string "soon")] _ _ [("launch.tags", .null)] rfl
      (by decide +kernel)

end Store

end Engagements
