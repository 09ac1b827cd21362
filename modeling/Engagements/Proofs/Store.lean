import Engagements.Proofs.Predicate
import Engagements.Registry

/-!
What the actions on a store do to it, one step after another.
-/
namespace Engagements.Store

variable {α β : Type}

/-- The answer of an action, and the store that it leaves. -/
def perform (store : Store) (action : Action α) : Result α × Store := action.run.run store

@[simp] theorem perform_pure (store : Store) (a : α) :
    store.perform (pure a) = (.ok a, store) := rfl

@[simp] theorem perform_throw (store : Store) (error : Error) :
    store.perform (throw error : Action α) = (.error error, store) := rfl

@[simp] theorem perform_lift (store : Store) (result : Result α) :
    store.perform (liftM result : Action α) = (result, store) := by
  cases result <;> rfl

theorem perform_bind (store : Store) (action : Action α) (next : α → Action β) :
    store.perform (action >>= next) =
      match store.perform action with
      | (.ok a, after) => after.perform (next a)
      | (.error error, after) => (.error error, after) := by
  simp only [perform, ExceptT.run_bind, StateT.run_bind]
  generalize (action.run.run store : Result α × Store) = performed
  rcases performed with ⟨answer, after⟩
  cases answer <;> rfl

theorem perform_map (store : Store) (f : α → β) (action : Action α) :
    store.perform (f <$> action) = ((store.perform action).1.map f, (store.perform action).2) := by
  rw [← bind_pure_comp, perform_bind]
  rcases store.perform action with ⟨answer, after⟩
  cases answer <;> rfl

theorem perform_call (store : Store) (operation : String) (answer : Store → Result α × Store) :
    store.perform (call operation answer) =
      match store.outage with
      | some outage =>
        (.error (outage.error operation store.timeLimit), { store with outage := none })
      | none => answer store := by
  rcases store with ⟨documents, nextId, clock, timeLimit, _ | outage⟩ <;> rfl

theorem perform_issueVersion (store : Store) :
    store.perform issueVersion =
      (.ok store.clock.issue.1, { store with clock := store.clock.issue.2 }) := rfl

@[simp] theorem perform_presentSecond (store : Store) :
    store.perform presentSecond = (.ok store.clock.secondText, store) := rfl

/-- The action leaves a store as it is, an outage aside. -/
def OnlyReads (action : Action α) : Prop :=
  ∀ store : Store, ∃ outage, (store.perform action).2 = { store with outage := outage }

theorem onlyReads_of_same {action : Action α}
    (same : ∀ store : Store, (store.perform action).2 = store) : OnlyReads action :=
  fun store => ⟨store.outage, same store⟩

theorem onlyReads_pure (a : α) : OnlyReads (pure a : Action α) :=
  onlyReads_of_same fun _ => rfl

theorem onlyReads_throw (error : Error) : OnlyReads (throw error : Action α) :=
  onlyReads_of_same fun _ => rfl

theorem onlyReads_lift (result : Result α) : OnlyReads (liftM result : Action α) :=
  onlyReads_of_same fun store => by simp

theorem onlyReads_bind {action : Action α} {next : α → Action β} (first : OnlyReads action)
    (second : ∀ a, OnlyReads (next a)) : OnlyReads (action >>= next) := by
  intro store
  obtain ⟨outage, left⟩ := first store
  rw [perform_bind]
  rcases performed : store.perform action with ⟨answer, after⟩
  rw [performed] at left
  cases answer with
  | error error => exact ⟨outage, left⟩
  | ok a =>
      obtain ⟨outage', left'⟩ := second a after
      refine ⟨outage', left'.trans ?_⟩
      change after = _ at left
      rw [left]

/-- What follows a reading action succeeds only after it has, with what it has read. -/
theorem perform_bind_ok {action : Action α} {next : α → Action β} (reads : OnlyReads action)
    {store : Store} {b : β} (done : (store.perform (action >>= next)).1 = .ok b) :
    ∃ a outage, (store.perform action).1 = .ok a ∧
      ({ store with outage := outage }.perform (next a)).1 = .ok b := by
  obtain ⟨outage, left⟩ := reads store
  rw [perform_bind] at done
  rcases performed : store.perform action with ⟨answer, after⟩
  rw [performed] at done left
  change after = _ at left
  subst left
  cases answer with
  | error error => cases done
  | ok a => exact ⟨a, outage, rfl, done⟩

theorem onlyReads_call (operation : String) (answer : Store → Result α × Store)
    (same : ∀ store, (answer store).2 = store) : OnlyReads (call operation answer) := by
  intro store
  rw [perform_call]
  split
  · exact ⟨none, rfl⟩
  · exact ⟨store.outage, same store⟩

theorem onlyReads_findOne (filter : Predicate) (projection : Option Projection) :
    OnlyReads (findOne filter projection) :=
  onlyReads_call _ _ fun _ => rfl

/-- The update of the first document that satisfies a predicate, by its place. -/
theorem updateFirst_eq (filter : Predicate) (changes : Fields) (documents : List Document) :
    updateFirst filter changes documents =
      (documents.findIdx? fun document => filter.holds (.object document)).bind fun place =>
        (documents[place]?).map fun document =>
          (assign document changes, documents.set place (assign document changes)) := by
  induction documents with
  | nil => rfl
  | cons document documents ih =>
      rw [updateFirst, List.findIdx?_cons]
      by_cases found : filter.holds (.object document) = true
      · simp [found]
      · rw [if_neg found, if_neg found, ih]
        cases documents.findIdx? fun document => filter.holds (.object document) with
        | none => rfl
        | some place =>
            cases stored : documents[place]? <;> simp [stored]

@[simp] theorem assign_nil (document : Document) : assign document [] = document := rfl

@[simp] theorem assign_cons (document : Document) (path : String) (value : Value)
    (changes : Fields) :
    assign document ((path, value) :: changes) = assign (document.set path value) changes := rfl

theorem assign_append (document : Document) (first second : Fields) :
    assign document (first ++ second) = assign (assign document first) second :=
  List.foldl_append

/-- Paths of a single segment are names. -/
theorem assign_eq_insertAll {changes : Fields}
    (single : ∀ entry ∈ changes, segments entry.1 = [entry.1]) (document : Document) :
    assign document changes = Fields.insertAll document changes := by
  induction changes generalizing document with
  | nil => rfl
  | cons entry changes ih =>
      obtain ⟨path, value⟩ := entry
      have here : document.set path value = Fields.insert document path value := by
        rw [Document.set, single _ List.mem_cons_self]
        rfl
      rw [assign_cons, ih fun other member => single other (List.mem_cons_of_mem _ member), here]
      rfl

/-- What becomes of a field depends on nothing but what it held. -/
theorem get?_assign_congr {document other : Document} {name : String}
    (same : Fields.get? document name = Fields.get? other name) (changes : Fields) :
    Fields.get? (assign document changes) name = Fields.get? (assign other changes) name := by
  induction changes generalizing document other with
  | nil => exact same
  | cons entry changes ih =>
      obtain ⟨path, value⟩ := entry
      rw [assign_cons, assign_cons]
      refine ih ?_
      rw [Document.get?_set, Document.get?_set, same]

/-- A field keeps its value unless some path begins with it. -/
theorem get?_assign_of_apart {changes : Fields} {name : String}
    (apart : ∀ entry ∈ changes, (segments entry.1).head? ≠ some name) (document : Document) :
    Fields.get? (assign document changes) name = Fields.get? document name := by
  induction changes generalizing document with
  | nil => rfl
  | cons entry changes ih =>
      obtain ⟨path, value⟩ := entry
      rw [assign_cons, ih (fun other member => apart other (List.mem_cons_of_mem _ member)),
        Document.get?_set, if_neg (apart _ List.mem_cons_self)]

/-- What every path below a field keeps true of the field stays true of it, once it is. -/
theorem get?_assign_of_kept {changes : Fields} {name : String} (kept : Option Value → Prop)
    (keeps : ∀ path value, (path, value) ∈ changes → (segments path).head? = some name →
      ∀ old, kept old → kept (some (Document.placed old (segments path).tail value)))
    (document : Document) (first : kept (Fields.get? document name)) :
    kept (Fields.get? (assign document changes) name) := by
  induction changes generalizing document with
  | nil => exact first
  | cons entry changes ih =>
      obtain ⟨path, value⟩ := entry
      rw [assign_cons]
      refine ih (fun path value member => keeps path value (List.mem_cons_of_mem _ member)) _ ?_
      rw [Document.get?_set]
      split
      · rename_i begins
        exact keeps path value List.mem_cons_self begins _ first
      · exact first

/-- A field holds what the path of its own name sets, or else what it held, up to what the paths
below it do. -/
theorem get?_assign_of_below {changes : Fields} (distinct : changes.names.Nodup) {name : String}
    (single : segments name = [name]) (kept : Option Value → Prop)
    (keeps : ∀ path value, (path, value) ∈ changes → (segments path).head? = some name →
      (segments path).tail ≠ [] →
        ∀ old, kept old → kept (some (Document.placed old (segments path).tail value)))
    (document : Document) (first : kept ((Fields.get? changes name).or
      (Fields.get? document name))) :
    kept (Fields.get? (assign document changes) name) := by
  induction changes generalizing document with
  | nil => exact first
  | cons entry changes ih =>
      obtain ⟨path, value⟩ := entry
      simp only [Fields.names, List.map_cons, List.nodup_cons] at distinct
      rw [assign_cons]
      refine ih distinct.2
        (fun path value member => keeps path value (List.mem_cons_of_mem _ member)) _ ?_
      rw [Document.get?_set]
      rw [Fields.get?] at first
      by_cases own : path = name
      · subst own
        have absent : Fields.get? changes path = none :=
          (Fields.get?_eq_none_iff changes path).mpr distinct.1
        simpa [absent, single, Document.placed] using first
      · rw [if_neg own] at first
        cases set : Fields.get? changes name with
        | some later => simpa [set] using first
        | none =>
            rw [set, Option.none_or] at first
            rw [Option.none_or]
            split
            · rename_i begins
              refine keeps path value List.mem_cons_self begins (fun ended => own ?_) _ first
              exact segments_injective (by rw [single, segments_eq_cons begins, ended])
            · exact first

/-- A field holds an object once something was set below it. -/
theorem get?_assign_below {changes : Fields} {name : String}
    (reached : ∃ entry ∈ changes, (segments entry.1).head? = some name)
    (below : ∀ entry ∈ changes, (segments entry.1).head? = some name → (segments entry.1).tail ≠ [])
    (document : Document) :
    ∃ fields, Fields.get? (assign document changes) name = some (.object fields) := by
  obtain ⟨⟨path, value⟩, member, begins⟩ := reached
  obtain ⟨earlier, later, split⟩ := List.append_of_mem member
  rw [split, assign_append, assign_cons]
  have placed : ∀ other value old, (other, value) ∈ changes →
      (segments other).head? = some name →
      ∃ fields, some (Document.placed old (segments other).tail value) = some (.object fields) := by
    intro other value old inside begins
    cases tail : (segments other).tail with
    | nil => exact absurd tail (below _ inside begins)
    | cons next rest => exact ⟨_, rfl⟩
  apply get?_assign_of_kept fun value => ∃ fields, value = some (.object fields)
  · intro other value inside begins old _
    refine placed other value old ?_ begins
    exact split ▸ List.mem_append_right earlier (List.mem_cons_of_mem _ inside)
  · rw [Document.get?_set, if_pos begins]
    exact placed path value _ member begins

/-- What holds of every value in a field, and of every value that is placed there, holds of the
field in the end. -/
theorem forall_mem_assign {changes : Fields} {name : String} (holds : Value → Prop)
    (placed : ∀ path value, (path, value) ∈ changes → (segments path).head? = some name →
      ∀ old, holds (Document.placed old (segments path).tail value))
    (document : Document) (stored : ∀ value, (name, value) ∈ document → holds value) :
    ∀ value, (name, value) ∈ assign document changes → holds value := by
  induction changes generalizing document with
  | nil => exact stored
  | cons entry changes ih =>
      obtain ⟨path, value⟩ := entry
      rw [assign_cons]
      refine ih (fun path value member => placed path value (List.mem_cons_of_mem _ member)) _ ?_
      intro other member
      rw [Document.set] at member
      cases split : segments path with
      | nil => exact absurd split (segments_ne_nil path)
      | cons first below =>
          rw [split, Document.setSegments_cons] at member
          rcases Fields.mem_of_mem_insert member with here | before
          · obtain ⟨same, made⟩ := Prod.mk.inj here
            have begins : (segments path).head? = some name := by rw [split, same, List.head?_cons]
            have tail : below = (segments path).tail := by rw [split, List.tail_cons]
            rw [made, tail]
            exact placed path value List.mem_cons_self begins _
          · exact stored other before

theorem nodup_assign {document : Document} (distinct : (Fields.names document).Nodup)
    (changes : Fields) : (Fields.names (assign document changes)).Nodup := by
  induction changes generalizing document with
  | nil => exact distinct
  | cons entry changes ih =>
      obtain ⟨path, value⟩ := entry
      exact ih (Document.nodup_setSegments distinct (segments path) value)

end Engagements.Store
