import Engagements.Pipeline.Projection
import Engagements.Proofs.Path.Parting

/-!
What projections remove: one segment of a path at a time, wherever the walk along the path goes. The
removed path reaches nothing any more, a path that reaches nothing goes on to do so, and a path
beside the removed one reaches what it did.
-/
namespace Engagements

namespace Value

/-- An object without a path; in an array only the objects are gone into. -/
def pruneItem (path : List String) : Value → Value
  | object fields => object (Document.removeSegments fields path)
  | other => other

/-- A value without a path. -/
def prune (path : List String) : Value → Value
  | array items => array (items.map (pruneItem path))
  | other => pruneItem path other

/-- What is left of the value of a field, of which the rest of a path is removed. -/
def left (rest : List String) (value : Value) : Option Value :=
  if rest = [] then none else some (prune rest value)

end Value

namespace Document

open Value

theorem removeSegments_cons {rest : List String} (nonempty : rest ≠ []) (document : Document)
    (name : String) :
    removeSegments document (name :: rest) =
      ((Fields.get? document name).map fun value =>
        Fields.insert document name (prune rest value)).getD document := by
  obtain ⟨next, rest, rfl⟩ := List.exists_cons_of_ne_nil nonempty
  cases held : Fields.get? document name with
  | none => simp only [removeSegments, held, Option.map_none, Option.getD_none]
  | some value =>
      cases value with
      | object fields => simp only [removeSegments, held]; rfl
      | array items => simp only [removeSegments, held]; rfl
      | _ =>
          simp only [removeSegments, held, Option.map_some, Option.getD_some, prune, pruneItem]
          exact (Fields.insert_of_get? held).symm

/-- Removing a path changes the first field on it and no other. -/
theorem get?_removeSegments {document : Document} (distinct : (Fields.names document).Nodup)
    (name : String) (rest : List String) (other : String) :
    Fields.get? (removeSegments document (name :: rest)) other =
      if other = name then (Fields.get? document name).bind (left rest)
      else Fields.get? document other := by
  by_cases last : rest = []
  · subst last
    have ends : (Fields.get? document name).bind (left []) = none := by
      cases Fields.get? document name <;> rfl
    rw [removeSegments, Fields.get?_erase distinct, ends]
  · rw [removeSegments_cons last]
    cases held : Fields.get? document name with
    | none =>
        by_cases same : other = name
        · simp [same, held]
        · simp [same]
    | some value => simp [Fields.get?_insert, left, last]

end Document

namespace Value

theorem field?_pruneItem {value : Value} (distinct : value.Distinct) (name : String)
    (rest : List String) (other : String) :
    (value.pruneItem (name :: rest)).field? other =
      if other = name then (value.field? name).bind (left rest) else value.field? other := by
  cases value with
  | object fields => exact Document.get?_removeSegments distinct.names name rest other
  | _ => exact (ite_self _).symm

/-- What one segment reaches after a path is removed. -/
theorem step_prune {value : Value} (distinct : value.Distinct) (name : String)
    (rest : List String) (other : String) :
    (value.prune (name :: rest)).step other =
      if other = name then (value.step name).filterMap (left rest) else value.step other := by
  have alone : ∀ {value : Value}, value.Distinct →
      ((value.pruneItem (name :: rest)).field? other).toList =
        if other = name then ((value.field? name).toList).filterMap (left rest)
        else (value.field? other).toList := by
    intro value distinct
    rw [field?_pruneItem distinct]
    by_cases same : other = name
    · rw [if_pos same, if_pos same]
      cases value.field? name with
      | none => rfl
      | some inner =>
          rw [Option.bind_some, Option.toList_some, List.filterMap_cons]
          cases left rest inner <;> rfl
    · rw [if_neg same, if_neg same]
  cases value with
  | array items =>
      have each : (items.map (pruneItem (name :: rest))).filterMap (·.field? other) =
          items.filterMap fun item =>
            if other = name then (item.field? name).bind (left rest) else item.field? other := by
        rw [List.filterMap_map]
        refine List.filterMap_congr fun item inside => ?_
        exact field?_pruneItem (distinct.items item inside) name rest other
      rw [prune, step, each]
      by_cases same : other = name
      · simp only [if_pos same, step, List.filterMap_filterMap]
      · simp only [if_neg same, step]
  | object fields => exact alone distinct
  | _ => exact alone distinct

theorem prune_nil (value : Value) : value.prune [] = value := by
  have each : pruneItem [] = id := by
    funext item
    cases item <;> rfl
  cases value <;> simp [prune, each]

theorem distinct_prune {value : Value} (distinct : value.Distinct) (path : List String) :
    (value.prune path).Distinct := by
  induction path generalizing value with
  | nil => rwa [prune_nil]
  | cons name rest ih =>
      have inObject : ∀ fields : Fields, (object fields).Distinct →
          (object (Document.removeSegments fields (name :: rest))).Distinct := by
        intro fields distinct
        obtain ⟨names, each⟩ := (distinct_object_iff fields).mp distinct
        by_cases last : rest = []
        · subst last
          refine .object (Fields.nodup_erase names name) fun field member => ?_
          have inside := (Fields.erase_perm names name).mem_iff.mp member
          exact each field (List.mem_filter.mp inside).1
        · rw [Document.removeSegments_cons last]
          cases held : Fields.get? fields name with
          | none => exact distinct
          | some inner =>
              refine .object (Fields.nodup_insert names name _) fun field member => ?_
              rcases Fields.mem_of_mem_insert member with here | before
              · rw [here]
                exact ih (distinct.get? held)
              · exact each field before
      cases value with
      | object fields => exact inObject fields distinct
      | array items =>
          refine .array fun item member => ?_
          obtain ⟨source, inside, made⟩ := List.mem_map.mp member
          rw [← made]
          cases source with
          | object fields => exact inObject fields (distinct.items _ inside)
          | _ => exact distinct.items _ inside
      | _ => exact distinct

theorem valuesAt_prune_cons {value : Value} (distinct : value.Distinct) {rest : List String}
    (more : rest ≠ []) (name : String) (below : List String) :
    (value.prune (name :: rest)).valuesAt (name :: below) =
      (value.step name).flatMap fun inner => (inner.prune rest).valuesAt below := by
  have each : left rest = some ∘ prune rest := by
    funext inner
    rw [left, if_neg more, Function.comp_apply]
  rw [valuesAt_cons, step_prune distinct, if_pos rfl, each, List.filterMap_eq_map,
    List.flatMap_map]

theorem valuesAt_prune_self {value : Value} (distinct : value.Distinct) {path : List String}
    (nonempty : path ≠ []) : (value.prune path).valuesAt path = [] := by
  induction path generalizing value with
  | nil => exact absurd rfl nonempty
  | cons name rest ih =>
      by_cases last : rest = []
      · subst last
        have ends : (value.step name).filterMap (left []) = [] := by simp [left]
        rw [valuesAt_cons, step_prune distinct, if_pos rfl, ends, List.flatMap_nil]
      · rw [valuesAt_prune_cons distinct last, List.flatMap_eq_nil_iff]
        intro inner member
        exact ih (distinct.step name inner member) last

theorem valuesAt_prune_of_parted {value : Value} (distinct : value.Distinct)
    {path other : List String} (parted : Parted path other) :
    (value.prune path).valuesAt other = value.valuesAt other := by
  induction parted generalizing value with
  | here different rest rest' =>
      rw [valuesAt_cons, step_prune distinct, if_neg (Ne.symm different), valuesAt_cons]
  | later name parted ih =>
      rw [valuesAt_prune_cons distinct parted.ne_nil, valuesAt_cons]
      exact List.flatMap_congr fun inner member => ih (distinct.step name inner member)

/-- Where nothing is reached, nothing is after a removal. -/
theorem valuesAt_prune_of_nil {value : Value} (distinct : value.Distinct) {other : List String}
    (nothing : value.valuesAt other = []) (path : List String) :
    (value.prune path).valuesAt other = [] := by
  induction path generalizing value other with
  | nil => rwa [prune_nil]
  | cons name rest ih =>
      cases other with
      | nil => cases nothing
      | cons name' below =>
          rw [valuesAt_cons] at nothing
          rw [valuesAt_cons, step_prune distinct]
          by_cases same : name' = name
          · subst same
            rw [if_pos rfl, List.flatMap_eq_nil_iff]
            intro inner member
            obtain ⟨source, inside, made⟩ := List.mem_filterMap.mp member
            rw [left] at made
            split at made
            · cases made
            · cases made
              exact ih (distinct.step _ source inside)
                (List.flatMap_eq_nil_iff.mp nothing source inside)
          · rw [if_neg same, nothing]

end Value

namespace Projection

open Value

/-- What every removal keeps true of a document is true of it after all of them. -/
theorem dropFrom_preserves {projection : Projection} (holds : Value → Prop)
    (keeps : ∀ selection ∈ projection, ∀ value : Value, value.Distinct → holds value →
      holds (value.prune (segments selection.1)))
    {document : Document} (distinct : (object document).Distinct)
    (first : holds (object document)) : holds (object (dropFrom document projection)) := by
  induction projection generalizing document with
  | nil => exact first
  | cons selection projection ih =>
      obtain ⟨here, later⟩ := List.forall_mem_cons.mp keeps
      rw [dropFrom]
      split
      · exact ih later (distinct_prune distinct _) (here _ distinct first)
      · exact ih later distinct first

theorem dropFrom_removes {projection : Projection} {document : Document}
    (distinct : (object document).Distinct) :
    ∀ selection ∈ projection, selection.2.isDropped = true →
      (object (dropFrom document projection)).valuesAt (segments selection.1) = [] := by
  induction projection generalizing document with
  | nil => exact nofun
  | cons first projection ih =>
      intro selection member dropped
      rw [dropFrom]
      rcases List.mem_cons.mp member with rfl | later
      · rw [if_pos dropped]
        refine dropFrom_preserves (fun value => value.valuesAt (segments selection.1) = [])
          (fun other _ value distinct nothing => valuesAt_prune_of_nil distinct nothing _)
          (distinct_prune distinct (segments selection.1)) ?_
        exact valuesAt_prune_self distinct (segments_ne_nil _)
      · split
        · exact ih (distinct_prune distinct (segments first.1)) selection later dropped
        · exact ih distinct selection later dropped

theorem dropFrom_keeps {projection : Projection} {document : Document}
    (distinct : (object document).Distinct) {path : String}
    (beside : ∀ selection ∈ projection, Diverge selection.1 path) :
    (object (dropFrom document projection)).valuesAt (segments path) =
      (object document).valuesAt (segments path) := by
  apply dropFrom_preserves fun value =>
    value.valuesAt (segments path) = (object document).valuesAt (segments path)
  · intro selection member value distinct same
    have parted := (diverge_iff selection.1 path).mp (beside selection member)
    exact (valuesAt_prune_of_parted distinct parted).trans same
  · exact distinct
  · rfl

/-- A projection that only drops paths leaves nothing at any of them, and leaves alone every path
beside them all. -/
theorem exclusion_removes_listed {projection : Projection} {document : Document}
    (excluding : ∀ selection ∈ projection, selection.2.isDropped = true)
    (distinct : (object document).Distinct) :
    (∀ selection ∈ projection,
        (object (projection.apply document)).resolve selection.1 = []) ∧
      ∀ path, (∀ selection ∈ projection, Diverge selection.1 path) →
        (object (projection.apply document)).resolve path = (object document).resolve path := by
  have exclusive : projection.isInclusive = false := by
    rw [isInclusive, List.any_eq_false]
    intro selection member
    simp [excluding selection member]
  rw [apply, exclusive]
  constructor
  · intro selection member
    exact dropFrom_removes distinct selection member (excluding selection member)
  · intro path beside
    exact dropFrom_keeps distinct beside

def staffed : Document :=
  [("_id", .string "a"), ("customerName", .string "Acme"),
    ("engagementUsers", .array [.object [("email", .string "a@b.org"), ("role", .string "lead"),
      ("name", .string "Ada")], .string "open", .object [("email", .string "c@b.org")]])]

/-- Paths that lie under each other are dropped as well, and items that are no objects stay. -/
theorem exclusion_of_addresses :
    let projection := (((Projection.drop [] "_id").drop "engagementUsers.email").drop
      "engagementUsers.email.host").drop "engagementUsers.name"
    (∀ selection ∈ projection,
        (object (projection.apply staffed)).resolve selection.1 = []) ∧
      (object (projection.apply staffed)).resolve "engagementUsers.role" = [.string "lead"] := by
  intro projection
  have excluding : ∀ selection ∈ projection, selection.2.isDropped = true := by decide
  have distinct : (object staffed).Distinct := by simp [staffed, Fields.names]
  obtain ⟨gone, kept⟩ := exclusion_removes_listed excluding distinct
  exact ⟨gone, (kept "engagementUsers.role" (by decide +kernel)).trans (by decide +kernel)⟩

end Projection

end Engagements
