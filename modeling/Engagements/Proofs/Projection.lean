import Engagements.Pipeline.Projection
import Engagements.Proofs.Path

/-!
Projections that compute fields of their own.
-/
namespace Engagements.Projection

/-- A projection that computes a field of each name. -/
def computing (names : List String) (expr : String → Expr) : Projection :=
  names.map fun name => (name, .computed (expr name))

theorem foldl_compute (names : List String) (expr : String → Expr) {before : Projection}
    (distinct : (before.map Prod.fst ++ names).Nodup) :
    names.foldl (fun projection name => compute projection name (expr name)) before =
      before ++ computing names expr := by
  induction names generalizing before with
  | nil => exact (List.append_nil before).symm
  | cons name names ih =>
      have fresh : before.filter (·.1 != name) = before := by
        refine List.filter_eq_self.mpr fun selection member => bne_iff_ne.mpr fun same => ?_
        refine (List.nodup_append.mp distinct).2.2 selection.1 ?_ name List.mem_cons_self same
        exact List.mem_map.mpr ⟨selection, member, rfl⟩
      rw [List.foldl_cons, compute, add, fresh, ih (by simpa using distinct), List.append_assoc]
      rfl

theorem selectAll_append (document selected : Document) (first second : Projection) :
    selectAll document selected (first ++ second) =
      selectAll document (selectAll document selected first) second := by
  induction first generalizing selected with
  | nil => rfl
  | cons selection first ih => exact ih _

theorem get?_select_computed {path : String} (single : segments path = [path]) (expr : Expr)
    (document selected : Document) (name : String) :
    Fields.get? (select document selected path (.computed expr)) name =
      if path = name then (expr.eval document).or (Fields.get? selected name)
      else Fields.get? selected name := by
  rw [select]
  cases expr.eval document with
  | none => exact (ite_self _).symm
  | some value =>
      rw [Document.get?_set, single]
      simp only [List.head?_cons, Option.some.injEq]
      rfl

theorem get?_selectAll_of_absent {names : List String}
    (single : ∀ name ∈ names, segments name = [name]) (expr : String → Expr)
    (document selected : Document) {name : String} (absent : name ∉ names) :
    Fields.get? (selectAll document selected (computing names expr)) name =
      Fields.get? selected name := by
  induction names generalizing selected with
  | nil => rfl
  | cons first names ih =>
      obtain ⟨here, later⟩ := List.forall_mem_cons.mp single
      obtain ⟨different, absent⟩ := List.ne_and_not_mem_of_not_mem_cons absent
      refine (ih later _ absent).trans ?_
      rw [get?_select_computed here, if_neg (Ne.symm different)]

/-- A computed field holds the value of its expression, or what was there if there is none. -/
theorem get?_selectAll {names : List String} (distinct : names.Nodup)
    (single : ∀ name ∈ names, segments name = [name]) (expr : String → Expr)
    (document selected : Document) {name : String} (inside : name ∈ names) :
    Fields.get? (selectAll document selected (computing names expr)) name =
      ((expr name).eval document).or (Fields.get? selected name) := by
  induction names generalizing selected with
  | nil => cases inside
  | cons first names ih =>
      obtain ⟨here, later⟩ := List.forall_mem_cons.mp single
      obtain ⟨fresh, distinct⟩ := List.nodup_cons.mp distinct
      rcases List.mem_cons.mp inside with rfl | inside
      · refine (get?_selectAll_of_absent later expr document _ fresh).trans ?_
        rw [get?_select_computed here, if_pos rfl]
      · have different : first ≠ name := fun same => fresh (same ▸ inside)
        refine (ih distinct later _ inside).trans ?_
        rw [get?_select_computed here, if_neg different]

/-- A field that is computed last holds the value of its expression. -/
theorem get?_apply_compute {path : String} (single : segments path = [path])
    (projection : Projection) {expr : Expr} {document : Document} {value : Value}
    (made : expr.eval document = some value) :
    Fields.get? ((projection.compute path expr).apply document) path = some value := by
  have inclusive : (projection.compute path expr).isInclusive = true := by
    simp [isInclusive, compute, add, Selection.isDropped]
  rw [apply, if_pos inclusive, compute, add, selectAll_append, selectAll, selectAll,
    get?_select_computed single, if_pos rfl, made, Option.some_or]

/-- What computed fields do not replace is the identifying field only. -/
theorem get?_apply_computing {names : List String} (some : names ≠ []) (distinct : names.Nodup)
    (single : ∀ name ∈ names, segments name = [name]) (expr : String → Expr)
    (document : Document) {name : String} (inside : name ∈ names) :
    Fields.get? ((computing names expr).apply document) name =
      ((expr name).eval document).or
        (if name = idField then Fields.get? document idField else none) := by
  have inclusive : (computing names expr).isInclusive = true := by
    obtain ⟨first, rest, split⟩ := List.exists_cons_of_ne_nil some
    subst split
    rfl
  have kept : (computing names expr).dropsId = false := by
    rw [dropsId, computing, List.any_map, List.any_eq_false]
    exact fun name _ => by simp [Selection.isDropped]
  rw [apply, if_pos inclusive, get?_selectAll distinct single expr document _ inside, selectedId,
    kept]
  congr 1
  cases found : Fields.get? document idField with
  | none => simp [Fields.get?]
  | some id => simp [Fields.get?, eq_comm]

end Engagements.Projection
