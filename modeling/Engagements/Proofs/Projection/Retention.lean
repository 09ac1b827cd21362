import Engagements.Proofs.Projection.Parts
import Engagements.Proofs.Text.Sets

/-!
What an inclusion keeps: the values at an included path, as long as the parts of a document that are
put together fit.
-/
namespace Engagements

namespace Projection

open Value

/-- Puts the parts of a document along some paths together. -/
def gather (document selected : Document) (paths : List (List String)) : Document :=
  paths.foldl (fun selected path => mergePart selected ((object document).pickSegments path))
    selected

theorem object_mergePart {document : Document} {path : List String} {part : Value}
    (picked : (object document).pickSegments path = some part) (selected : Document) :
    object (mergePart selected (some part)) = (object selected).merge part := by
  cases path with
  | nil =>
      rw [pickSegments_nil, Option.some_inj] at picked
      rw [← picked]
      rfl
  | cons name rest =>
      obtain ⟨_, _, inner, _, _, _, rfl⟩ := picksField_of_object picked
      rfl

/-- A path leads to the same in what is selected as in the document. -/
def Shows (document selected : Document) (path : List String) : Prop :=
  match (object document).pickSegments path with
  | some part => Along path (object selected) part
  | none => (object selected).pickSegments path = none

/-- What is selected does not stand in the way of the part along a path. -/
def Awaits (document selected : Document) (path : List String) : Prop :=
  match (object document).pickSegments path with
  | some part => Beside Eq path (object selected) part
  | none => (object selected).pickSegments path = none

theorem valuesAt_of_shows {document selected : Document} {path : List String}
    (shows : Shows document selected path) :
    (object selected).valuesAt path = (object document).valuesAt path := by
  rw [← valuesAt_pickSegments (object document)]
  rw [Shows] at shows
  split at shows
  · rename_i part picked
    rw [valuesAt_of_along shows, picked, Option.toList_some, List.flatMap_singleton]
  · rename_i missing
    rw [← valuesAt_pickSegments (object selected), shows, missing]

section Gather

variable {document selected : Document} {path other : List String}

theorem pickSegments_mergePart_eq_none (distinct : (object document).Distinct)
    (missing : (object document).pickSegments path = none)
    (before : (object selected).pickSegments path = none) :
    (object (mergePart selected ((object document).pickSegments other))).pickSegments path =
      none := by
  cases picked : (object document).pickSegments other with
  | none => exact before
  | some part =>
      rw [object_mergePart picked]
      exact pickSegments_merge_eq_none (distinct_pickSegments distinct picked) before
        (pickSegments_eq_none missing picked)

theorem shows_mergePart (distinct : (object document).Distinct)
    (awaits : Awaits document selected path) :
    Shows document (mergePart selected ((object document).pickSegments path)) path := by
  rw [Awaits] at awaits
  rw [Shows]
  split at awaits
  · rename_i part picked
    simp only [picked]
    rw [object_mergePart picked]
    have within := distinct_pickSegments distinct picked
    exact along_merge_of_beside within awaits (along_of_spine (spine_pickSegments picked))
  · rename_i missing
    simp only [missing]
    exact awaits

theorem shows_mergePart_of_settled (distinct : (object document).Distinct)
    (settled : Settled (object document) path other) (shows : Shows document selected path) :
    Shows document (mergePart selected ((object document).pickSegments other)) path := by
  rw [Shows] at shows ⊢
  split at shows
  · rename_i part picked
    cases picked' : (object document).pickSegments other with
    | none => exact shows
    | some part' =>
        rw [object_mergePart picked']
        exact along_merge_of_absorbed (distinct_pickSegments distinct picked') shows
          (settled part part' picked picked').1
  · rename_i missing
    exact pickSegments_mergePart_eq_none distinct missing shows

theorem awaits_mergePart_of_settled (distinct : (object document).Distinct)
    (settled : Settled (object document) other path) (awaits : Awaits document selected path) :
    Awaits document (mergePart selected ((object document).pickSegments other)) path := by
  rw [Awaits] at awaits ⊢
  split at awaits
  · rename_i part picked
    cases picked' : (object document).pickSegments other with
    | none => exact awaits
    | some part' =>
        rw [object_mergePart picked']
        exact beside_merge (distinct_pickSegments distinct picked') awaits
          (settled part' part picked' picked).2
  · rename_i missing
    exact pickSegments_mergePart_eq_none distinct missing awaits

theorem shows_gather (distinct : (object document).Distinct) {paths : List (List String)}
    (settled : ∀ other ∈ paths, Settled (object document) path other)
    (shows : Shows document selected path) :
    Shows document (gather document selected paths) path := by
  induction paths generalizing selected with
  | nil => exact shows
  | cons other paths ih =>
      obtain ⟨here, later⟩ := List.forall_mem_cons.mp settled
      exact ih later (shows_mergePart_of_settled distinct here shows)

theorem awaits_gather (distinct : (object document).Distinct) {paths : List (List String)}
    (settled : ∀ other ∈ paths, Settled (object document) other path)
    (awaits : Awaits document selected path) :
    Awaits document (gather document selected paths) path := by
  induction paths generalizing selected with
  | nil => exact awaits
  | cons other paths ih =>
      obtain ⟨here, later⟩ := List.forall_mem_cons.mp settled
      exact ih later (awaits_mergePart_of_settled distinct here awaits)

theorem awaits_nil (document : Document) (some : path ≠ []) : Awaits document [] path := by
  obtain ⟨name, rest, rfl⟩ := List.exists_cons_of_ne_nil some
  rw [Awaits]
  split
  · rename_i part picked
    obtain ⟨_, _, inner, _, _, _, rfl⟩ := picksField_of_object picked
    exact .one ⟨[], _, rfl, rfl, inner, by rw [Fields.get?, if_pos rfl], nofun⟩
  · rfl

/-- Each of some paths leads to the same in the parts put together as in the document, if each part
is settled with those that follow. -/
theorem shows_gather_of_mem (distinct : (object document).Distinct) {paths : List (List String)}
    (settled : paths.Pairwise (Settled (object document))) (nonempty : ∀ path ∈ paths, path ≠ [])
    (member : path ∈ paths) : Shows document (gather document [] paths) path := by
  obtain ⟨before, after, rfl⟩ := List.append_of_mem member
  obtain ⟨_, later, across⟩ := List.pairwise_append.mp settled
  have awaits := awaits_gather distinct (fun other inside =>
    across other inside path List.mem_cons_self) (awaits_nil document (nonempty path member))
  rw [gather, List.foldl_append, List.foldl_cons]
  exact shows_gather distinct (List.pairwise_cons.mp later).1 (shows_mergePart distinct awaits)

end Gather

/-- The selections of an inclusion of distinct paths, in their order. -/
theorem including_of_nodup {names : List String} (distinct : names.Nodup) :
    including names = (if idField ∈ names then [] else [(idField, .dropped)]) ++
      names.map fun name => (name, Selection.kept) := by
  induction names using List.reverseRecOn with
  | nil => rfl
  | append_singleton names name ih =>
      obtain ⟨before, _, apart⟩ := List.nodup_append.mp distinct
      have absent : name ∉ names := fun inside => apart name inside name List.mem_cons_self rfl
      have others : (names.map fun name => (name, Selection.kept)).filter (·.1 != name) =
          names.map fun name => (name, Selection.kept) := by
        refine List.filter_eq_self.mpr fun selection member => bne_iff_ne.mpr fun same => ?_
        obtain ⟨known, inside, rfl⟩ := List.mem_map.mp member
        exact absent (same ▸ inside)
      rw [including_concat, keep, add, ih before, List.filter_append, others, List.map_append,
        List.append_assoc]
      congr 1
      by_cases known : idField ∈ names
      · simp [known]
      · by_cases same : idField = name
        · simp [same]
        · simp [known, same]

theorem selectAll_kept (document selected : Document) (names : List String) :
    selectAll document selected (names.map fun name => (name, .kept)) =
      gather document selected (names.map segments) := by
  induction names generalizing selected with
  | nil => rfl
  | cons name names ih => exact ih _

/-- The paths that an inclusion follows; the identifying field comes first where it is included. -/
def followed (names : List String) : List String :=
  if idField ∈ names then idField :: names else names

theorem apply_including {names : List String} (distinct : names.Nodup) (some : names ≠ [])
    (document : Document) :
    (including names).apply document = gather document [] ((followed names).map segments) := by
  have single : segments idField = [idField] := by decide
  rw [apply, if_pos ((isInclusive_including names).mpr some), selectedId_including,
    including_of_nodup distinct, selectAll_append, selectAll_kept, followed]
  by_cases known : idField ∈ names
  · rw [if_pos known, if_pos known, if_pos known, List.map_cons, single]
    rfl
  · rw [if_neg known, if_neg known, if_neg known]
    rfl

/-- Whether the parts of a document along two paths fit, if it has both. -/
def partsFit (document : Document) (name other : String) : Bool :=
  match (object document).pick name, (object document).pick other with
  | some part, some part' => part.fits part'
  | _, _ => true

theorem settled_of_partsFit {document : Document} (distinct : (object document).Distinct)
    {name other : String} (order : segments other <+: segments name → segments other = segments name)
    (fit : partsFit document name other = true) :
    Settled (object document) (segments name) (segments other) := by
  refine settled_of_fits distinct order fun part part' picked picked' => ?_
  rw [partsFit, pick, pick, picked, picked'] at fit
  exact fit

theorem settled_followed {document : Document} (distinct : (object document).Distinct)
    {names : List String} (ascending : names.Pairwise (· < ·))
    (fit : ∀ name ∈ names, ∀ other ∈ names, partsFit document name other = true) :
    ((followed names).map segments).Pairwise (Settled (object document)) := by
  have settled : (names.map segments).Pairwise (Settled (object document)) := by
    refine List.pairwise_map.mpr (ascending.imp_of_mem fun {name other} inside inside' before => ?_)
    exact settled_of_partsFit distinct
      (fun leads => absurd (segments_prefix_le leads) (not_le.mpr before))
      (fit name inside other inside')
  rw [followed]
  split
  · rename_i known
    rw [List.map_cons]
    refine List.pairwise_cons.mpr ⟨fun path member => ?_, settled⟩
    obtain ⟨other, inside, rfl⟩ := List.mem_map.mp member
    refine settled_of_partsFit distinct (fun leads => ?_) (fit idField known other inside)
    -- The identifying field is a path of one segment, and no path has none.
    have single : segments idField = [idField] := by decide
    rw [single] at leads ⊢
    have some : 0 < (segments other).length := List.length_pos_iff.mpr (segments_ne_nil other)
    exact leads.eq_of_length (le_antisymm leads.length_le some)
  · exact settled

/-- An inclusion keeps the values at each of its paths where the parts along any two of them fit. -/
theorem resolve_apply_including {names : List String} (ascending : names.Pairwise (· < ·))
    {document : Document} (distinct : (object document).Distinct)
    (fit : ∀ name ∈ names, ∀ other ∈ names, partsFit document name other = true) {name : String}
    (member : name ∈ names) :
    (object ((including names).apply document)).resolve name = (object document).resolve name := by
  have nodup : names.Nodup := ascending.imp ne_of_lt
  have followed' : name ∈ followed names := by
    rw [followed]
    split
    · exact List.mem_cons_of_mem _ member
    · exact member
  rw [apply_including nodup (List.ne_nil_of_mem member)]
  refine valuesAt_of_shows (shows_gather_of_mem distinct (settled_followed distinct ascending fit)
    (fun path inside => ?_) (List.mem_map.mpr ⟨name, followed', rfl⟩))
  obtain ⟨other, _, rfl⟩ := List.mem_map.mp inside
  exact segments_ne_nil other

/-- Paths that begin with different fields have parts that fit in every document. -/
theorem partsFit_of_heads {document : Document} (distinct : (object document).Distinct)
    {name other : String}
    (apart : (segments name).head? = (segments other).head? → name = other) :
    partsFit document name other = true := by
  rw [partsFit]
  split
  · rename_i part part' picked picked'
    by_cases same : name = other
    · rw [same, picked', Option.some_inj] at picked
      rw [← picked]
      exact fits_self (distinct_pickSegments distinct picked')
    · obtain ⟨first, rest, split⟩ := List.exists_cons_of_ne_nil (segments_ne_nil name)
      obtain ⟨first', rest', split'⟩ := List.exists_cons_of_ne_nil (segments_ne_nil other)
      have different : first ≠ first' := by
        intro begins
        refine same (apart ?_)
        rw [split, split', begins]
        rfl
      rw [pick, split] at picked
      rw [pick, split'] at picked'
      obtain ⟨_, _, inner, _, _, _, rfl⟩ := picksField_of_object picked
      obtain ⟨_, _, inner', _, _, _, rfl⟩ := picksField_of_object picked'
      refine (fits_object_iff _ _).mpr fun field inside old held => ?_
      rw [List.mem_singleton.mp inside, Fields.get?, if_neg different] at held
      cases held
  · rfl

/-! Paths that begin with the same field lose values of some document. -/

/-- A value with nothing but what a path leads to. -/
def tower : List String → Value
  | [] => .null
  | name :: rest => .object [(name, tower rest)]

theorem distinct_tower (path : List String) : (tower path).Distinct := by
  induction path with
  | nil => exact .null
  | cons name rest ih =>
      refine .object (List.nodup_singleton name) fun field member => ?_
      rw [List.mem_singleton.mp member]
      exact ih

theorem pickSegments_tower {path other : List String} (apart : ¬other <+: path) :
    (tower path).pickSegments other = none := by
  induction path generalizing other with
  | nil =>
      cases other with
      | nil => exact absurd List.nil_prefix apart
      | cons first below => rfl
  | cons name rest ih =>
      cases other with
      | nil => exact absurd List.nil_prefix apart
      | cons first below =>
          rw [tower, pickSegments_object, Fields.get?]
          by_cases same : name = first
          · have below := ih fun leads => apart (List.cons_prefix_cons.mpr ⟨same.symm, leads⟩)
            rw [if_pos same, Option.bind_some, below]
            rfl
          · rw [if_neg same]
            rfl

theorem valuesAt_tower (path : List String) : (tower path).valuesAt path = [.null] := by
  induction path with
  | nil => rfl
  | cons name rest ih =>
      rw [tower, valuesAt_object, valuesBelow, field?, Fields.get?, if_pos rfl, Option.toList_some,
        List.flatMap_singleton, ih]

/-- A document with an array of one item under a name. -/
def listing (name : String) (rest : List String) : Document := [(name, .array [tower rest])]

theorem distinct_listing (name : String) (rest : List String) :
    (object (listing name rest)).Distinct := by
  refine .object (List.nodup_singleton name) fun field member => ?_
  rw [List.mem_singleton.mp member]
  refine .array fun item inside => ?_
  rw [List.mem_singleton.mp inside]
  exact distinct_tower rest

theorem gather_of_missing {document : Document} {paths : List (List String)}
    (missing : ∀ path ∈ paths, (object document).pickSegments path = none) (selected : Document) :
    gather document selected paths = selected := by
  induction paths generalizing selected with
  | nil => rfl
  | cons path paths ih =>
      obtain ⟨here, later⟩ := List.forall_mem_cons.mp missing
      rw [gather, List.foldl_cons, here]
      exact ih later selected

/-- An empty array takes the place of whatever it is merged into. -/
theorem merge_nil (value : Value) : value.merge (.array []) = .array [] := by
  cases value with
  | array items =>
      rw [merge]
      split
      · rw [mergeItems_eq, List.zipWith_nil_right]
      · rfl
  | _ => rfl

theorem pickSegments_listing {name : String} {rest below : List String} (nonempty : below ≠ [])
    (apart : ¬below <+: rest) :
    (object (listing name rest)).pickSegments (name :: below) =
      some (object [(name, .array [])]) := by
  obtain ⟨first, below, rfl⟩ := List.exists_cons_of_ne_nil nonempty
  have item : pickItem (first :: below) (tower rest) = none := by
    rw [pickItem, pickSegments_tower apart, ite_self]
  rw [pickSegments_object, listing, Fields.get?, if_pos rfl, Option.bind_some, pickSegments_array,
    List.filterMap_cons, item]
  rfl

theorem pickSegments_listing_eq_none {name : String} {rest path : List String}
    (nonempty : path ≠ []) (other : path.head? ≠ some name) :
    (object (listing name rest)).pickSegments path = none := by
  obtain ⟨first, below, rfl⟩ := List.exists_cons_of_ne_nil nonempty
  have different : name ≠ first := fun same => other (by rw [same]; rfl)
  rw [pickSegments_object, listing, Fields.get?, if_neg different]
  rfl

/-- An emptied array takes the place of what a document holds in its field. -/
theorem get?_mergePart_emptied (selected : Document) (name : String) :
    Fields.get? (mergePart selected (some (object [(name, .array [])]))) name =
      some (.array []) := by
  have alone : (Fields.names [(name, Value.array [])]).Nodup := List.nodup_singleton name
  change Fields.get? (mergeFields selected [(name, .array [])]) name = _
  rw [get?_mergeFields _ alone, Fields.get?, if_pos rfl]
  cases Fields.get? selected name with
  | none => rfl
  | some value => exact congrArg some (merge_nil value)

/-- The last path through a field decides on its array. -/
theorem get?_gather_listing {name : String} {rest below : List String} (nonempty : below ≠ [])
    (apart : ¬below <+: rest) {later : List (List String)}
    (others : ∀ path ∈ later, path ≠ [] ∧ path.head? ≠ some name) (before : List (List String)) :
    Fields.get? (gather (listing name rest) [] (before ++ (name :: below) :: later)) name =
      some (.array []) := by
  have missing : ∀ path ∈ later, (object (listing name rest)).pickSegments path = none :=
    fun path inside => pickSegments_listing_eq_none (others path inside).1 (others path inside).2
  rw [gather, List.foldl_append, List.foldl_cons, pickSegments_listing nonempty apart, ← gather,
    ← gather, gather_of_missing missing]
  exact get?_mergePart_emptied _ name

theorem exists_last {α : Type} {p : α → Prop} {items : List α} (found : ∃ item ∈ items, p item) :
    ∃ before last after, items = before ++ last :: after ∧ p last ∧ ∀ item ∈ after, ¬p item := by
  induction items with
  | nil =>
      obtain ⟨item, inside, _⟩ := found
      cases inside
  | cons first items ih =>
      by_cases later : ∃ item ∈ items, p item
      · obtain ⟨before, last, after, rfl, here, others⟩ := ih later
        exact ⟨first :: before, last, after, rfl, here, others⟩
      · obtain ⟨item, inside, here⟩ := found
        rcases List.mem_cons.mp inside with rfl | inside
        · exact ⟨[], item, items, rfl, here, fun other within claim =>
            later ⟨other, within, claim⟩⟩
        · exact absurd ⟨item, inside, here⟩ later

/-- An array that is emptied has lost the values of its item. -/
theorem valuesAt_emptied {selected : Document} {name : String} {rest : List String}
    (emptied : Fields.get? selected name = some (.array [])) :
    (object selected).valuesAt (name :: rest) ≠
      (object (listing name rest)).valuesAt (name :: rest) := by
  have held : Fields.get? (listing name rest) name = some (.array [tower rest]) := by
    rw [listing, Fields.get?, if_pos rfl]
  rw [valuesAt_object, valuesAt_object, valuesBelow, valuesBelow, field?, field?, emptied, held,
    Option.toList_some, Option.toList_some, List.flatMap_singleton, List.flatMap_singleton]
  cases rest with
  | nil => exact fun same => by cases same
  | cons first below =>
      have kept : (Value.array [tower (first :: below)]).valuesAt (first :: below) = [.null] := by
        rw [valuesAt_array, List.flatMap_singleton, ← valuesAt_tower (first :: below), tower,
          valuesAt_object]
      rw [kept, valuesAt_array]
      exact fun same => by cases same

/-- Of two paths that begin with the same field, some document loses the values of one. -/
theorem exists_lost {names : List String} (ascending : names.Pairwise (· < ·))
    {one two : String} (member : one ∈ names) (member' : two ∈ names) (different : one ≠ two)
    (together : (segments one).head? = (segments two).head?) :
    ∃ document, (object document).Distinct ∧ ∃ lost ∈ names,
      (object ((including names).apply document)).resolve lost ≠ (object document).resolve lost := by
  obtain ⟨name, _, split⟩ := List.exists_cons_of_ne_nil (segments_ne_nil one)
  have begins : (segments one).head? = some name := by rw [split]; rfl
  obtain ⟨before, last, after, rfl, leads, others⟩ :=
    exists_last (p := fun path => (segments path).head? = some name) ⟨one, member, begins⟩
  -- One of the two paths is not the last that begins with the field, so it stands before that.
  obtain ⟨lost, inside, through⟩ : ∃ lost ∈ before, (segments lost).head? = some name := by
    have place : ∀ path ∈ before ++ last :: after, (segments path).head? = some name →
        path ≠ last → path ∈ before := by
      intro path inside through other
      rcases List.mem_append.mp inside with early | late
      · exact early
      · rcases List.mem_cons.mp late with same | late
        · exact absurd same other
        · exact absurd through (others path late)
    by_cases same : one = last
    · exact ⟨two, place two member' (together ▸ begins) (same ▸ different.symm), together ▸ begins⟩
    · exact ⟨one, place one member begins same, begins⟩
  have order : lost < last :=
    (List.pairwise_append.mp ascending).2.2 lost inside last List.mem_cons_self
  have apart : ¬segments last <+: segments lost :=
    fun back => absurd (segments_prefix_le back) (not_le.mpr order)
  rw [segments_eq_cons through, segments_eq_cons leads, List.cons_prefix_cons] at apart
  replace apart : ¬(segments last).tail <+: (segments lost).tail := fun back => apart ⟨rfl, back⟩
  have nonempty : (segments last).tail ≠ [] := fun nil => apart (nil ▸ List.nil_prefix)
  have later : ∀ path ∈ after.map segments, path ≠ [] ∧ path.head? ≠ some name := by
    intro path inside
    obtain ⟨other, within, rfl⟩ := List.mem_map.mp inside
    exact ⟨segments_ne_nil other, others other within⟩
  have emptied := get?_gather_listing nonempty apart later
  have present : lost ∈ before ++ last :: after := List.mem_append_left _ inside
  refine ⟨listing name (segments lost).tail, distinct_listing _ _, lost, present, ?_⟩
  rw [apply_including (ascending.imp ne_of_lt) (List.ne_nil_of_mem present), resolve, resolve,
    segments_eq_cons through]
  refine valuesAt_emptied ?_
  rw [followed]
  split
  · rw [List.map_cons, List.map_append, List.map_cons, segments_eq_cons leads, ← List.cons_append]
    exact emptied _
  · rw [List.map_append, List.map_cons, segments_eq_cons leads]
    exact emptied _

end Projection

end Engagements
