import Engagements.Proofs.Projection.Parts

/-!
The part of a value along a path, and what the readers of paths find in it.
-/
namespace Engagements.Value

/-- What an item of an array has at a path; only objects have something there. -/
def getItem (path : List String) (item : Value) : Option Value :=
  if item.isObject then item.getSegments path else none

theorem getItems_eq (items : List Value) (path : List String) :
    getItems items path = items.filterMap (getItem path) := by
  induction items with
  | nil => rfl
  | cons item items ih =>
      rw [getItems, ih, List.filterMap_cons, getItem]
      cases (if item.isObject then item.getSegments path else none) <;> rfl

/-- What stands at the end of a path in the part along it. -/
def tip : List String → Value → Value
  | [], part => part
  | name :: rest, array items =>
    array (items.map fun item => tip rest ((item.field? name).getD null))
  | name :: rest, part => tip rest ((part.field? name).getD null)

/-- What is read at a path is the end of the part along it. -/
theorem getSegments_eq_tip (value : Value) (path : List String) :
    value.getSegments path = (value.pickSegments path).map (tip path) := by
  induction path generalizing value with
  | nil => rw [getSegments_nil, pickSegments_nil, Option.map_some, tip]
  | cons name rest ih =>
      have inObject : ∀ fields : Fields, (object fields).getSegments (name :: rest) =
          ((object fields).pickSegments (name :: rest)).map
            fun part => tip rest ((part.field? name).getD null) := by
        intro fields
        rw [getSegments, getField_eq, pickSegments_object, Option.map_map]
        cases held : Fields.get? fields name with
        | none => rfl
        | some inner =>
            rw [Option.bind_some, Option.bind_some, ih inner]
            refine congrArg (Option.map · _) (funext fun part => ?_)
            simp [field?, Fields.get?]
      cases value with
      | object fields =>
          rw [inObject fields]
          refine Option.map_congr fun part member => ?_
          obtain ⟨_, _, inner, _, _, _, rfl⟩ := picksField_of_object member
          rfl
      | array items =>
          rw [getSegments, getItems_eq, pickSegments_array, Option.map_some, tip,
            List.map_filterMap]
          refine congrArg (some ∘ array) (List.filterMap_congr fun item _ => ?_)
          cases item with
          | object fields => exact inObject fields
          | _ => rfl
      | _ => rfl

variable {value part : Value} {path : String}

theorem pick_again (picked : value.pick path = some part) : part.pick path = some part := by
  have again := pickSegments_again value (segments path) []
  rw [List.append_nil, ← pick, picked, Option.bind_some] at again
  exact again

/-- A path leads to a part of a value exactly where it leads to something at all; in the part the
readers find the same at the path as in the value; and where nothing is read, nothing is reached. -/
theorem part_reads_as_whole (value : Value) (path : String) :
    (value.pick path).isSome = (value.get? path).isSome ∧
      (∀ part, value.pick path = some part →
        part.get? path = value.get? path ∧ part.resolve path = value.resolve path) ∧
      (value.get? path = none → value.resolve path = []) := by
  have read (value : Value) : value.get? path = (value.pick path).map (tip (segments path)) :=
    getSegments_eq_tip value (segments path)
  have reached : (value.pick path).toList.flatMap (·.resolve path) = value.resolve path :=
    valuesAt_pickSegments value (segments path)
  refine ⟨?_, ?_, ?_⟩
  · rw [read, Option.isSome_map]
  · intro part picked
    rw [read, read, pick_again picked, picked]
    rw [picked, Option.toList_some, List.flatMap_singleton] at reached
    exact ⟨rfl, reached⟩
  · intro missing
    rw [read, Option.map_eq_none_iff] at missing
    calc value.resolve path = (value.pick path).toList.flatMap (·.resolve path) := reached.symm
      _ = [] := by rw [missing, Option.toList_none, List.flatMap_nil]

def clusters : Value :=
  .object [("hosts", .array [
    .object [("apps", .array [.object [("name", .string "web"), ("port", .int 80)], .int 5,
      .array [.object [("name", .string "nested")]], .object [("port", .int 81)]])],
    .string "stray", .object [("zone", .string "a")],
    .object [("apps", .object [("name", .string "db")])]])]

theorem names_of_apps_read :
    (∃ part, clusters.pick "hosts.apps.name" = some part ∧
        part.get? "hosts.apps.name" =
          some (.array [.array [.string "web"], .string "db"]) ∧
        part.resolve "hosts.apps.name" = [.string "web", .string "db"]) ∧
      clusters.get? "zones.name" = none ∧ clusters.resolve "zones.name" = [] := by
  obtain ⟨_, same, _⟩ := part_reads_as_whole clusters "hosts.apps.name"
  obtain ⟨_, _, nothing⟩ := part_reads_as_whole clusters "zones.name"
  have missing : clusters.get? "zones.name" = none := by decide +kernel
  have picked : clusters.pick "hosts.apps.name" = some (.object [("hosts", .array [
      .object [("apps", .array [.object [("name", .string "web")]])],
      .object [("apps", .object [("name", .string "db")])]])]) := by
    decide +kernel
  obtain ⟨read, reached⟩ := same _ picked
  exact ⟨⟨_, picked, read.trans (by decide +kernel), reached.trans (by decide +kernel)⟩,
    missing, nothing missing⟩

end Engagements.Value
