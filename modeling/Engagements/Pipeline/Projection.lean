import Engagements.Pipeline.Expr

/-!
Projections: the fields of a document that are kept, dropped or computed.
-/
namespace Engagements

inductive Selection where
  | kept
  | dropped
  | computed (expr : Expr)
  deriving Repr, Inhabited

def Selection.isDropped : Selection → Bool
  | dropped => true
  | _ => false

/-- Selections in the order in which they were added, one for each path. -/
abbrev Projection := List (String × Selection)

/-- The field that identifies a document inside its store. -/
def idField : String := "_id"

namespace Projection

/-- A later selection of a path replaces an earlier one and goes to the end. -/
def add (projection : Projection) (path : String) (selection : Selection) : Projection :=
  projection.filter (·.1 != path) ++ [(path, selection)]

def keep (projection : Projection) (path : String) : Projection := projection.add path .kept

def drop (projection : Projection) (path : String) : Projection := projection.add path .dropped

def compute (projection : Projection) (path : String) (expr : Expr) : Projection :=
  projection.add path (.computed expr)

/-- Whether only the selected fields survive; otherwise all but the dropped ones do. -/
def isInclusive (projection : Projection) : Bool := projection.any (!·.2.isDropped)

end Projection

namespace Value

mutual
/-- The part of a value that holds only a path. -/
def pickSegments : Value → List String → Option Value
  | value, [] => some value
  | object fields, segment :: rest => pickField fields segment rest
  | array items, segment :: rest => some (array (pickItems items (segment :: rest)))
  | _, _ :: _ => none
termination_by structural value => value

def pickField : Fields → String → List String → Option Value
  | [], _, _ => none
  | (name, value) :: others, segment, rest =>
    if name = segment then (pickSegments value rest).map fun part => object [(segment, part)]
    else pickField others segment rest
termination_by structural fields => fields

def pickItems : List Value → List String → List Value
  | [], _ => []
  | item :: items, path =>
    (if item.isObject then pickSegments item path else none).toList ++ pickItems items path
termination_by structural items => items
end

def pick (value : Value) (path : String) : Option Value := value.pickSegments (segments path)

mutual
/-- Puts a part into a value: objects and arrays of one length are merged, all else replaced. -/
def merge : Value → Value → Value
  | object fields, object others => object (mergeFields fields others)
  | array items, array others =>
    if items.length = others.length then array (mergeItems items others) else array others
  | _, other => other
termination_by structural _ other => other

def mergeFields (fields : Fields) : Fields → Fields
  | [] => fields
  | (name, value) :: others =>
    let merged :=
      match fields.get? name with
      | some existing => merge existing value
      | none => value
    mergeFields (fields.insert name merged) others
termination_by structural others => others

def mergeItems : List Value → List Value → List Value
  | item :: items, other :: others => merge item other :: mergeItems items others
  | _, _ => []
termination_by structural _ others => others
end

end Value

namespace Projection

def dropFrom (document : Document) : Projection → Document
  | [] => document
  | (path, selection) :: rest =>
    dropFrom (if selection.isDropped then document.remove path else document) rest

def mergePart (selected : Document) : Option Value → Document
  | some (.object part) => Value.mergeFields selected part
  | _ => selected

/-- Adds what one selection takes from a document. -/
def select (document selected : Document) (path : String) : Selection → Document
  | .kept => mergePart selected ((Value.object document).pick path)
  | .computed expr =>
    match expr.eval document with
    | some value => selected.set path value
    | none => selected
  | .dropped => selected

def dropsId (projection : Projection) : Bool :=
  projection.any fun (path, selection) => path == idField && selection.isDropped

/-- The identifying field, unless it is dropped. -/
def selectedId (projection : Projection) (document : Document) : Document :=
  if projection.dropsId then []
  else
    match Fields.get? document idField with
    | some id => [(idField, id)]
    | none => []

def selectAll (document selected : Document) : Projection → Document
  | [] => selected
  | (path, selection) :: rest => selectAll document (select document selected path selection) rest

def apply (projection : Projection) (document : Document) : Document :=
  if projection.isInclusive then
    selectAll document (projection.selectedId document) projection
  else dropFrom document projection

end Projection

end Engagements
