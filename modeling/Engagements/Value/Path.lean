import Engagements.Text
import Engagements.Value

/-!
Dotted paths into documents. Reading fans out over the objects of an array on the way; writing
makes the objects that are missing on the way.
-/
namespace Engagements

/-- The segments of a dotted path; the empty path is one empty segment. -/
def segments (path : String) : List String := Text.split '.' path

/-- The last segment of a dotted path. -/
def trailingSegment (path : String) : String := (segments path).getLast?.getD path

/-- Whether a path is another one or continues it after a dot. -/
def isUnder (path container : String) : Bool :=
  path == container || (container.toList ++ ['.']).isPrefixOf path.toList

namespace Value

def field? (value : Value) (name : String) : Option Value :=
  match value with
  | object fields => Fields.get? fields name
  | _ => none

/-- The values one segment below a value; below an array, those of its objects. -/
def step (value : Value) (segment : String) : List Value :=
  match value with
  | array items => items.filterMap (·.field? segment)
  | other => (other.field? segment).toList

def resolveSegments (values : List Value) : List String → List Value
  | [] => values
  | segment :: rest => resolveSegments (values.flatMap (·.step segment)) rest

/-- Every value reachable at a path. -/
def resolve (value : Value) (path : String) : List Value :=
  resolveSegments [value] (segments path)

/-- The values that a predicate looks at: what a path reaches, and the items of arrays there. -/
def candidates (value : Value) (path : String) : List Value :=
  (value.resolve path).flatMap fun
    | array items => items ++ [array items]
    | other => [other]

mutual
/-- The value at a path, with an array in place of every array passed on the way. -/
def getSegments : Value → List String → Option Value
  | value, [] => some value
  | object fields, segment :: rest => getField fields segment rest
  | array items, segment :: rest => some (array (getItems items (segment :: rest)))
  | _, _ :: _ => none
termination_by structural value => value

def getField : Fields → String → List String → Option Value
  | [], _, _ => none
  | (name, value) :: others, segment, rest =>
    if name = segment then getSegments value rest else getField others segment rest
termination_by structural fields => fields

def getItems : List Value → List String → List Value
  | [], _ => []
  | item :: items, path =>
    let found := if item.isObject then getSegments item path else none
    found.toList ++ getItems items path
termination_by structural items => items
end

def get? (value : Value) (path : String) : Option Value := value.getSegments (segments path)

end Value

namespace Document

def fieldsOrEmpty : Option Value → Fields
  | some (.object fields) => fields
  | _ => []

/-- Objects are made on the way; what stands in their place is replaced. -/
def setSegments (document : Document) : List String → Value → Document
  | [], _ => document
  | [name], value => Fields.insert document name value
  | name :: rest, value =>
    Fields.insert document name
      (.object (setSegments (fieldsOrEmpty (Fields.get? document name)) rest value))

def set (document : Document) (path : String) (value : Value) : Document :=
  setSegments document (segments path) value

/-- Removes a path from every object it reaches. -/
def removeSegments (document : Document) : List String → Document
  | [] => document
  | [name] => Fields.erase document name
  | name :: rest =>
    match Fields.get? document name with
    | some (.object fields) => Fields.insert document name (.object (removeSegments fields rest))
    | some (.array items) =>
      Fields.insert document name (.array (items.map fun
        | .object fields => .object (removeSegments fields rest)
        | other => other))
    | _ => document

def remove (document : Document) (path : String) : Document :=
  removeSegments document (segments path)

end Document

end Engagements
