import Engagements.Value
import Engagements.Width

/-!
Settings as they are found in files and variables, before each is brought to its type.
-/
namespace Engagements

/-- Why settings cannot be loaded: something is malformed or has no place, or loading breaks off
before it comes to an end. -/
inductive LoadFailure where
  | malformed
  | crash
  deriving DecidableEq, Repr

/-- A setting as it was found. -/
inductive Setting where
  | nothing
  | flag (b : Bool)
  | whole (n : Int)
  | real (d : Double)
  | infinite (negative : Bool)
  | undefined
  | text (s : String)
  | list (items : List Setting)
  | table (entries : List (String × Setting))
  deriving Repr, Inhabited

abbrev Setting.Table := List (String × Setting)

namespace Setting

mutual
def ofValue : Value → Setting
  | .null => nothing
  | .bool b => flag b
  | .number (.integer n) =>
    if Width.isSigned 64 n then whole n else real (Double.ofInt n)
  | .number (.double d) => real d
  | .string s => text s
  | .array items => list (ofItems items)
  | .object fields => table (ofFields fields)
termination_by structural value => value

def ofItems : List Value → List Setting
  | [] => []
  | item :: items => ofValue item :: ofItems items
termination_by structural items => items

def ofFields : Fields → Table
  | [] => []
  | (name, value) :: fields => (name, ofValue value) :: ofFields fields
termination_by structural fields => fields
end

def Table.get? : Table → String → Option Setting
  | [], _ => none
  | (key, setting) :: rest, name => if key = name then some setting else Table.get? rest name

def Table.insert : Table → String → Setting → Table
  | [], name, setting => [(name, setting)]
  | (key, old) :: rest, name, setting =>
    if key = name then (key, setting) :: rest else (key, old) :: Table.insert rest name setting

/-- The entries of a table; there are none in anything else. -/
def entries : Setting → Table
  | table entries => entries
  | _ => []

/-- The items of a list; there are none in anything else. -/
def items : Setting → List Setting
  | list items => items
  | _ => []

end Setting

end Engagements
