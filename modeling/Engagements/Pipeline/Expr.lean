import Engagements.Json.Printer
import Engagements.Unicode.Casing
import Engagements.Value.Path

/-!
Expressions over a document; one that has no value there is missing.
-/
namespace Engagements

inductive Expr where
  | field (path : String)
  | root
  | literal (value : Value)
  | lower (inner : Expr)
  | item (inner : Expr) (index : Int)
  | orElse (inner fallback : Expr)
  | merged (items : List Expr)
  | object (fields : List (String × Expr))
  deriving Repr, Inhabited

namespace Expr

/-- Lowercase of a string, the empty text for nothing, and of any other value its JSON text. -/
def lowerText : Option Value → String
  | none | some .null => ""
  | some (.string s) => Unicode.lowercase s
  | some other => Unicode.lowercase (Json.compact other)

/-- An item of an array; a negative index counts from the end. -/
def itemAt (index : Int) : Option Value → Option Value
  | some (.array items) =>
    if 0 ≤ index then items[index.toNat]?
    else if index.natAbs ≤ items.length then items[items.length - index.natAbs]?
    else none
  | _ => none

mutual
def eval (document : Document) : Expr → Option Value
  | field path => (Value.object document).get? path
  | root => some (.object document)
  | literal value => some value
  | lower inner => some (.string (lowerText (eval document inner)))
  | item inner index => itemAt index (eval document inner)
  | orElse inner fallback =>
    match eval document inner with
    | none | some .null => eval document fallback
    | found => found
  | merged items => some (.object (evalMerged document [] items))
  | object fields => some (.object (evalFields document [] fields))
termination_by structural expr => expr

/-- The fields of all the objects among the items; a later one wins. -/
def evalMerged (document : Document) (merged : Fields) : List Expr → Fields
  | [] => merged
  | expr :: exprs =>
    let merged :=
      match eval document expr with
      | some (.object fields) => Fields.insertAll merged fields
      | _ => merged
    evalMerged document merged exprs
termination_by structural exprs => exprs

/-- Missing values leave no field. -/
def evalFields (document : Document) (fields : Fields) : List (String × Expr) → Fields
  | [] => fields
  | (name, expr) :: exprs =>
    let fields :=
      match eval document expr with
      | some value => Fields.insert fields name value
      | none => fields
    evalFields document fields exprs
termination_by structural exprs => exprs
end

end Expr

end Engagements
