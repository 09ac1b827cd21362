import Engagements.Error
import Engagements.Pipeline
import Engagements.Width

/-!
Running a pipeline over documents. Only replacing the root of a document can fail.
-/
namespace Engagements

/-- A sum stays whole while its numbers and itself are 64-bit integers, then it is a double. -/
inductive RunningSum where
  | whole (n : Int)
  | double (d : Double)
  | infinite
  deriving DecidableEq, Repr

namespace RunningSum

def addDouble (sum : Double) (number : Number) : RunningSum :=
  match sum.add? number.toDouble with
  | some total => double total
  | none => infinite

def add (sum : RunningSum) (number : Number) : RunningSum :=
  match sum, number with
  | whole n, .integer m =>
    if Width.isSigned 64 m && Width.isSigned 64 (n + m) then whole (n + m)
    else addDouble (Double.ofInt n) number
  | whole n, number => addDouble (Double.ofInt n) number
  | double d, number => addDouble d number
  | infinite, _ => infinite

/-- A sum without a finite value is null. -/
def toValue : RunningSum → Value
  | whole n => .int n
  | double d => .number (.double d)
  | infinite => .null

def addValue (sum : RunningSum) : Option Value → RunningSum
  | some (.number number) => sum.add number
  | _ => sum

end RunningSum

namespace Accumulator

/-- The value of an accumulator over the documents of a group. -/
def value (documents : List Document) : Accumulator → Value
  | first expr => (documents.head?.bind fun document => expr.eval document).getD .null
  | sum expr =>
    (documents.foldl (fun total document => total.addValue (expr.eval document))
      (RunningSum.whole 0)).toValue

end Accumulator

namespace Document

/-- One document for each item of an array at a path. Where the path leads nowhere or to null
there is none, and where it leads to another value the document stays as it is. -/
def unwind (document : Document) (path : String) : List Document :=
  match (Value.object document).get? path with
  | some (.array items) => items.map fun item => document.set path item
  | none | some .null => []
  | some _ => [document]

/-- Sets fields in turn; each expression sees the fields before it. -/
def addFields (document : Document) : List (String × Expr) → Document
  | [] => document
  | (path, expr) :: rest =>
    addFields
      (match expr.eval document with
        | some value => document.set path value
        | none => document) rest

def sortValue (document : Document) (key : SortKey) : Value :=
  ((Value.object document).get? key.field).getD .null

/-- The first key on which two documents differ decides their order. -/
def orderBy : List SortKey → Document → Document → Ordering
  | [], _, _ => .eq
  | key :: keys, left, right =>
    (key.order.apply ((sortValue left key).order (sortValue right key))).then
      (orderBy keys left right)

end Document

/-- The documents with one value of the key; keys are told apart by their text. -/
structure DocumentGroup where
  text : String
  key : Value
  documents : List Document

namespace DocumentGroup

/-- A document goes to the end of its group, or begins a new group at the end. -/
def place (key : Value) (document : Document) : List DocumentGroup → List DocumentGroup
  | [] => [⟨Json.compact key, key, [document]⟩]
  | group :: groups =>
    if group.text = Json.compact key then
      { group with documents := group.documents ++ [document] } :: groups
    else group :: place key document groups

def keyOf (expr : Expr) (document : Document) : Value := (expr.eval document).getD .null

def ofDocuments (expr : Expr) (documents : List Document) : List DocumentGroup :=
  documents.foldl (fun groups document => place (keyOf expr document) document groups) []

/-- The document that stands for a group. -/
def toDocument (accumulators : List (String × Accumulator)) (group : DocumentGroup) : Document :=
  Fields.ofList ((idField, group.key) ::
    accumulators.map fun (name, accumulator) => (name, accumulator.value group.documents))

end DocumentGroup

/-- The object that an expression makes of a document. -/
def Expr.evalRoot (expr : Expr) (document : Document) : Result Document :=
  match expr.eval document with
  | some (.object fields) => .ok fields
  | other =>
    let text := Json.compact (other.getD .null)
    .error (.invalidPipeline s!"$replaceRoot expression must evaluate to a document, got {text}")

mutual
def Stage.run (documents : List Document) : Stage → Result (List Document)
  | .filter predicate => .ok (documents.filter fun document => predicate.holds (.object document))
  | .unwind path => .ok (documents.flatMap (·.unwind path))
  | .addFields fields => .ok (documents.map (·.addFields fields))
  | .group key accumulators =>
    .ok ((DocumentGroup.ofDocuments key documents).map (·.toDocument accumulators))
  | .replaceRoot expr => documents.mapM expr.evalRoot
  | .sort keys =>
    .ok (documents.mergeSort fun left right => Document.orderBy keys left right != .gt)
  | .skip n => .ok (documents.drop n)
  | .limit n => .ok (documents.take n)
  | .project projection => .ok (documents.map projection.apply)
  | .count field =>
    .ok (if documents.isEmpty then [] else [[(field, .int documents.length)]])
  | .facet branches =>
    match Stage.runBranches documents [] branches with
    | .ok facets => .ok [facets]
    | .error error => .error error
termination_by structural stage => stage

def Stage.runAll (documents : List Document) : List Stage → Result (List Document)
  | [] => .ok documents
  | stage :: stages =>
    match Stage.run documents stage with
    | .ok documents => Stage.runAll documents stages
    | .error error => .error error
termination_by structural stages => stages

def Stage.runBranches (documents : List Document) (facets : Document) :
    List (String × List Stage) → Result Document
  | [] => .ok facets
  | (name, stages) :: branches =>
    match Stage.runAll documents stages with
    | .ok found =>
      Stage.runBranches documents
        (Fields.insert facets name (.array (found.map .object))) branches
    | .error error => .error error
termination_by structural branches => branches
end

/-- The documents that come out of the last stage. -/
def Pipeline.run (pipeline : Pipeline) (documents : List Document) : Result (List Document) :=
  Stage.runAll documents pipeline

end Engagements
