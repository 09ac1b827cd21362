import Engagements.Pipeline
import Engagements.Predicate.Rendering

/-!
Pipelines in the dialect of document stores. Where a name is repeated, an object keeps its first
place and its last value.
-/
namespace Engagements

namespace Expr

/-- Literals that could be taken for an expression are marked. -/
def renderLiteral : Value → Value
  | .string s => if s.toList.head? = some '$' then .field "$literal" (.string s) else .string s
  | .object fields => .field "$literal" (.object fields)
  | .array items => .field "$literal" (.array items)
  | other => other

mutual
def render : Expr → Value
  | field path => .string ("$" ++ path)
  | root => .string "$$ROOT"
  | literal value => renderLiteral value
  | lower inner => .field "$toLower" (render inner)
  | item inner index => .field "$arrayElemAt" (.array [render inner, .int index])
  | orElse inner fallback => .field "$ifNull" (.array [render inner, render fallback])
  | merged items => .field "$mergeObjects" (.array (renderAll items))
  | object fields => .object (renderFields [] fields)
termination_by structural expr => expr

def renderAll : List Expr → List Value
  | [] => []
  | expr :: exprs => render expr :: renderAll exprs
termination_by structural exprs => exprs

def renderFields (rendered : Fields) : List (String × Expr) → Fields
  | [] => rendered
  | (name, expr) :: exprs => renderFields (Fields.insert rendered name (render expr)) exprs
termination_by structural exprs => exprs
end

end Expr

def Accumulator.render : Accumulator → Value
  | first expr => .field "$first" expr.render
  | sum expr => .field "$sum" expr.render

def Selection.render : Selection → Value
  | kept => .int 1
  | dropped => .int 0
  | computed expr => expr.render

def Projection.render (projection : Projection) : Value :=
  .object (Fields.ofList (projection.map fun (path, selection) => (path, selection.render)))

def SortOrder.direction : SortOrder → Int
  | ascending => 1
  | descending => -1

def SortKey.renderAll (keys : List SortKey) : Value :=
  .object (Fields.ofList (keys.map fun key => (key.field, .int key.order.direction)))

def Accumulator.renderAll (accumulators : List (String × Accumulator)) : Fields :=
  accumulators.map fun (name, accumulator) => (name, accumulator.render)

mutual
def Stage.renderBody : Stage → Value
  | .filter predicate => predicate.render
  | .unwind path => .string ("$" ++ path)
  | .addFields fields => .object (Expr.renderFields [] fields)
  | .group key accumulators =>
    .object (Fields.ofList ((idField, key.render) :: Accumulator.renderAll accumulators))
  | .replaceRoot expr => .field "newRoot" expr.render
  | .sort keys => SortKey.renderAll keys
  | .skip n | .limit n => .int n
  | .project projection => projection.render
  | .count field => .string field
  | .facet branches => .object (Stage.renderBranches [] branches)
termination_by structural stage => stage

def Stage.renderAll : List Stage → List Value
  | [] => []
  | stage :: stages => .field stage.name (Stage.renderBody stage) :: Stage.renderAll stages
termination_by structural stages => stages

def Stage.renderBranches (rendered : Fields) : List (String × List Stage) → Fields
  | [] => rendered
  | (name, stages) :: branches =>
    Stage.renderBranches (Fields.insert rendered name (.array (Stage.renderAll stages))) branches
termination_by structural branches => branches
end

def Pipeline.render (pipeline : Pipeline) : Value := .array (Stage.renderAll pipeline)

def Pipeline.stageNames (pipeline : Pipeline) : List String := pipeline.map Stage.name

end Engagements
