import Engagements.Settings.Setting
import Engagements.Text
import Engagements.Unicode.Casing

/-!
Laying settings over others, table by table, at places that paths lead to. The names in tables are
in lower case.
-/
namespace Engagements.Setting

mutual
/-- Lays a setting over another one, if there is one. An empty table changes nothing. -/
def lay (below : Option Setting) : Setting → Setting
  | table [] => below.getD (table [])
  | table (entry :: others) => table (layEntries ((below.map entries).getD []) (entry :: others))
  | other => other
termination_by structural above => above

def layEntries (below : Table) : Table → Table
  | [] => below
  | (name, above) :: others =>
    let name := Unicode.lowercase name
    layEntries (Table.insert below name (lay (Table.get? below name) above)) others
termination_by structural above => above
end

/-- A step from a setting to one inside it. -/
inductive Step where
  | name (name : String)
  | item (index : Int)
  deriving DecidableEq, Repr

/-- The most items that a list can have room for. -/
def mostItems : Nat := 100000000

/-- The place that an index means in a list of some length; an index below zero counts from the
end, before which nothing has a place. -/
def place? (index : Int) (length : Nat) : Option Nat :=
  let place := if index < 0 then index + length else index
  if 0 ≤ place && place < mostItems then some place.toNat else none

/-- Puts an item at a place of a list, which becomes long enough. -/
def setItem (items : List Setting) (place : Nat) (item : Setting) : List Setting :=
  (items ++ List.replicate (place + 1 - items.length) nothing).set place item

/-- Lays a setting over the one that steps lead to; tables and lists are made on the way. There is
no result if an index has no place. -/
def layAt (above : Setting) : List Step → Option Setting → Option Setting
  | [], below => some (lay below above)
  | .name name :: steps, below =>
    let name := Unicode.lowercase name
    let entries := (below.map entries).getD []
    (layAt above steps (Table.get? entries name)).map fun inner =>
      table (Table.insert entries name inner)
  | .item index :: steps, below =>
    let items := (below.map items).getD []
    match place? index items.length with
    | none => none
    | some place =>
      if steps = [] then some (list (setItem items place above))
      else (layAt above steps items[place]?).map fun inner => list (setItem items place inner)

def isNameChar (c : Char) : Bool := c.isAlphanum || c == '_' || c == '-' || c == ' '

def skipGap (cs : List Char) : List Char := cs.dropWhile fun c => c = ' ' || c = '\t'

/-- An index and what follows the bracket after it. -/
def takeIndex? (cs : List Char) : Option (Int × List Char) :=
  let (negative, cs) :=
    match skipGap cs with
    | '-' :: rest => (true, rest)
    | rest => (false, rest)
  let number : Int := Text.naturalOf (cs.takeWhile Char.isDigit)
  let number := if negative then -number else number
  match skipGap (cs.dropWhile Char.isDigit) with
  | ']' :: rest =>
    if (cs.takeWhile Char.isDigit).isEmpty || !Width.isSigned 64 number then none
    else some (number, rest)
  | _ => none

/-- The steps in a text that is no longer than the fuel. -/
def steps? : Nat → List Char → Option (List Step)
  | _, [] => some []
  | fuel + 1, '.' :: rest =>
    if (rest.takeWhile isNameChar).isEmpty then none
    else (steps? fuel (rest.dropWhile isNameChar)).map
      (.name (String.ofList (rest.takeWhile isNameChar)) :: ·)
  | fuel + 1, '[' :: rest =>
    match takeIndex? rest with
    | some (index, rest) => (steps? fuel rest).map (.item index :: ·)
    | none => none
  | _, _ => none

/-- The steps that a name stands for, with dots before names and brackets around indices; a name
of any other form stands for itself. -/
def stepsOf (name : String) : List Step :=
  (steps? (name.length + 1) ('.' :: name.toList)).getD [.name name]

/-- Lays the entries of a table over another table, each at the place that its name stands for. -/
def layTable (below above : Table) : Option Table :=
  above.foldlM (fun below (name, setting) =>
    (layAt setting (stepsOf name) (some (table below))).map entries) below

end Engagements.Setting
