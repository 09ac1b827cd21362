import Engagements.Settings.Toml.Scalar

/-!
Settings as TOML: assignments to names with dots, under headers that open tables.
-/
namespace Engagements.Toml

/-- How a table came to be: by its own header, by the header of a table inside it, or by a name with
dots. -/
inductive Origin where
  | header
  | implied
  | dotted
  deriving DecidableEq, Repr

/-- What a name stands for while a text is read. The last of several tables is the first in the
list. -/
inductive Node where
  | leaf (setting : Setting)
  | table (origin : Origin) (entries : List (String × Node))
  | tables (items : List (List (String × Node)))

abbrev Entries := List (String × Node)

namespace Entries

def get? (entries : Entries) (name : String) : Option Node := entries.lookup name

def insert : Entries → String → Node → Entries
  | [], name, node => [(name, node)]
  | (key, old) :: rest, name, node =>
    if key = name then (key, node) :: rest else (key, old) :: insert rest name node

/-- Changes the table that names lead to. Tables are made on the way, for a name with dots or for a
header; a name with dots leads into no table that has a header. -/
def change (dotted : Bool) (action : Origin → Entries → Option Entries) :
    List String → Origin → Entries → Option Entries
  | [], origin, entries => action origin entries
  | name :: names, _, entries =>
    match get? entries name with
    | none =>
      let origin := if dotted then .dotted else .implied
      (change dotted action names origin []).map fun inner =>
        insert entries name (.table origin inner)
    | some (.leaf _) => none
    | some (.table origin inner) =>
      if dotted && origin = .header then none
      else (change dotted action names origin inner).map fun inner =>
        insert entries name (.table origin inner)
    | some (.tables (last :: earlier)) =>
      (change dotted action names .header last).map fun last =>
        insert entries name (.tables (last :: earlier))
    | some (.tables []) => none

/-- Gives a new name in a table a value. A table that a name with dots leads to has to come from
such names only. -/
def assign? (names : List String) (value : Setting) (origin : Origin) (entries : Entries) :
    Option Entries :=
  let put (name : String) (table : Origin) (entries : Entries) : Option Entries :=
    if (table = .dotted) = (names.length = 1) || (get? entries name).isSome then none
    else some (insert entries name (.leaf value))
  match names.getLast? with
  | none => none
  | some name => change true (put name) names.dropLast origin entries

/-- Opens the table of a header; it may have been implied before, but not opened. -/
def open? (name : String) (_ : Origin) (entries : Entries) : Option Entries :=
  match get? entries name with
  | none => some (insert entries name (.table .header []))
  | some (.table .implied inner) => some (insert entries name (.table .header inner))
  | _ => none

/-- Adds a table to those of a name. -/
def append? (name : String) (_ : Origin) (entries : Entries) : Option Entries :=
  match get? entries name with
  | none => some (insert entries name (.tables [[]]))
  | some (.tables items) => some (insert entries name (.tables ([] :: items)))
  | _ => none

end Entries

mutual
def Node.toSetting : Node → Setting
  | .leaf setting => setting
  | .table _ entries => .table (settingsOf entries)
  | .tables items => .list (listOf items).reverse
termination_by structural node => node

def settingsOf : List (String × Node) → Setting.Table
  | [] => []
  | (name, node) :: entries => (name, node.toSetting) :: settingsOf entries
termination_by structural entries => entries

def listOf : List (List (String × Node)) → List Setting
  | [] => []
  | entries :: items => .table (settingsOf entries) :: listOf items
termination_by structural items => items
end

mutual
/-- A value, and what follows it; values are nested no deeper than the fuel. -/
def value? : Nat → List Char → Option (Setting × List Char)
  | 0, _ => none
  | fuel + 1, cs =>
    match cs with
    | '[' :: rest =>
      (items? fuel (skipLines false rest)).map fun (items, rest) => (.list items, rest)
    | '\x7b' :: rest =>
      match skipBlank rest with
      | '\x7d' :: rest => some (.table [], rest)
      | rest => (members? fuel [] rest).map fun (entries, rest) =>
          (.table (settingsOf entries), rest)
    | '"' :: _ | '\'' :: _ => (text? cs).map fun (text, rest) => (.text text, rest)
    | cs =>
      let (word, rest) := word cs
      (ofWord? word).map (·, rest)

/-- The items up to a closing bracket, on any number of lines. -/
def items? : Nat → List Char → Option (List Setting × List Char)
  | 0, _ => none
  | fuel + 1, cs =>
    match cs with
    | ']' :: rest => some ([], rest)
    | cs =>
      match (value? fuel cs).map fun (item, rest) => (item, skipLines false rest) with
      | some (item, ']' :: rest) => some ([item], rest)
      | some (item, ',' :: rest) =>
        (items? fuel (skipLines false rest)).map fun (items, rest) => (item :: items, rest)
      | _ => none

/-- The members up to a closing brace, on one line and without a comma at the end. -/
def members? : Nat → Entries → List Char → Option (Entries × List Char)
  | 0, _, _ => none
  | fuel + 1, entries, cs =>
    match names? fuel cs with
    | some (names, '=' :: rest) =>
      match value? fuel (skipBlank rest) with
      | none => none
      | some (value, rest) =>
        match Entries.assign? names value .header entries, skipBlank rest with
        | some entries, '\x7d' :: rest => some (entries, rest)
        | some entries, ',' :: rest => members? fuel entries (skipBlank rest)
        | _, _ => none
    | _ => none
end

/-- The tables read so far, and the names in the header that is in force. -/
structure Reader where
  root : Entries
  header : List String

namespace Reader

def underHeader? (reader : Reader) (names : List String)
    (action : Origin → Entries → Option Entries) : Option Reader :=
  (Entries.change false action names .header reader.root).map fun root =>
    { reader with root := root }

/-- Reads a header, whose names stand between one or two brackets. -/
def header? (reader : Reader) (fuel : Nat) (cs : List Char) : Option (Reader × List Char) :=
  match names? fuel (skipBlank cs) with
  | some (names, ']' :: rest) =>
    (reader.underHeader? names.dropLast (Entries.open? (names.getLast?.getD ""))).map fun reader =>
      ({ reader with header := names }, rest)
  | _ => none

def arrayHeader? (reader : Reader) (fuel : Nat) (cs : List Char) : Option (Reader × List Char) :=
  match names? fuel (skipBlank cs) with
  | some (names, ']' :: ']' :: rest) =>
    (reader.underHeader? names.dropLast (Entries.append? (names.getLast?.getD ""))).map
      fun reader => ({ reader with header := names }, rest)
  | _ => none

def assignment? (reader : Reader) (fuel : Nat) (cs : List Char) : Option (Reader × List Char) :=
  match names? fuel cs with
  | some (names, '=' :: rest) =>
    match value? fuel (skipBlank rest) with
    | some (value, rest) =>
      (reader.underHeader? reader.header (Entries.assign? names value)).map (·, rest)
    | none => none
  | _ => none

/-- Reads lines of a text that is shorter than the fuel. -/
def run? : Nat → Reader → List Char → Option Reader
  | 0, _, _ => none
  | fuel + 1, reader, cs =>
    match skipLines false cs with
    | [] => some reader
    | cs =>
      let read :=
        match cs with
        | '[' :: '[' :: rest => reader.arrayHeader? fuel rest
        | '[' :: rest => reader.header? fuel rest
        | cs => reader.assignment? fuel cs
      match read with
      | some (reader, rest) => (endLine? rest).bind (run? fuel reader)
      | none => none

end Reader

/-- The settings in a text, before which the mark of the byte order may stand. -/
def read? (text : String) : Option Setting.Table :=
  let cs :=
    match text.toList with
    | '\uFEFF' :: rest => rest
    | cs => cs
  (Reader.run? (3 * cs.length + 3) ⟨[], []⟩ cs).map fun reader => settingsOf reader.root

end Engagements.Toml
