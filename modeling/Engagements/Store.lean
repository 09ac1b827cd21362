import Engagements.Pipeline.Run
import Engagements.Version

/-!
A store of documents in the order in which they were inserted. Each operation reads or writes in
one step, and one that an outage strikes leaves the documents as they are.
-/
namespace Engagements

/-- What takes the place of the next answer of a store. -/
inductive Outage where
  | failing (reason : String)
  | silent
  deriving DecidableEq, Repr

/-- A client waits a number of milliseconds for an answer. -/
def Outage.error (operation : String) (timeLimit : Nat) : Outage → Error
  | failing reason => .store reason
  | silent => .storeTimeout operation timeLimit

/-- The documents, with the identifiers and the time that the store gives out. -/
structure Store where
  documents : List Document
  nextId : Nat
  clock : Clock
  timeLimit : Nat
  outage : Option Outage
  deriving Repr

/-- What is done with a store. What was written before an error stays written. -/
abbrev Action := ExceptT Error (StateM Store)

namespace Store

/-- The last hexadecimal digits of a number. -/
def hexDigits (n : Nat) : Nat → List Char
  | 0 => []
  | width + 1 => hexDigits (n / 16) width ++ [Json.hexDigit (n % 16)]

def idText (n : Nat) : String := String.ofList (hexDigits n 32)

/-- A document without an identifier gets the next one. -/
def identify (nextId : Nat) (document : Document) : Document × Nat :=
  if (Fields.get? document idField).isSome then (document, nextId)
  else (Fields.insert document idField (.string (idText nextId)), nextId + 1)

def identifyAll (nextId : Nat) : List Document → List Document × Nat
  | [] => ([], nextId)
  | document :: documents =>
    let (head, nextId) := identify nextId document
    let (tail, nextId) := identifyAll nextId documents
    (head :: tail, nextId)

/-- A store that holds the given documents. -/
def ofDocuments (documents : List Document) (nextId : Nat) (clock : Clock) (timeLimit : Nat) :
    Store :=
  let (documents, nextId) := identifyAll nextId documents
  ⟨documents, nextId, clock, timeLimit, none⟩

/-- The answer of an operation, or of the outage that strikes it. An outage strikes once. -/
def call {α : Type} (operation : String) (answer : Store → Result α × Store) : Action α :=
  ExceptT.mk fun store =>
    match store.outage with
    | some outage =>
      (.error (outage.error operation store.timeLimit), { store with outage := none })
    | none => answer store

def insert (document : Document) : Action Document :=
  call "insert" fun store =>
    let (document, nextId) := identify store.nextId document
    (.ok document, { store with documents := store.documents ++ [document], nextId := nextId })

def aggregate (pipeline : Pipeline) : Action (List Document) :=
  call "aggregate" fun store => (pipeline.run store.documents, store)

def find? (store : Store) (filter : Predicate) : Option Document :=
  store.documents.find? fun document => filter.holds (.object document)

/-- The first document that satisfies a predicate, as far as the projection shows it. -/
def findOne (filter : Predicate) (projection : Option Projection) : Action (Option Document) :=
  call "find_one" fun store =>
    (.ok ((store.find? filter).map fun document =>
      match projection with
      | some projection => projection.apply document
      | none => document), store)

/-- Sets paths in turn. -/
def assign (document : Document) (changes : Fields) : Document :=
  changes.foldl (fun document (path, value) => document.set path value) document

/-- Changes the first document that satisfies a predicate, and returns it with all documents. -/
def updateFirst (filter : Predicate) (changes : Fields) :
    List Document → Option (Document × List Document)
  | [] => none
  | document :: documents =>
    if filter.holds (.object document) then
      some (assign document changes, assign document changes :: documents)
    else
      (updateFirst filter changes documents).map fun (updated, others) =>
        (updated, document :: others)

/-- The updated document; none is written if none satisfies the predicate. -/
def findOneAndUpdate (filter : Predicate) (changes : Fields) : Action (Option Document) :=
  call "find_one_and_update" fun store =>
    match updateFirst filter changes store.documents with
    | some (updated, documents) => (.ok (some updated), { store with documents := documents })
    | none => (.ok none, store)

/-- A version token that was not issued before. -/
def issueVersion : Action String :=
  ExceptT.mk fun store =>
    let (token, clock) := store.clock.issue
    (.ok token, { store with clock := clock })

/-- The present second. -/
def presentSecond : Action String := ExceptT.mk fun store => (.ok store.clock.secondText, store)

end Store

end Engagements
