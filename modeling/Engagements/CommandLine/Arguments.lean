import Engagements.CommandLine.Help
import Engagements.Filter

/-!
The arguments of the query program: which document file to read and what to ask of it.
-/
namespace Engagements.CommandLine

/-- What is asked of the engagements in a file. -/
inductive Request where
  | query (spec : FilterSpec)
  | subDomain (name : String) (owner : Option String)
  | participants (search : Option String)
  deriving Repr

structure Arguments where
  data : String
  request : Request
  deriving Repr

/-- Why arguments are not acted upon: help was asked for, or they were not understood. -/
inductive Stop where
  | help (topic : Topic)
  | usage (reason : String)
  deriving DecidableEq, Repr

/-- An option that takes a value. -/
structure ValueOption where
  name : String
  letter : Option Char
  deriving DecidableEq, Repr

def dataOption : ValueOption := ⟨"data", some 'd'⟩

def searchOption : ValueOption := ⟨"search", some 's'⟩

def queryOptions : List ValueOption :=
  searchOption :: ["page", "per-page", "sort-fields", "sort-order", "include", "exclude", "unwind",
    "unwind-project", "group-by"].map fun name => ⟨name, none⟩

def ownerOption : ValueOption := ⟨"exclude-uuid", none⟩

/-- What one argument is on its own. -/
inductive Token where
  | plain (text : String)
  | option (name : String) (value : Option String)
  | endOfOptions
  | help
  | unknown (text : String)
  deriving DecidableEq, Repr

namespace Token

def ofLong (known : List ValueOption) (body : List Char) : Token :=
  let name := String.ofList (body.takeWhile (· ≠ '='))
  let value :=
    match body.dropWhile (· ≠ '=') with
    | '=' :: value => some (String.ofList value)
    | _ => none
  if known.any (·.name == name) then option name value
  else if name = "help" && value.isNone then help
  else unknown ("--" ++ String.ofList body)

def ofShort (known : List ValueOption) (letter : Char) (body : List Char) : Token :=
  match known.find? fun candidate => candidate.letter == some letter with
  | some found =>
    option found.name (match body with
      | [] => none
      | '=' :: value => some (String.ofList value)
      | value => some (String.ofList value))
  | none => if letter = 'h' then help else unknown (String.ofList ('-' :: letter :: body))

/-- Options begin with a hyphen; a single hyphen is a plain argument. -/
def read (known : List ValueOption) (argument : String) : Token :=
  match argument.toList with
  | ['-', '-'] => endOfOptions
  | '-' :: '-' :: body => ofLong known body
  | '-' :: letter :: body => ofShort known letter body
  | _ => plain argument

end Token

/-- Arguments told apart: options with their values in order, the plain ones, and the options that
lack a value. -/
structure Sorted where
  options : List (String × String)
  plain : List String
  lacking : List String
  deriving DecidableEq, Repr

namespace Sorted

def withOption (sorted : Sorted) (name value : String) : Sorted :=
  { sorted with options := (name, value) :: sorted.options }

def withLacking (sorted : Sorted) (name : String) : Sorted :=
  { sorted with lacking := name :: sorted.lacking }

def isOption (argument : String) : Bool :=
  match argument.toList with
  | '-' :: _ :: _ => true
  | _ => false

/-- Tells arguments to the program or to one of its commands apart. A command has room for a number
of plain arguments, and takes all that follows the first plain argument to the program. -/
def read (known : List ValueOption) (topic : Topic) (room : Nat) :
    List String → Except Stop Sorted
  | [] => .ok ⟨[], [], []⟩
  | argument :: rest =>
    match Token.read known argument with
    | .help => .error (.help topic)
    | .unknown text => .error (.usage s!"unexpected argument '{text}'")
    | .endOfOptions =>
      if topic = .program then .error (.usage "a command is missing") else .ok ⟨[], rest, []⟩
    | .plain text =>
      if topic = .program then .ok ⟨[], text :: rest, []⟩
      else if room = 0 then .error (.usage s!"unexpected argument '{text}'")
      else (read known topic (room - 1) rest).map fun sorted =>
        { sorted with plain := text :: sorted.plain }
    | .option name (some value) => (read known topic room rest).map (·.withOption name value)
    | .option name none =>
      match rest with
      | [] => .ok ⟨[], [], [name]⟩
      | value :: others =>
        if isOption value then
          (read known topic room (value :: others)).map (·.withLacking name)
        else (read known topic room others).map (·.withOption name value)

def value? (sorted : Sorted) (name : String) : Option String :=
  (sorted.options.find? (·.1 == name)).map (·.2)

/-- Every option needs a value, and none may be given twice. -/
def checkOptions (sorted : Sorted) : Except Stop Unit :=
  let names := sorted.options.map (·.1)
  match sorted.lacking, names.find? fun name => 1 < names.count name with
  | name :: _, _ => .error (.usage s!"--{name} needs a value")
  | [], some name => .error (.usage s!"--{name} was given more than once")
  | [], none => .ok ()

def checkNoPlain (sorted : Sorted) : Except Stop Unit :=
  match sorted.plain with
  | [] => .ok ()
  | text :: _ => .error (.usage s!"unexpected argument '{text}'")

def readValue {α : Type} (sorted : Sorted) (name : String) (read : String → Except String α) :
    Except Stop (Option α) :=
  match sorted.value? name with
  | none => .ok none
  | some text =>
    match read text with
    | .ok value => .ok (some value)
    | .error reason => .error (.usage s!"invalid value '{text}' for --{name}: {reason}")

end Sorted

def readUnsigned32 (text : String) : Except String Nat :=
  match Text.natural? text with
  | some n => if n < Width.size 32 then .ok n else .error "the number is too large"
  | none => .error "it is not a number"

def nameSet (text : String) : List String := Text.sortedSet (Text.nameList text)

def readQuery (arguments : List String) : Except Stop Request := do
  let sorted ← Sorted.read queryOptions .query 0 arguments
  sorted.checkNoPlain
  sorted.checkOptions
  let page ← sorted.readValue "page" readUnsigned32
  let perPage ← sorted.readValue "per-page" readUnsigned32
  let order ← sorted.readValue "sort-order" SortOrder.read
  let included := sorted.value? "include"
  let excluded := sorted.value? "exclude"
  let unwound := sorted.value? "unwind"
  let flattened := sorted.value? "unwind-project"
  if included.isSome && excluded.isSome then
    throw (.usage "--include cannot be used with --exclude")
  if flattened.isSome && unwound.isNone then
    throw (.usage "--unwind-project needs --unwind")
  return .query {
    page := page
    perPage := perPage
    sortFields := sorted.value? "sort-fields"
    sortOrder := order.getD .ascending
    included := included.map nameSet
    excluded := excluded.map nameSet
    search := sorted.value? "search"
    unwindField := unwound
    unwindProjectFields := flattened
    groupByField := sorted.value? "group-by" }

def readSubDomain (arguments : List String) : Except Stop Request := do
  let sorted ← Sorted.read [ownerOption] .subDomain 1 arguments
  sorted.checkOptions
  match sorted.plain with
  | [name] => return .subDomain name (sorted.value? "exclude-uuid")
  | [] => throw (.usage "a subdomain is missing")
  | _ :: text :: _ => throw (.usage s!"unexpected argument '{text}'")

def readParticipants (arguments : List String) : Except Stop Request := do
  let sorted ← Sorted.read [searchOption] .participants 0 arguments
  sorted.checkNoPlain
  sorted.checkOptions
  return .participants (sorted.value? "search")

/-- Help on the program, or on one of its commands, which have no commands of their own. -/
def readHelp (arguments : List String) : Stop :=
  match arguments with
  | [] => .help .program
  | [command] =>
    match Topic.ofCommand? command with
    | some topic => .help topic
    | none => .usage s!"unknown command '{command}'"
  | _ :: other :: _ => .usage s!"unknown command '{other}'"

def readRequest (command : String) (arguments : List String) : Except Stop Request :=
  match command with
  | "query" => readQuery arguments
  | "subdomain" => readSubDomain arguments
  | "participants" => readParticipants arguments
  | "help" => .error (readHelp arguments)
  | _ => .error (.usage s!"unknown command '{command}'")

/-- The file comes before the command, and what belongs to the command after it. -/
def Arguments.read (arguments : List String) : Except Stop Arguments := do
  let sorted ← Sorted.read [dataOption] .program 0 arguments
  match sorted.plain with
  | [] => throw (.usage "a command is missing")
  | command :: rest => do
    let request ← readRequest command rest
    sorted.checkOptions
    match sorted.value? "data" with
    | some data => return ⟨data, request⟩
    | none => throw (.usage "--data is missing")

end Engagements.CommandLine
