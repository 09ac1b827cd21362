import Engagements.Settings.Scalar
import Engagements.Unicode.Casing

/-!
Environment variables as a layer of settings, and the file that supplies variables that are not
set.
-/
namespace Engagements

abbrev Variables := List (String × String)

namespace Variables

def get? (environment : Variables) (name : String) : Option String :=
  (environment.find? (·.1 == name)).map (·.2)

/-- Adds a variable that is not set yet. -/
def supply (environment : Variables) (name value : String) : Variables :=
  if (environment.get? name).isSome then environment else environment ++ [(name, value)]

/-- Two underscores part the names of a path. -/
def joinPath : List Char → List Char
  | '_' :: '_' :: rest => '.' :: joinPath rest
  | c :: rest => c :: joinPath rest
  | [] => []

def settingsMark : List Char := "lodestar__".toList

/-- The path of the setting that a variable gives, in any case. -/
def settingPath? (name : String) : Option String :=
  let lower := (Unicode.lowercase name).toList
  if settingsMark.isPrefixOf lower then
    some (String.ofList (joinPath (lower.drop settingsMark.length)))
  else none

/-- The settings in all variables that give one. -/
def settings (environment : Variables) : Setting.Table :=
  environment.filterMap fun (name, value) =>
    (settingPath? name).map fun path => (path, Setting.ofText value)

/-- What the value of an assignment is in the middle of; `quoted` tells whether it stands between
double quotes. -/
inductive ValueMode where
  | text (quoted : Bool)
  | ended
  | escape (quoted : Bool)
  | literal
  | reference (quoted : Bool) (name : List Char)
  | bracedReference (quoted : Bool) (name : List Char)
  deriving DecidableEq, Repr

def referenced (environment : Variables) (name : List Char) : List Char :=
  ((environment.get? (String.ofList name)).getD "").toList

def stepText (value : List Char) (quoted : Bool) (c : Char) : List Char × ValueMode :=
  if c = '$' then (value, .reference quoted [])
  else if c = '\\' then (value, .escape quoted)
  else if c = '"' then (value, .text !quoted)
  else if quoted then (value ++ [c], .text true)
  else if c = '\'' then (value, .literal)
  else if c = ' ' || c = '\t' then (value, .ended)
  else (value ++ [c], .text false)

def stepReference (environment : Variables) (value : List Char) (quoted : Bool) (name : List Char)
    (c : Char) : List Char × ValueMode :=
  if c = '\x7b' && name = [] then (value, .bracedReference quoted [])
  else if c = '$' then (value ++ referenced environment name, .reference quoted [])
  else (value ++ referenced environment name ++ [c], .text quoted)

/-- Takes in a character of a value, unless it cannot stand there. -/
def stepValue (environment : Variables) (value : List Char) (c : Char) :
    ValueMode → Option (List Char × ValueMode)
  | .text quoted => some (stepText value quoted c)
  | .ended => if c = ' ' || c = '\t' then some (value, .ended) else none
  | .escape quoted =>
    if ['\\', '\'', '"', '$', ' '].contains c then some (value ++ [c], .text quoted)
    else if c = 'n' then some (value ++ ['\n'], .text quoted)
    else none
  | .literal => some (if c = '\'' then (value, .text false) else (value ++ [c], .literal))
  | .reference quoted name =>
    some (if Unicode.Current.isAlphanumeric c then (value, .reference quoted (name ++ [c]))
      else stepReference environment value quoted name c)
  | .bracedReference quoted name =>
    some (if c = '\x7d' then (value ++ referenced environment name, .text quoted)
      else (value, .bracedReference quoted (name ++ [c])))

/-- The value in the rest of a line; a comment may follow it. -/
def readValue? (environment : Variables) (value : List Char) :
    ValueMode → List Char → Option String
  | .ended, '#' :: _ => some (String.ofList value)
  | mode, c :: rest =>
    match stepValue environment value c mode with
    | some (value, mode) => readValue? environment value mode rest
    | none => none
  | mode, [] =>
    match mode with
    | .text false | .ended | .escape false => some (String.ofList value)
    | .reference false name => some (String.ofList (value ++ referenced environment name))
    | _ => none

def isNameChar (c : Char) : Bool := c.isAlphanum || c == '_' || c == '.'

/-- A name and what follows it after white space. -/
def takeName? (cs : List Char) : Option (String × List Char) :=
  match cs with
  | c :: _ =>
    if c.isAlpha || c = '_' then
      some (String.ofList (cs.takeWhile isNameChar), Text.skipBlank (cs.dropWhile isNameChar))
    else none
  | [] => none

/-- What follows a name and an equals sign; `export` may stand before the name. -/
def takeAssignment? (cs : List Char) : Option (String × List Char) :=
  match takeName? cs with
  | some (name, '=' :: rest) => some (name, rest)
  | some ("export", rest) =>
    match takeName? rest with
    | some (name, '=' :: rest) => some (name, rest)
    | _ => none
  | _ => none

/-- The variables after an assignment of the file, or why there are none: it is malformed, or the
value cannot be that of a variable. -/
def readAssignment (environment : Variables) (line : String) : Except LoadFailure Variables :=
  match (Text.trim line).toList with
  | [] | '#' :: _ => .ok environment
  | cs =>
    match takeAssignment? cs with
    | none => .error .malformed
    | some (name, rest) =>
      let value? :=
        match Text.skipBlank rest with
        | [] | '#' :: _ => some ""
        | value => readValue? environment [] (.text false) value
      match value? with
      | none => .error .malformed
      | some value =>
        if value.toList.contains (Char.ofNat 0) && (environment.get? name).isNone then
          .error .crash
        else .ok (environment.supply name value)

/-- What the text of an assignment is in the middle of, which tells whether it ends with its line.
A quotation mark, a backslash or a blank may be the last character. -/
inductive LineMode where
  | complete
  | blank
  | escape
  | quoted (mark : Char)
  | quotedEscape (mark : Char)
  | comment
  deriving DecidableEq, Repr

def LineMode.step (c : Char) : LineMode → LineMode
  | complete =>
    if c = '\\' then escape
    else if c = '"' || c = '\'' then quoted c
    else if Unicode.Property.isBlank c && c != '\n' && c != '\r' then blank
    else complete
  | blank =>
    if c = '#' then comment
    else if c = '\\' then escape
    else if c = '"' || c = '\'' then quoted c
    else complete
  | escape => complete
  | quoted mark =>
    if c = '\\' then quotedEscape mark else if c = mark then complete else quoted mark
  | quotedEscape mark => quoted mark
  | comment => comment

/-- The text of a line up to a comment, in the mode at its end. -/
def scanLine (mode : LineMode) : List Char → List Char × LineMode
  | [] => ([], mode)
  | c :: rest =>
    match mode.step c with
    | .comment => ([], .comment)
    | mode =>
      let (text, mode) := scanLine mode rest
      (c :: text, mode)

def isComment (text : List Char) : Bool := (Text.skipBlank text).head? = some '#'

/-- Takes assignments from lines with their ends, up to the first that is malformed. An assignment
that is not complete goes on in the next line. -/
def readLines (environment : Variables) (mode : LineMode) (before : List Char) :
    List (List Char) → Except LoadFailure Variables
  | [] => .ok environment
  | line :: lines =>
    let (text, mode) := scanLine mode line
    let text := before ++ text
    if isComment (before ++ line) then readLines environment .complete [] lines
    else if mode = .complete || mode = .comment then
      match readAssignment environment (String.ofList text) with
      | .ok environment => readLines environment .complete [] lines
      | .error .malformed => .ok environment
      | .error .crash => .error .crash
    else readLines environment mode text lines

/-- Lines with their ends. -/
def lineList : List Char → List (List Char)
  | [] => []
  | '\n' :: rest => ['\n'] :: lineList rest
  | c :: rest =>
    match lineList rest with
    | [] => [[c]]
    | line :: lines => (c :: line) :: lines

/-- The variables, with those that a file supplies. The mark of the byte order may stand before
its text. -/
def readFile (environment : Variables) (text : String) : Except LoadFailure Variables :=
  let cs :=
    match text.toList with
    | '\uFEFF' :: rest => rest
    | cs => cs
  readLines environment .complete [] (lineList cs)

end Variables

end Engagements
