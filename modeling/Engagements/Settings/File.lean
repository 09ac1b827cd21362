import Engagements.Json.Reader
import Engagements.Settings.Ini
import Engagements.Settings.JsonFive
import Engagements.Settings.Ron
import Engagements.Settings.Toml.Reader
import Engagements.Settings.Yaml.Reader

/-!
The settings file: where it is looked for by its name, and how it is read by its format.
-/
namespace Engagements.SettingsFile

inductive Format where
  | json
  | relaxedJson
  | toml
  | yaml
  | ini
  | ron
  deriving DecidableEq, Repr

def formats : List (String × Format) :=
  [("toml", .toml), ("json", .json), ("yaml", .yaml), ("yml", .yaml), ("ini", .ini), ("ron", .ron),
    ("json5", .relaxedJson)]

/-- The settings in the text of a file. -/
def Format.read (format : Format) (text : String) : Except LoadFailure Setting.Table :=
  let orMalformed (entries : Option Setting.Table) : Except LoadFailure Setting.Table :=
    match entries with
    | some entries => .ok entries
    | none => .error .malformed
  match format with
  | json =>
    match Json.read? text with
    | some (.object fields) => .ok (Setting.ofFields fields)
    | _ => .error .malformed
  | relaxedJson => orMalformed (JsonFive.read? text)
  | toml => orMalformed (Toml.read? text)
  | yaml => Yaml.read text
  | ini => orMalformed (Ini.read? text)
  | ron => orMalformed (Ron.read? text)

/-- A path without the slashes and single dots at its end, which lead nowhere. -/
def withoutEnd (path : String) : String :=
  let parts := (Text.split '/' path).reverse.dropWhile fun part => part = "" || part = "."
  "/".intercalate parts.reverse

/-- What follows the last dot of a file name that does not begin with it. -/
def extension? (path : String) : Option String :=
  let name := (Text.split '/' (withoutEnd path)).getLast?.getD ""
  match (Text.split '.' name).reverse with
  | last :: first :: others => if first = "" && others = [] then none else some last
  | _ => none

/-- The paths of a file that is named without the extension of its format. -/
def withExtensions (path : String) : List (String × Format) :=
  let stem := withoutEnd path
  let name := (Text.split '/' stem).getLast?.getD ""
  if name = "" || name = ".." then []
  else formats.map fun (extension, format) => (s!"{stem}.{extension}", format)

/-- All paths at which a file of some name may be. -/
def candidates (path : String) : List String := path :: (withExtensions path).map (·.1)

/-- The text and the format of the file with a name: a file with just that name if its extension
is known, and else one with an extension added. -/
def find? (readFile : String → Except String String) (path : String) : Option (String × Format) :=
  match readFile path with
  | .ok text => ((extension? path).bind fun name => formats.lookup name).map (text, ·)
  | .error _ =>
    (withExtensions path).findSome? fun (path, format) =>
      (readFile path).toOption.map (·, format)

/-- The settings in the file with a name. There need not be one. -/
def read (readFile : String → Except String String) (path : String) :
    Except LoadFailure Setting.Table :=
  match find? readFile path with
  | none => .ok []
  | some (text, format) => format.read text

end Engagements.SettingsFile
