import Engagements.CommandLine
import Std.Time.DateTime.Timestamp

/-!
The query program as a command.
-/
namespace Engagements.CommandLine

def failureText (error : IO.Error) : String :=
  match error with
  | .noFileOrDirectory _ _ _ => "No such file or directory (os error 2)"
  | .permissionDenied _ _ _ => "Permission denied (os error 13)"
  | .inappropriateType _ 20 _ => "Not a directory (os error 20)"
  | .inappropriateType _ _ _ => "Is a directory (os error 21)"
  | other => toString other

def readTextFile (path : String) : IO (Except String String) := do
  try
    return .ok (← IO.FS.readFile path)
  catch error =>
    return .error (failureText error)

/-- The environment of this process: assignments that end with a null character. -/
def ownVariables : IO Variables := do
  try
    let bytes ← IO.FS.readBinFile "/proc/self/environ"
    let text := (String.fromUTF8? bytes).getD ""
    return (Text.split (Char.ofNat 0) text).filterMap fun assignment =>
      match Text.split '=' assignment with
      | name :: value :: values => some (name, "=".intercalate (value :: values))
      | _ => none
  catch _ => return []

/-- The files that a run may look at, as they are when it begins. -/
def readAll (paths : List String) : IO (List (String × Except String String)) :=
  paths.mapM fun path => do return (path, ← readTextFile path)

def surroundings (arguments : List String) : IO Surroundings := do
  let environment ← ownVariables
  let now := (← Std.Time.Timestamp.now).toNanosecondsSinceUnixEpoch.val
  let first ← readAll [".env"]
  let look (files : List (String × Except String String)) (path : String) :=
    ((files.find? (·.1 == path)).map (·.2)).getD (.error "No such file or directory (os error 2)")
  let clock : Clock := ⟨now, 0⟩
  let today := Date.ofDays (now.toNat / Version.nanosecondsInSecond / Version.secondsInDay)
  let started : Surroundings := ⟨environment, look first, today, clock⟩
  let settings :=
    match allVariables started with
    | .ok environment => SettingsFile.candidates (settingsName environment)
    | .error _ => []
  let data :=
    match Arguments.read arguments with
    | .ok arguments => [arguments.data]
    | .error _ => []
  let files ← readAll (settings ++ data)
  return { started with readFile := look (first ++ files) }

end Engagements.CommandLine

open Engagements.CommandLine in
def main (arguments : List String) : IO UInt32 := do
  let outcome := run (← surroundings arguments) arguments
  IO.print outcome.output
  if outcome.complaint ≠ "" then IO.eprintln outcome.complaint
  return outcome.status.toUInt32
