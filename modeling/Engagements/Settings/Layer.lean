import Engagements.Decimal
import Engagements.Settings
import Engagements.Settings.Placing

/-!
Layers of settings. A later layer wins over an earlier one, table by table, and each setting is
brought to its type leniently.
-/
namespace Engagements.Setting

def wordFlag? (word : String) : Option Bool :=
  if ["true", "on", "yes"].contains word then some true
  else if ["false", "off", "no"].contains word then some false
  else none

def toFlag? : Setting → Option Bool
  | flag b => some b
  | whole n => some (n ≠ 0)
  | real d => some (d.key ≠ 0)
  | infinite _ | undefined => some true
  | text s =>
    match Text.asciiLower s with
    | "1" => some true
    | "0" => some false
    | word => wordFlag? word
  | nothing | list _ | table _ => none

def greatest : Nat := Width.size 64 - 1

/-- An unsigned 64-bit number; numbers past its ends are brought to the nearest one. -/
def toUnsigned? : Setting → Option Nat
  | flag b => some b.toNat
  | whole n => if 0 ≤ n then some n.toNat else none
  | real d => some (min d.nearestInt.toNat greatest)
  | infinite negative => some (if negative then 0 else greatest)
  | undefined => some 0
  | text s =>
    match wordFlag? (Text.asciiLower s) with
    | some b => some b.toNat
    | none => (Text.natural? s).filter (· ≤ greatest)
  | nothing | list _ | table _ => none

/-- An unsigned 32-bit number. -/
def toUnsigned32? (setting : Setting) : Option Nat :=
  setting.toUnsigned?.filter (· < Width.size 32)

def toText? : Setting → Option String
  | flag b => some (if b then "true" else "false")
  | whole n => some (toString n)
  | real d => some (Decimal.ofDouble d).toPlainText
  | infinite negative => some (if negative then "-inf" else "inf")
  | undefined => some "NaN"
  | text s => some s
  | nothing | list _ | table _ => none

/-- The settings of a section by name; a list gives them by position. -/
def section? (names : List String) : Setting → Option Table
  | table entries => some entries
  | list items => some (names.zip items)
  | _ => none

/-- A setting of a section, or what it is when it is not given. -/
def member? {α : Type} (entries : Table) (name : String) (read : Setting → Option α)
    (default : α) : Option α :=
  match Table.get? entries name with
  | some setting => read setting
  | none => some default

end Engagements.Setting

namespace Engagements

open Setting (section? member? toText? toFlag? toUnsigned? toUnsigned32?)

def LogSettings.ofSetting? (setting : Setting) : Option LogSettings := do
  let default := Settings.default.log
  let entries ← setting.section? ["level", "json", "file_enabled", "file_directory",
    "file_prefix", "file_rotation", "service_name"]
  some {
    level := ← member? entries "level" toText? default.level
    json := ← member? entries "json" toFlag? default.json
    fileEnabled := ← member? entries "file_enabled" toFlag? default.fileEnabled
    fileDirectory := ← member? entries "file_directory" toText? default.fileDirectory
    fileStem := ← member? entries "file_prefix" toText? default.fileStem
    fileRotation := ← member? entries "file_rotation" toText? default.fileRotation
    serviceName := ← member? entries "service_name" toText? default.serviceName }

def StoreSettings.ofSetting? (setting : Setting) : Option StoreSettings := do
  let default := Settings.default.store
  let entries ← setting.section? ["operation_timeout_ms"]
  some { timeLimit := ← member? entries "operation_timeout_ms" toUnsigned? default.timeLimit }

def SearchSettings.ofSetting? (setting : Setting) : Option SearchSettings := do
  let default := Settings.default.search
  let entries ← setting.section? ["default_per_page", "max_per_page"]
  some {
    defaultPerPage := ← member? entries "default_per_page" toUnsigned32? default.defaultPerPage
    maxPerPage := ← member? entries "max_per_page" toUnsigned32? default.maxPerPage }

namespace Settings

def ofTable? (entries : Setting.Table) : Option Settings := do
  some {
    log := ← member? entries "logging" LogSettings.ofSetting? default.log
    store := ← member? entries "store" StoreSettings.ofSetting? default.store
    search := ← member? entries "search" SearchSettings.ofSetting? default.search }

/-- The settings of layers, the last of which wins, over the defaults. -/
def ofLayers (layers : List Setting.Table) : Except LoadFailure Settings :=
  match layers.foldlM Setting.layTable (Setting.ofValue (codec.write default)).entries with
  | none => .error .crash
  | some entries =>
    match ofTable? entries with
    | some settings => .ok settings
    | none => .error .malformed

end Settings

end Engagements
