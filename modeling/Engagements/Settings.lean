import Engagements.Codec
import Engagements.Error

/-!
Settings of the registry: how it logs, how long it waits for the store, and how large its pages
are.
-/
namespace Engagements

structure LogSettings where
  level : String
  json : Bool
  fileEnabled : Bool
  fileDirectory : String
  fileStem : String
  fileRotation : String
  serviceName : String
  deriving DecidableEq, Repr

structure StoreSettings where
  timeLimit : Nat
  deriving DecidableEq, Repr

structure SearchSettings where
  defaultPerPage : Nat
  maxPerPage : Nat
  deriving DecidableEq, Repr

structure Settings where
  log : LogSettings
  store : StoreSettings
  search : SearchSettings
  deriving DecidableEq, Repr

/-- Why settings cannot be used together. -/
inductive SettingsProblem where
  | timeLimitZero
  | defaultPerPageZero
  | maxPerPageBelow (most default : Nat)
  | unknownRotation (rotation : String)
  deriving DecidableEq, Repr

namespace SettingsProblem

def message : SettingsProblem → String
  | timeLimitZero => "store.operation_timeout_ms must be greater than 0"
  | defaultPerPageZero => "search.default_per_page must be greater than 0"
  | maxPerPageBelow most default =>
    s!"search.max_per_page ({most}) must not be lower than search.default_per_page ({default})"
  | unknownRotation rotation => s!"logging.file_rotation '{rotation}' is not supported"

end SettingsProblem

namespace Settings

def default : Settings where
  log := ⟨"info", false, false, "./logs", "lodestar", "daily", "lodestar"⟩
  store := ⟨5000⟩
  search := ⟨20, 500⟩

instance : Inhabited Settings := ⟨default⟩

def rotations : List String := ["daily", "hourly", "minutely", "never"]

def validate (settings : Settings) : Except SettingsProblem Unit :=
  if settings.store.timeLimit = 0 then .error .timeLimitZero
  else if settings.search.defaultPerPage = 0 then .error .defaultPerPageZero
  else if settings.search.maxPerPage < settings.search.defaultPerPage then
    .error (.maxPerPageBelow settings.search.maxPerPage settings.search.defaultPerPage)
  else if rotations.contains settings.log.fileRotation then .ok ()
  else .error (.unknownRotation settings.log.fileRotation)

/-- A member that may be missing and is always written. -/
def member {σ α : Type} (name : String) (codec : Codec α) (get : σ → α) (set : σ → α → σ) :
    Member σ :=
  Member.defaulted name codec get set fun _ => false

end Settings

open Settings (member)

def LogSettings.codec : Codec LogSettings :=
  Record.codec "LoggingConfig" Settings.default.log
    [member "level" .text level fun r v => { r with level := v },
     member "json" .flag json fun r v => { r with json := v },
     member "file_enabled" .flag fileEnabled fun r v => { r with fileEnabled := v },
     member "file_directory" .text fileDirectory fun r v => { r with fileDirectory := v },
     member "file_prefix" .text fileStem fun r v => { r with fileStem := v },
     member "file_rotation" .text fileRotation fun r v => { r with fileRotation := v },
     member "service_name" .text serviceName fun r v => { r with serviceName := v }]

def StoreSettings.codec : Codec StoreSettings :=
  Record.codec "StoreConfig" Settings.default.store
    [member "operation_timeout_ms" .unsigned64 timeLimit fun r v => { r with timeLimit := v }]

def SearchSettings.codec : Codec SearchSettings :=
  Record.codec "SearchConfig" Settings.default.search
    [member "default_per_page" .unsigned32 defaultPerPage
       fun r v => { r with defaultPerPage := v },
     member "max_per_page" .unsigned32 maxPerPage fun r v => { r with maxPerPage := v }]

namespace Settings

def codec : Codec Settings :=
  Record.codec "Config" default
    [member "logging" LogSettings.codec log fun r v => { r with log := v },
     member "store" StoreSettings.codec store fun r v => { r with store := v },
     member "search" SearchSettings.codec search fun r v => { r with search := v }]

def read (value : Value) : Result Settings := (codec.read value).mapError .serialization

end Settings

end Engagements
