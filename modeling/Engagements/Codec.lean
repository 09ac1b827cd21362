import Engagements.Decimal
import Engagements.Text.Quoted
import Engagements.Value
import Engagements.Width

/-!
Typed records as JSON values: how each kind of member is read and written, and what is said about
a value of the wrong kind.
-/
namespace Engagements

/-- Reading a value into a type, or saying why it does not fit. -/
abbrev Reading := Except String

namespace Value

/-- The kind of a value, with the value itself where it is a scalar. -/
def description : Value → String
  | null => "null"
  | bool b => s!"boolean `{b}`"
  | number (.integer n) => s!"integer `{n}`"
  | number (.double d) => s!"floating point `{d.toJsonText}`"
  | string s => s!"string {Text.quoted s}"
  | array _ => "sequence"
  | object _ => "map"

def wrongKind (value : Value) (expected : String) : String :=
  s!"invalid type: {value.description}, expected {expected}"

def outOfRange (value : Value) (expected : String) : String :=
  s!"invalid value: {value.description}, expected {expected}"

end Value

structure Codec (α : Type) where
  read : Value → Reading α
  write : α → Value

/-- A member of a record. One that is not `required` may be missing at the end of a list. -/
structure Member (σ : Type) where
  name : String
  required : Bool
  read : σ → Value → Reading σ
  write : σ → Option Value

namespace Codec

def text : Codec String where
  read
    | .string s => .ok s
    | value => .error (value.wrongKind "a string")
  write := .string

def flag : Codec Bool where
  read
    | .bool b => .ok b
    | value => .error (value.wrongKind "a boolean")
  write := .bool

/-- Integers of a width, under the name of their type. -/
def integerOf (isFitting : Int → Bool) (name : String) (value : Value) : Reading Int :=
  match value with
  | .number (.integer n) => if isFitting n then .ok n else .error (value.outOfRange name)
  | _ => .error (value.wrongKind name)

def signed64 : Codec Int where
  read := integerOf (Width.isSigned 64) "i64"
  write := .int

def unsigned32 : Codec Nat where
  read value := (integerOf (Width.isUnsigned 32) "u32" value).map Int.toNat
  write n := .int n

def unsigned64 : Codec Nat where
  read value := (integerOf (Width.isUnsigned 64) "u64" value).map Int.toNat
  write n := .int n

def listOf {α : Type} (item : Codec α) : Codec (List α) where
  read
    | .array items => items.mapM item.read
    | value => .error (value.wrongKind "a sequence")
  write items := .array (items.map item.write)

end Codec

namespace Member

variable {σ α : Type}

/-- A member that may be missing or null. -/
def optional (name : String) (codec : Codec α) (get : σ → Option α) (set : σ → Option α → σ) :
    Member σ where
  name := name
  required := true
  read record value :=
    if value.isNull then .ok (set record none)
    else (codec.read value).map fun read => set record (some read)
  write record := (get record).map codec.write

/-- A member that keeps its initial value when it is missing, and is left out in writing when
`hidden` says so. -/
def defaulted (name : String) (codec : Codec α) (get : σ → α) (set : σ → α → σ)
    (hidden : α → Bool) : Member σ where
  name := name
  required := false
  read record value := (codec.read value).map (set record)
  write record := if hidden (get record) then none else some (codec.write (get record))

end Member

namespace Record

variable {σ : Type}

/-- Reads the fields of an object in turn; the first that does not fit decides the error. -/
def readFields (members : List (Member σ)) (unknown : σ → String → Value → σ) (record : σ) :
    Fields → Reading σ
  | [] => .ok record
  | (name, value) :: fields => do
    let next ←
      match members.find? fun member => member.name == name with
      | some member => member.read record value
      | none => .ok (unknown record name value)
    readFields members unknown next fields

/-- Reads members by position. -/
def readItems (name : String) (count total : Nat) (record : σ) :
    List (Member σ) → List Value → Reading σ
  | [], [] => .ok record
  | [], _ :: _ => .error s!"invalid length {total}, expected fewer elements in array"
  | member :: members, [] =>
    if member.required then
      .error s!"invalid length {total}, expected struct {name} with {count} elements"
    else readItems name count total record members []
  | member :: members, value :: values => do
    readItems name count total (← member.read record value) members values

def writeMembers (members : List (Member σ)) (record : σ) : Fields :=
  members.filterMap fun member => (member.write record).map (member.name, ·)

/-- A record is written as an object, and may be read from a list as well. -/
def codec (name : String) (empty : σ) (members : List (Member σ)) : Codec σ where
  read
    | .object fields => readFields members (fun record _ _ => record) empty fields
    | .array items => readItems name members.length items.length empty members items
    | value => .error (value.wrongKind s!"struct {name}")
  write record := .object (writeMembers members record)

end Record

end Engagements
