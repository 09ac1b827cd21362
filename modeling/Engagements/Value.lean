import Engagements.Double

/-!
JSON values. The fields of an object keep the order in which they were added, and removing one
moves the last field into its place.
-/
namespace Engagements

/-- A number is an integer or a double; the two kinds stay apart. -/
inductive Number where
  | integer (n : Int)
  | double (d : Double)
  deriving DecidableEq, Repr

namespace Number

def toDouble : Number → Double
  | integer n => Double.ofInt n
  | double d => d

/-- Numbers of one kind with the same value; both zeros of the doubles are the same. -/
def same : Number → Number → Bool
  | integer a, integer b => a == b
  | double a, double b => a.key == b.key
  | _, _ => false

end Number

inductive Value where
  | null
  | bool (b : Bool)
  | number (n : Number)
  | string (s : String)
  | array (items : List Value)
  | object (fields : List (String × Value))
  deriving Repr, Inhabited

abbrev Fields := List (String × Value)

namespace Fields

def get? : Fields → String → Option Value
  | [], _ => none
  | (key, value) :: rest, name => if key = name then some value else get? rest name

def names (fields : Fields) : List String := fields.map Prod.fst

/-- A new field goes to the end; a known one keeps its place. -/
def insert : Fields → String → Value → Fields
  | [], name, value => [(name, value)]
  | (key, old) :: rest, name, value =>
    if key = name then (key, value) :: rest else (key, old) :: insert rest name value

def insertAll (fields others : Fields) : Fields :=
  others.foldl (fun all (name, value) => insert all name value) fields

def lastToFront (fields : Fields) : Fields :=
  match fields.getLast? with
  | none => []
  | some last => last :: fields.dropLast

/-- The last field moves into the place of the removed one. -/
def erase : Fields → String → Fields
  | [], _ => []
  | (key, value) :: rest, name =>
    if key = name then lastToFront rest else (key, value) :: erase rest name

/-- Fields as an object holds them: a repeated name keeps its first place and its last value. -/
def ofList (fields : Fields) : Fields := insertAll [] fields

end Fields

namespace Value

def int (n : Int) : Value := .number (.integer n)

def isObject : Value → Bool
  | object _ => true
  | _ => false

def isNull : Value → Bool
  | null => true
  | _ => false

def asString? : Value → Option String
  | string s => some s
  | _ => none

mutual
/-- Equality up to the order of fields. -/
def same : Value → Value → Bool
  | null, null => true
  | bool a, bool b => a == b
  | number a, number b => a.same b
  | string a, string b => a == b
  | array a, array b => sameItems a b
  | object a, object b => a.length == b.length && sameFields a b
  | _, _ => false
termination_by structural value => value

def sameItems : List Value → List Value → Bool
  | [], [] => true
  | head :: tail, other :: others => same head other && sameItems tail others
  | _, _ => false
termination_by structural items => items

def sameFields : Fields → Fields → Bool
  | [], _ => true
  | (name, value) :: rest, others =>
    (match Fields.get? others name with
      | some other => same value other
      | none => false) && sameFields rest others
termination_by structural fields => fields
end

/-- Equality of a stored and a sought value: two numbers are compared as doubles, all else as
it stands. -/
def agrees : Value → Value → Bool
  | number a, number b => a.toDouble.key == b.toDouble.key
  | a, b => a.same b

mutual
def decide : (a b : Value) → Decidable (a = b)
  | null, null => isTrue rfl
  | bool a, bool b => if h : a = b then isTrue (h ▸ rfl) else isFalse (by simpa using h)
  | number a, number b => if h : a = b then isTrue (h ▸ rfl) else isFalse (by simpa using h)
  | string a, string b => if h : a = b then isTrue (h ▸ rfl) else isFalse (by simpa using h)
  | array a, array b =>
    match decideItems a b with
    | isTrue h => isTrue (h ▸ rfl)
    | isFalse h => isFalse (by simpa using h)
  | object a, object b =>
    match decideFields a b with
    | isTrue h => isTrue (h ▸ rfl)
    | isFalse h => isFalse (by simpa using h)
  | null, bool _ | null, number _ | null, string _ | null, array _ | null, object _
  | bool _, null | bool _, number _ | bool _, string _ | bool _, array _ | bool _, object _
  | number _, null | number _, bool _ | number _, string _ | number _, array _
  | number _, object _ | string _, null | string _, bool _ | string _, number _
  | string _, array _ | string _, object _ | array _, null | array _, bool _
  | array _, number _ | array _, string _ | array _, object _ | object _, null
  | object _, bool _ | object _, number _ | object _, string _ | object _, array _ =>
    isFalse nofun
termination_by structural value => value

def decideItems : (a b : List Value) → Decidable (a = b)
  | [], [] => isTrue rfl
  | head :: tail, other :: others =>
    match decide head other, decideItems tail others with
    | isTrue h, isTrue t => isTrue (by rw [h, t])
    | isFalse h, _ => isFalse (by simp [h])
    | _, isFalse t => isFalse (by simp [t])
  | [], _ :: _ | _ :: _, [] => isFalse nofun
termination_by structural items => items

def decideFields : (a b : Fields) → Decidable (a = b)
  | [], [] => isTrue rfl
  | (name, value) :: rest, (otherName, other) :: others =>
    if same : name = otherName then
      match decide value other, decideFields rest others with
      | isTrue h, isTrue t => isTrue (by rw [same, h, t])
      | isFalse h, _ => isFalse (by simp [h])
      | _, isFalse t => isFalse (by simp [t])
    else isFalse (by simp [same])
  | [], _ :: _ | _ :: _, [] => isFalse nofun
termination_by structural fields => fields
end

instance : DecidableEq Value := decide

end Value

/-- A stored document. -/
abbrev Document := Fields

end Engagements
