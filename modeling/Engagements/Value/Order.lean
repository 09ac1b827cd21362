import Engagements.Value

/-!
The order in which values sort: null, numbers, strings, objects, arrays, booleans.
-/
namespace Engagements.Value

def kindRank : Value → Nat
  | null => 1
  | number _ => 2
  | string _ => 3
  | object _ => 4
  | array _ => 5
  | bool _ => 8

mutual
/-- Numbers compare as doubles, strings by code points, lists and objects from left to right, and
of two objects with equal values the names decide field by field. -/
def order : Value → Value → Ordering
  | number a, number b => compare a.toDouble.key b.toDouble.key
  | string a, string b => compare a b
  | bool a, bool b => compare a.toNat b.toNat
  | array a, array b => orderItems a b
  | object a, object b => orderFields a b
  | a, b => compare a.kindRank b.kindRank
termination_by structural value => value

def orderItems : List Value → List Value → Ordering
  | [], [] => .eq
  | [], _ :: _ => .lt
  | _ :: _, [] => .gt
  | head :: tail, other :: others => (order head other).then (orderItems tail others)
termination_by structural items => items

def orderFields : Fields → Fields → Ordering
  | [], [] => .eq
  | [], _ :: _ => .lt
  | _ :: _, [] => .gt
  | (name, value) :: rest, (otherName, other) :: others =>
    (compare name otherName).then ((order value other).then (orderFields rest others))
termination_by structural fields => fields
end

end Engagements.Value
