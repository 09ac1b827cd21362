/-!
Finite double-precision numbers. A magnitude is named by its rank among the non-negative doubles,
so that doubles compare as their signed ranks do, and its exact value is a whole number of units
of 2^-1074.
-/
namespace Engagements

namespace Double

/-- How many magnitudes share an exponent. -/
def binade : Nat := Nat.pow 2 52

/-- How many units make one. -/
def unitsInOne : Nat := Nat.pow 2 1074

end Double

/-- A finite double: a sign and the rank of its magnitude, counted upwards from zero. -/
structure Double where
  negative : Bool
  rank : Nat
  finite : rank < 2047 * Double.binade
  deriving DecidableEq, Repr

namespace Double

def zero : Double := ⟨false, 0, by decide⟩

instance : Inhabited Double := ⟨zero⟩

/-- Doubles are ordered by this key; both zeros have key 0. -/
def key (d : Double) : Int := if d.negative then -(d.rank : Int) else d.rank

def negate (d : Double) : Double := { d with negative := !d.negative }

/-- The number of units of 2^-1074 in the magnitude of a rank. -/
def unitsOfRank (rank : Nat) : Nat :=
  if rank < binade then rank
  else (binade + rank % binade) * Nat.pow 2 (rank / binade - 1)

def units (d : Double) : Nat := unitsOfRank d.rank

def signedUnits (d : Double) : Int := if d.negative then -(d.units : Int) else d.units

/-- The whole number nearest to a quotient, the even one if two are equally near. -/
def roundedQuotient (numerator denominator : Nat) : Nat :=
  let quotient := numerator / denominator
  let twice := 2 * (numerator % denominator)
  if twice < denominator then quotient
  else if denominator < twice then quotient + 1
  else quotient + quotient % 2

/-- The rank of the magnitude nearest to a quotient of units, past the last rank on overflow. -/
def nearestRank (numerator denominator : Nat) : Nat :=
  let shift := (numerator / denominator).log2 - 52
  shift * binade + roundedQuotient numerator (denominator * Nat.pow 2 shift)

def ofUnits? (negative : Bool) (numerator denominator : Nat) : Option Double :=
  if h : nearestRank numerator denominator < 2047 * binade then
    some ⟨negative, nearestRank numerator denominator, h⟩
  else none

/-- The double nearest to a quotient, or none if it would be infinite. -/
def ofQuotient? (negative : Bool) (numerator denominator : Nat) : Option Double :=
  ofUnits? negative (numerator * unitsInOne) denominator

def largest : Double := ⟨false, 2047 * binade - 1, by decide⟩

/-- The double nearest to an integer; integers past the largest double give the largest double. -/
def ofInt (n : Int) : Double :=
  (ofQuotient? (decide (n < 0)) n.natAbs 1).getD (if n < 0 then largest.negate else largest)

def add? (a b : Double) : Option Double :=
  let sum := a.signedUnits + b.signedUnits
  if sum = 0 then some { zero with negative := a.negative && b.negative }
  else ofUnits? (decide (sum < 0)) sum.natAbs 1

def mul? (a b : Double) : Option Double :=
  ofUnits? (a.negative != b.negative) (a.units * b.units) unitsInOne

/-- The quotient by a divisor that is not zero. -/
def div? (a b : Double) : Option Double :=
  ofUnits? (a.negative != b.negative) (a.units * unitsInOne) b.units

/-- The nearest power of ten. -/
def powerOfTen? (exponent : Nat) : Option Double := ofQuotient? false (Nat.pow 10 exponent) 1

/-- The whole number nearest to a double, a half going away from zero. -/
def nearestInt (d : Double) : Int :=
  let whole : Nat := (2 * d.units + unitsInOne) / (2 * unitsInOne)
  if d.negative then -(whole : Int) else whole

end Double

end Engagements
