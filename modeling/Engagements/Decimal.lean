import Engagements.Double

/-!
Decimal text of doubles: the fewest digits that read back, the nearest of those, laid out
positionally or with an exponent.
-/
namespace Engagements

/-- A decimal 0.d₁d₂… times a power of ten, written with the exponent of its first digit. -/
structure Decimal where
  negative : Bool
  digits : List Char
  exponent : Int
  deriving DecidableEq, Repr

namespace Decimal

/-- The decimal digits of a whole number, most significant first. -/
def wholeDigits (n : Nat) : List Char := Nat.toDigits 10 n

/-- Quarter units bounding the reals that round to a rank; the ends belong to it iff it is even. -/
def interval (rank : Nat) : Nat × Nat :=
  let gap := Nat.pow 2 (rank / Double.binade - 1)
  let centre := 4 * Double.unitsOfRank rank
  let below := if rank % Double.binade = 0 && 2 * Double.binade ≤ rank then gap else 2 * gap
  (centre - below, centre + 2 * gap)

/-- Whether a decimal multiple of a power of ten reads back as the magnitude of a rank. -/
def readsBack (rank count : Nat) (power : Int) : Bool :=
  let value := count * Nat.pow 10 power.toNat * (4 * Double.unitsInOne)
  let (low, high) := interval rank
  let scale := Nat.pow 10 (-power).toNat
  if rank % 2 = 0 then low * scale ≤ value && value ≤ high * scale
  else low * scale < value && value < high * scale

/-- The exponent of the first decimal digit of a positive number of units. -/
def leadingExponent (units : Nat) : Int :=
  (wholeDigits (units * Nat.pow 10 324 / Double.unitsInOne)).length - 325

/-- The better of the two neighbours of a magnitude on a decimal grid, if one reads back. -/
def neighbour? (rank : Nat) (power : Int) : Option Nat :=
  let numerator := Double.unitsOfRank rank * Nat.pow 10 (-power).toNat
  let denominator := Double.unitsInOne * Nat.pow 10 power.toNat
  let down := numerator / denominator
  let nearest := Double.roundedQuotient numerator denominator
  let other := if nearest = down then down + 1 else down
  if readsBack rank nearest power then some nearest
  else if readsBack rank other power then some other
  else none

def stripZeros (digits : List Char) : List Char :=
  match (digits.reverse.dropWhile (· == '0')).reverse with
  | [] => ['0']
  | kept => kept

/-- The shortest decimal that reads back as a double. -/
def ofDouble (d : Double) : Decimal :=
  if d.rank = 0 then ⟨d.negative, ['0'], 0⟩
  else
    let leading := leadingExponent d.units
    let found := (List.range 18).findSome? fun (count : Nat) =>
      let power := leading - count
      (neighbour? d.rank power).map fun (whole : Nat) => (whole, power)
    match found with
    | none => ⟨d.negative, ['0'], 0⟩
    | some (whole, power) =>
      let digits := wholeDigits whole
      ⟨d.negative, stripZeros digits, power + digits.length - 1⟩

def sign (d : Decimal) : List Char := if d.negative then ['-'] else []

/-- The whole part and the fraction of a decimal written without an exponent. -/
def positional (d : Decimal) : List Char × List Char :=
  if d.exponent < 0 then
    (['0'], List.replicate (-d.exponent - 1).toNat '0' ++ d.digits)
  else
    let places := d.exponent.toNat + 1
    (d.digits.take places ++ List.replicate (places - d.digits.length) '0', d.digits.drop places)

/-- A number is written positionally while the exponent of its first digit is in -5..15, and then
always with a point; any other has a signed exponent. -/
def toJsonText (d : Decimal) : String :=
  if -5 ≤ d.exponent && d.exponent ≤ 15 then
    let (whole, fraction) := d.positional
    String.ofList (d.sign ++ whole ++ '.' :: (if fraction = [] then ['0'] else fraction))
  else
    let fraction := if d.digits.length = 1 then [] else '.' :: d.digits.drop 1
    let mark := if d.exponent < 0 then ['e', '-'] else ['e', '+']
    String.ofList
      (d.sign ++ d.digits.take 1 ++ fraction ++ mark ++ wholeDigits d.exponent.natAbs)

/-- The text without any exponent, and without a point when the number is whole. -/
def toPlainText (d : Decimal) : String :=
  let (whole, fraction) := d.positional
  String.ofList (d.sign ++ whole ++ (if fraction = [] then [] else '.' :: fraction))

end Decimal

def Double.toJsonText (d : Double) : String := (Decimal.ofDouble d).toJsonText

end Engagements
