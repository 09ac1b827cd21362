import Engagements.Decimal
import Engagements.Search.Field
import Engagements.Settings.Setting

/-!
Settings in plain text: flags, integers, and decimal numbers of any size.
-/
namespace Engagements

/-- The decimal digits before and after a point, and the power of ten they are multiplied by. -/
structure DecimalText where
  negative : Bool
  digits : List Char
  exponent : Int
  deriving DecidableEq, Repr

namespace DecimalText

def takeSign : List Char → Bool × List Char
  | '-' :: rest => (true, rest)
  | '+' :: rest => (false, rest)
  | rest => (false, rest)

def exponent? : List Char → Option Int
  | [] => some 0
  | c :: rest =>
    if c = 'e' || c = 'E' then
      let (negative, digits) := takeSign rest
      (Text.digitsOnly? digits).map fun n => if negative then -(n : Int) else n
    else none

/-- Digits with an optional sign, point and exponent. -/
def read? (text : String) : Option DecimalText :=
  let (negative, rest) := takeSign text.toList
  let whole := rest.takeWhile Char.isDigit
  let (fraction, rest) :=
    match rest.dropWhile Char.isDigit with
    | '.' :: rest => (rest.takeWhile Char.isDigit, rest.dropWhile Char.isDigit)
    | rest => ([], rest)
  if whole ++ fraction = [] then none
  else (exponent? rest).map fun exponent =>
    ⟨negative, whole ++ fraction, exponent - fraction.length⟩

/-- The nearest double, or an infinite number past the largest one. -/
def toSetting (decimal : DecimalText) : Setting :=
  let n := Text.naturalOf decimal.digits
  let size := (Decimal.wholeDigits n).length + decimal.exponent
  if n = 0 || size < -400 then .real { Double.zero with negative := decimal.negative }
  else if 400 < size then .infinite decimal.negative
  else
    match Double.ofQuotient? decimal.negative (n * Nat.pow 10 decimal.exponent.toNat)
      (Nat.pow 10 (-decimal.exponent).toNat) with
    | some d => .real d
    | none => .infinite decimal.negative

end DecimalText

namespace Setting

/-- A number that is not finite, by name. -/
def infinite? (text : String) : Option Setting :=
  let (negative, rest) := DecimalText.takeSign text.toList
  match Text.asciiLower (String.ofList rest) with
  | "inf" | "infinity" => some (infinite negative)
  | "nan" => some undefined
  | _ => none

/-- The setting in a variable: a flag, an integer, a number or a text. -/
def ofText (value : String) : Setting :=
  match Text.asciiLower value with
  | "true" => flag true
  | "false" => flag false
  | _ =>
    match readInteger value.toList with
    | .ok n => whole n
    | .error _ =>
      ((infinite? value).or ((DecimalText.read? value).map DecimalText.toSetting)).getD
        (text value)

end Setting

end Engagements
