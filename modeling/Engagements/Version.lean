import Engagements.Date
import Engagements.Width

/-!
Version tokens: points of time to the nanosecond, each later than all that were issued before.
-/
namespace Engagements

namespace Date

/-- Takes whole years off a number of days. -/
def splitYears (year : Int) (days : Nat) : Int × Nat :=
  let length := 365 + (if isLeap year then 1 else 0)
  if length ≤ days then splitYears (year + 1) (days - length) else (year, days)
termination_by days

/-- Takes whole months off a number of days in a year. -/
def splitMonths (year : Int) (month days : Nat) : Nat → Nat × Nat
  | 0 => (month, days)
  | fuel + 1 =>
    if daysInMonth year month ≤ days then
      splitMonths year (month + 1) (days - daysInMonth year month) fuel
    else (month, days)

/-- The date a number of days after the first of January 1970. -/
def ofDays (days : Nat) : Date :=
  let (year, rest) := splitYears 1970 days
  let (month, rest) := splitMonths year 1 rest 11
  ⟨year, month, rest + 1⟩

end Date

namespace Version

def secondsInDay : Nat := 86400

/-- The time of day of a second. -/
def timeText (second : Nat) : String :=
  Date.padded 2 (second / 3600) ++ ":" ++ Date.padded 2 (second / 60 % 60) ++ ":" ++
    Date.padded 2 (second % 60)

/-- A second after the first of January 1970 without its zone. -/
def secondText (second : Nat) : String :=
  (Date.ofDays (second / secondsInDay)).toText ++ "T" ++ timeText (second % secondsInDay)

def nanosecondsInSecond : Nat := 1000000000

/-- The token of a nanosecond after the first of January 1970. -/
def token (nanosecond : Nat) : String :=
  secondText (nanosecond / nanosecondsInSecond) ++ "." ++
    Date.padded 9 (nanosecond % nanosecondsInSecond) ++ "Z"

/-- The last nanosecond that can be counted. -/
def lastNanosecond : Nat := Width.size 63 - 1

/-- The stamp to issue next: the present, or the least that is later than the previous one. -/
def nextStamp (previous : Nat) (now : Int) : Nat :=
  max now.toNat (min (previous + 1) lastNanosecond)

/-- A text of the form of a token. -/
def isWellFormed (text : String) : Bool :=
  let form := "dddd-dd-ddTdd:dd:dd.dddddddddZ".toList
  let cs := text.toList
  cs.length == form.length &&
    (List.zip cs form).all fun (c, place) => if place = 'd' then c.isDigit else c == place

end Version

/-- The present in nanoseconds after the first of January 1970, and the last stamp issued. -/
structure Clock where
  now : Int
  issued : Nat
  deriving DecidableEq, Repr

namespace Clock

def issue (clock : Clock) : String × Clock :=
  let stamp := Version.nextStamp clock.issued clock.now
  (Version.token stamp, { clock with issued := stamp })

/-- The present second with its zone. -/
def secondText (clock : Clock) : String :=
  Version.secondText (clock.now.toNat / Version.nanosecondsInSecond) ++ "Z"

end Clock

end Engagements
