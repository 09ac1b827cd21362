import Engagements.Predicate

/-!
Where an engagement stands in time, relative to a reference date.
-/
namespace Engagements

/-- An upcoming engagement has not been launched; a launched one is active up to its end date and
past afterwards, and a past one is terminating until it is archived. -/
inductive EngagementState where
  | upcoming
  | active
  | past
  | terminating
  deriving DecidableEq, Repr

namespace EngagementState

def name : EngagementState → String
  | upcoming => "UPCOMING"
  | active => "ACTIVE"
  | past => "PAST"
  | terminating => "TERMINATING"

/-- A name that is unknown stands for an upcoming engagement. -/
def ofName (name : String) : EngagementState :=
  match Text.asciiUpper (Text.trim name) with
  | "ACTIVE" => active
  | "PAST" => past
  | "TERMINATING" => terminating
  | _ => upcoming

def launched : Predicate := .present "launch"

/-- A comparison with the text of a date. -/
def dated (field : String) (comparison : Comparison) (date : String) : Predicate :=
  .compares field comparison (.string date)

/-- The engagements in a state as of a date. -/
def predicate (state : EngagementState) (today : String) : Predicate :=
  match state with
  | upcoming => .absent "launch"
  | active => launched.and (dated "endDate" .greaterOrEqual today)
  | past => launched.and (dated "endDate" .less today)
  | terminating =>
    (launched.and (dated "endDate" .less today)).and (dated "archiveDate" .greater today)

end EngagementState

end Engagements
