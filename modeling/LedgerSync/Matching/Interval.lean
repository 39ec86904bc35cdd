import LedgerSync.Failure

/-!
# Intervals of dates

Closed intervals and the thirteen ways in which one can lie to another.
Single-day intervals are allowed; where two relations fit them, the order of the
tests decides.

The choice of a window rests on how the booking dates of both sides lie to each
other. Few of the relations lead to different choices, but all of them are told
apart in what is logged.
-/

namespace LedgerSync.Matching

/-- How one interval lies to another, read as "x relation y". -/
inductive Relation
  | precedes
  | precededBy
  | meets
  | metBy
  | overlaps
  | overlappedBy
  | starts
  | startedBy
  | during
  | contains
  | finishes
  | finishedBy
  | equal
  deriving DecidableEq, Repr

namespace Relation

def text : Relation → String
  | .precedes => "precedes"
  | .precededBy => "preceded by"
  | .meets => "meets"
  | .metBy => "met by"
  | .overlaps => "overlaps"
  | .overlappedBy => "overlapped by"
  | .starts => "starts"
  | .startedBy => "started by"
  | .during => "during"
  | .contains => "contains"
  | .finishes => "finishes"
  | .finishedBy => "finished by"
  | .equal => "equal"

/-- The relation's name in capitals, with underscores between words. -/
def word (r : Relation) : String :=
  String.ofList (r.text.toList.map fun c => if c = ' ' then '_' else c.toUpper)

/-- The same situation seen from the other interval. -/
def converse : Relation → Relation
  | .precedes => .precededBy
  | .precededBy => .precedes
  | .meets => .metBy
  | .metBy => .meets
  | .overlaps => .overlappedBy
  | .overlappedBy => .overlaps
  | .starts => .startedBy
  | .startedBy => .starts
  | .during => .contains
  | .contains => .during
  | .finishes => .finishedBy
  | .finishedBy => .finishes
  | .equal => .equal

end Relation

/-- A closed interval of dates. -/
structure Interval where
  start : Date
  stop : Date
  start_le_stop : start ≤ stop
  deriving DecidableEq, Repr

namespace Interval

/-- The interval between two dates; the end must not lie before the start. -/
def make (start stop : Date) : Except Failure Interval :=
  if h : start ≤ stop then .ok ⟨start, stop, h⟩
  else .error (.argument .intervalReversed)

/-- The number of days, both ends counted. -/
def days (x : Interval) : Nat := x.stop.days - x.start.days + 1

def relationTo (x y : Interval) : Relation :=
  if x.start = y.start ∧ x.stop = y.stop then .equal
  else if x.stop < y.start then .precedes
  else if y.stop < x.start then .precededBy
  else if x.stop = y.start then .meets
  else if x.start = y.stop then .metBy
  else if x.start < y.start ∧ x.stop < y.stop then .overlaps
  else if y.start < x.start ∧ y.stop < x.stop then .overlappedBy
  else if x.start = y.start ∧ x.stop < y.stop then .starts
  else if x.start = y.start ∧ y.stop < x.stop then .startedBy
  else if y.start < x.start ∧ x.stop < y.stop then .during
  else if x.start < y.start ∧ y.stop < x.stop then .contains
  else if y.start < x.start ∧ x.stop = y.stop then .finishes
  else .finishedBy

/-- The interval that dates span; none without dates. -/
def spanning? (dates : List Date) : Option Interval :=
  match Date.earliest? dates, Date.latest? dates with
  | some a, some b => if h : a ≤ b then some ⟨a, b, h⟩ else none
  | _, _ => none

end Interval

end LedgerSync.Matching
