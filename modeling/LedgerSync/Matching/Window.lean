import LedgerSync.Journal
import LedgerSync.Matching.Interval
import LedgerSync.Transaction.View

/-!
# Sync windows

Before matching, both sides are cut to a common window, so that a first day
which was fetched only in part does not appear as a pile of unmatched stored
transactions. A window is a lower bound on the booking date, or no bound at all
where none is safe.

What is cut off is left alone, so cutting too much would leave records in
storage that should have been updated, and cutting reported transactions that
are not stored yet would lose them. Hence the window only begins after the first
reported day where storage begins by that day.
-/

namespace LedgerSync.Matching

/-- A window on the booking date. -/
structure Window where
  lowerBound : Option Date
  completeDay : Bool
  deriving DecidableEq, Repr

namespace Window

/-- The window that cuts nothing off. -/
def unbounded : Window := ⟨none, false⟩

/-- The window from a date on; `completeDay` says that this day is known in
full. -/
def startingAt (bound : Date) (completeDay : Bool) : Window :=
  ⟨some bound, completeDay⟩

/-- The bound as it is shown, if there is one. -/
def boundText (w : Window) (otherwise : String) : String :=
  (w.lowerBound.map (·.text)).getD otherwise

/-- Keeps what was booked on or after the bound. Every transaction needs a
booking date, for otherwise it is not known where it belongs. -/
def truncate [Viewable α] (w : Window) (ts : List α) :
    Except Failure (List α) :=
  match w.lowerBound with
  | none => .ok ts
  | some bound => go bound ts
where
  go (bound : Date) : List α → Except Failure (List α)
    | [] => .ok []
    | t :: rest => do
      let some booked := (view t).bookingDate
        | throw (.argument (.noBookingDate (view t).label))
      let kept ← go bound rest
      return if bound ≤ booked then t :: kept else kept

end Window

/-- The ways of choosing a window. -/
inductive WindowSelector
  | unbounded
  | bookingDate
  deriving DecidableEq, Repr

/-- A chosen window, and what is logged about the choice. -/
structure Choice where
  window : Window
  note : Option LogRecord
  deriving DecidableEq, Repr

namespace WindowSelector

def all : List WindowSelector := [.unbounded, .bookingDate]

def name : WindowSelector → String
  | .unbounded => "unbounded"
  | .bookingDate => "booking-date"

def ofName? (s : String) : Option WindowSelector :=
  all.find? fun w => w.name == s

def sortedNames : List String := (all.map name).mergeSort fun a b => !(b < a)

/-- The interval of the booking dates, if every transaction has one. -/
def bookingInterval? [Viewable α] (ts : List α) : Option Interval :=
  (ts.mapM fun t => (view t).bookingDate).bind Interval.spanning?

/-- A choice that is logged. -/
def choose (window : Window) (severity : Severity) (message : String) :
    Choice :=
  ⟨window, some ⟨severity, .windows, message⟩⟩

/-- The window for two intervals of booking dates. Reported history that begins
before anything stored is missing from storage, so nothing is cut off. Otherwise
the window begins on the first reported day, or on the day after it where the
first day is also covered by storage and may be incomplete. -/
def chooseFor (reported stored : Interval) : Except Failure Choice := do
  let relation := reported.relationTo stored
  let some nextDay := reported.start.addDays? 1 | throw .beyondCalendar
  let words := relation.text
  match relation with
  | .precedes | .meets | .overlaps =>
    return choose .unbounded .warning
      s!"Insufficient refresh window: upstream {words} stored, unbounded selected"
  | .starts | .during =>
    if 1 < reported.days then
      return choose (.startingAt nextDay true) .warning (
        s!"Insufficient refresh window: upstream {words} stored, " ++
        "earliest upstream full day selected")
    else
      return choose (.startingAt reported.start false) .warning
        s!"Insufficient refresh window: upstream {words} stored, earliest upstream day selected"
  | .contains | .finishedBy =>
    return choose .unbounded .info
      s!"Potentially insufficient storage window: upstream {words} stored, unbounded selected"
  | .precededBy | .metBy =>
    return choose (.startingAt reported.start false) .info (
      s!"Potentially insufficient refresh window: upstream {words} stored, full upstream selected")
  | .overlappedBy | .startedBy | .finishes | .equal =>
    if reported.start < stored.stop ∧ 1 < reported.days then
      return choose (.startingAt nextDay true) .debug (
        s!"Sufficient storage and refresh windows: upstream {words} stored, " ++
        "earliest upstream full day selected")
    else
      return choose (.startingAt reported.start false) .info (
        s!"Potentially insufficient storage window: upstream {words} stored, " ++
        "full upstream selected")

/-- Chooses the window for both sides. Without booking dates on every
transaction no bound is safe. -/
def select [Viewable α] [Viewable β] (w : WindowSelector) (reported : List α)
    (stored : List β) : Except Failure Choice :=
  match w with
  | .unbounded => .ok ⟨.unbounded, none⟩
  | .bookingDate =>
    if reported.isEmpty then .error (.argument .windowWithoutReported)
    else if stored.isEmpty then
      .ok (choose .unbounded .debug "Stored empty, unbounded window selected")
    else
      match bookingInterval? reported, bookingInterval? stored with
      | none, _ => .ok (choose .unbounded .warning
          "Unreliable booking dates in upstream transactions, unbounded window selected")
      | some _, none => .ok (choose .unbounded .warning
          "Unreliable booking dates in stored transactions, unbounded window selected")
      | some r, some s => chooseFor r s

end WindowSelector

end LedgerSync.Matching
