import LedgerSync.Csv.Reader
import LedgerSync.Transaction.Record

/-!
# Cells

What the text of a cell says. A cell is trimmed, and an empty one says nothing.
Whether it may say nothing depends on the field; what is wrong with a cell that
says something is reported with its text.
-/

namespace LedgerSync.Csv

namespace Cell

/-- The text of a cell without the blanks around it; none when nothing is left,
since files do not tell an empty cell from an absent one. -/
def content? (s : String) : Option String :=
  let trimmed := Text.trim s
  if trimmed.isEmpty then none else some trimmed

/-- An amount, whose thousands may be divided by commas. -/
def amount (s : String) : Except CellFault Decimal :=
  match Decimal.ofText? (String.ofList (s.toList.filter (· ≠ ','))) with
  | some d => .ok d
  | none => .error (.amount s)

/-- Reads a cell that says something. -/
def optional (read : String → Except CellFault α) :
    Option String → Except Failure (Option α)
  | none => .ok none
  | some s => ((read s).map some).mapError fun f => .argument (.cell f)

/-- Reads a cell that must say something. -/
def required (label : String) (read : String → Except CellFault α)
    (cell : Option String) : Except Failure α := do
  let some a ← optional read cell | throw (.argument (.cell (.missing label)))
  return a

/-- A member of a vocabulary, written in any case. -/
def choice (α : Type) [Vocabulary α] :
    Option String → Except Failure (Option α) :=
  optional (Vocabulary.read α)

/-- A cell with an amount as a record takes it. -/
def given (cell : Option String) : Except Failure GivenAmount := do
  match ← optional amount cell with
  | some d => return .number d
  | none => return .absent

end Cell

namespace Reader

/-- A point in time. Without an offset it is the time of day in the zone. -/
def moment (reader : Reader) (zone : Zone) (s : String) :
    Except CellFault Moment :=
  match reader.time? s with
  | some (.at t) => .ok (t.momentIn zone)
  | _ => .error (.dateTime s)

/-- A date, or explicitly none. A date-time is cut to its date. -/
def date (reader : Reader) (s : String) : Except CellFault TimeReading :=
  match reader.time? s with
  | some d => .ok d
  | none => .error (.date s)

def zone (reader : Reader) (name : String) : Except Failure Zone :=
  match reader.region? name with
  | some r => .ok (.region r)
  | none => .error (.configuration (.unknownTimeZone name))

end Reader

end LedgerSync.Csv
