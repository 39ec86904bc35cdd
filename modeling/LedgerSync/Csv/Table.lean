import LedgerSync.Failure

/-!
# Tables of cells

A table is what is left of a file once its text has been taken apart: the names
of the columns, and rows of cells. Which rows there are is no matter of this
module, but of what reads the text (`Reader.table?`).

A row has no line of its own. What it is reported under is worked out from its
place in the table (`Table.lineOf`), as if the header stood on the first line
and every row on the one below. Where lines were skipped or joined on the way
from the text to the table, this is not the line of the file that the row
started on.
-/

namespace LedgerSync.Csv

/-- A row of a table. Cells that the header does not reach stand on the left and
number the row; most rows have none. -/
structure Row where
  number : List String
  cells : List String
  deriving DecidableEq, Repr

structure Table where
  columns : List String
  rows : List Row
  deriving DecidableEq, Repr

namespace Table

/-- The cell of a row in a column. -/
def cellOf? (t : Table) (row : Row) (column : String) : Option String :=
  ((t.columns.zip row.cells).find? fun c => c.1 == column).map (·.2)

/-- The line under which a row is reported: the header is line one, and a row
that is numbered counts from its own number. -/
def lineOf (row : Row) (place : Nat) : Except Failure Int :=
  match row.number with
  | [] => .ok (place + 2)
  | [text] =>
    match Text.readInteger 10 text with
    | .ok n => .ok (n + 2)
    | .error f => .error (.argument (.cell (.integer f)))
  | _ => .error .incomparable

end Table

end LedgerSync.Csv
