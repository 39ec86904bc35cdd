import LedgerSync.Config.Settings
import LedgerSync.Csv.Encoding
import LedgerSync.Csv.Stored

/-!
# Files of transactions

A file is read whole or not at all: a row that cannot be read fails the file,
because a row left out would be taken for a transaction that the bank no longer
reports.

There are two kinds of files, of reported and of stored transactions. They
differ in the columns that they need and in how a row is read, and everything
else is done once for both (`Kind`). The reader that takes files apart comes
from outside; the failure of a row names the line that the table gives it.
-/

namespace LedgerSync.Csv

/-- A file: its path, and its bytes when it exists. -/
structure File where
  path : String
  bytes : Option ByteArray

/-- What a kind of file is called, what its rows need, and how a row is read. -/
structure Kind (α : Type) where
  side : Side
  topic : Topic
  requiredFields : List String
  /-- Column headers that differ from the field names. -/
  columns : List (String × String)
  read : Fields → Except Failure α

namespace Kind

def column (k : Kind α) (field : String) : String :=
  (k.columns.lookup field).getD field

/-- Why a row cannot be read, as a reason to give with its line. A failure
without wording stands for itself, because there is nothing to show. -/
def rowFailure (k : Kind α) (line : Int) : Failure → Failure
  | .argument f => .file (.row k.side line f.message)
  | .record f => .file (.row k.side line f.message)
  | f => f

def readRow (k : Kind α) (table : Table) (row : Row) (place : Nat) :
    Except Failure α := do
  let line ← Table.lineOf row place
  (k.read fun field => (table.cellOf? row (k.column field)).bind
    Cell.content?).mapError
    (k.rowFailure line)

/-- Reads the rows of a table, which must have the columns of the required
fields. The first row that cannot be read fails the table. -/
def readTable (k : Kind α) (table : Table) : Except Failure (List α) := do
  let missing := (k.requiredFields.map k.column).filter fun c =>
    !table.columns.contains c
  if !missing.isEmpty then throw (.file (.missingColumns k.side missing))
  table.rows.zipIdx.mapM fun r => k.readRow table r.1 r.2

/-- The table in a file; none if it cannot be read. -/
def table? (reader : Reader) (settings : InputSettings) (encoding : Encoding)
    (file : File) :
    Option Table := do
  reader.table? settings.delimiter (← encoding.decode? (← file.bytes))

def readFile (k : Kind α) (reader : Reader) (settings : InputSettings)
    (file : File) :
    Run (List α) := do
  Run.log .info k.topic s!"Parsing {k.side.noun} CSV file: {file.path}"
  let some encoding :=
    Encoding.ofName? settings.encoding | throw .noSuchEncoding
  let some table := table? reader settings encoding file
    | Run.log .error k.topic "Failed to read CSV file"
      throw (.file (.unreadable file.path))
  let read ← Run.ofExcept (k.readTable table)
  let count := Text.decimalText read.length
  Run.log .info k.topic s!"Extracted {count} {k.side.noun} transactions"
  return read

end Kind

/-- Files of reported transactions. A time without offset is in the default zone
of the settings. -/
def reportedKind (reader : Reader) (settings : InputSettings) (zone : Zone) :
    Kind Reported := {
  side := .reported
  topic := .reportedFiles
  requiredFields := ReportedRow.requiredFields
  columns := settings.reportedColumns
  read := ReportedRow.read reader zone }

/-- Files of stored transactions; a time without offset is in the zone. -/
def storedKind (reader : Reader) (settings : InputSettings) (zone : Zone) :
    Kind Stored := {
  side := .stored
  topic := .storedFiles
  requiredFields := StoredRow.requiredFields
  columns := settings.storedColumns
  read := StoredRow.read reader zone }

namespace Reader

def readReported (reader : Reader) (settings : InputSettings) (file : File) :
    Run (List Reported) := do
  let zone ← Run.ofExcept (reader.zone settings.defaultTimeZone)
  (reportedKind reader settings zone).readFile reader settings file

/-- The transactions of a stored file. Times without offset are universal time,
since that is how they are stored. -/
def readStored (reader : Reader) (settings : InputSettings) (file : File) :
    Run (List Stored) := do
  let zone ← Run.ofExcept (reader.zone "UTC")
  (storedKind reader settings zone).readFile reader settings file

end Reader

end LedgerSync.Csv
