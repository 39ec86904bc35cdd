import LedgerSync.Calendar.Loose
import LedgerSync.Csv.File
import LedgerSync.Csv.Lexer

/-!
# The reader that files are read with

The program has a reader of its own: tables by `Table.ofText?`, points in time
by `TimeReading.ofText?`, and the few regions that are written out in this
library. With another one in its place everything else stays as it is.
-/

namespace LedgerSync.Csv

/-- Reads tables whose delimiter is a single character. -/
def Reader.standard : Reader where
  region? := Region.ofName?
  time? := TimeReading.ofText?
  table? delimiter text :=
    match delimiter.toList with
    | [c] => Table.ofText? c text
    | _ => none

namespace Cell

def moment (zone : Zone) (s : String) : Except CellFault Moment :=
  Reader.standard.moment zone s

def date (s : String) : Except CellFault TimeReading := Reader.standard.date s

def zone (name : String) : Except Failure Zone := Reader.standard.zone name

end Cell

/-- The transactions of a reported file. -/
def readReported (settings : InputSettings) (file : File) :
    Run (List Reported) :=
  Reader.standard.readReported settings file

/-- The transactions of a stored file. -/
def readStored (settings : InputSettings) (file : File) : Run (List Stored) :=
  Reader.standard.readStored settings file

end LedgerSync.Csv
