import LedgerSync.Journal
import LedgerSync.Logging.Setup
import LedgerSync.Text.Column

/-!
# The lines of a log

A format is filled with the parts of a record: a percent sign and a name in
parentheses stand for a part, on a field of a width if one is given, and two
percent signs for one. A reference to a part that no record has stays as it is.
A record does not know the line of the program that it comes from, which counts
as zero.
-/

namespace LedgerSync

namespace LogLine

/-- The parts of a record that was logged at a time. -/
def parts (time : String) (r : LogRecord) : List (String × String) := [
  ("asctime", time),
  ("name", r.topic.word),
  ("module", r.topic.word),
  ("filename", r.topic.word),
  ("lineno", "0"),
  ("levelname", r.severity.word),
  ("levelno", Text.decimalText r.severity.level),
  ("message", r.message)]

/-- A text on a field of a width, at its left end or at its right. -/
def onField (left : Bool) (width : Nat) (s : String) : String :=
  if left then Text.padRight width s
  else String.ofList (List.replicate (width - s.length) ' ') ++ s

/-- Reads what follows the percent sign of a reference: the name, the flags, the
width and a letter. -/
def reference? (parts : List (String × String)) :
    List Char → Option (String × List Char)
  | '%' :: rest => some ("%", rest)
  | '(' :: rest => do
    let name := rest.takeWhile (· ≠ ')')
    let value ← parts.lookup (String.ofList name)
    let rest := rest.drop (name.length + 1)
    let flags := rest.takeWhile fun c => "#0+ -".toList.contains c
    let rest := rest.drop flags.length
    let digits := rest.takeWhile Char.isDigit
    let letter ← rest[digits.length]?
    if LogSetup.formatLetters.contains letter then
      let width := Text.numberOf (digits.filterMap Text.digitValue?)
      return (onField (flags.contains '-') width value,
        rest.drop (digits.length + 1)) else none
  | _ => none

/-- Fills a format. -/
def fill (parts : List (String × String)) (fuel : Nat) (format : List Char) :
    String :=
  match fuel, format with
  | 0, _ | _, [] => ""
  | fuel + 1, c :: rest =>
    match if c = '%' then reference? parts rest else none with
    | some (text, rest) => text ++ fill parts fuel rest
    | none => String.singleton c ++ fill parts fuel rest

/-- The line of a record that was logged at a time. -/
def ofRecord (format time : String) (r : LogRecord) : String :=
  fill (parts time r) format.length format.toList

end LogLine

namespace LogSetup

/-- The lines on the console. -/
def consoleLines (s : LogSetup) (time : String) (records : List LogRecord) :
    List String :=
  (records.filter s.shows).map (LogLine.ofRecord s.format time)

/-- The lines in the file, which gets every record that its module logs. -/
def fileLines (s : LogSetup) (time : String) (records : List LogRecord) :
    List String :=
  (records.filter fun r => s.effectiveLevel r.topic.word ≤ r.severity.level).map
    (LogLine.ofRecord fileFormat time)

end LogSetup

end LedgerSync
