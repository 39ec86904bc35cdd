import LedgerSync.Config.Settings
import LedgerSync.Disk.Path
import LedgerSync.Text.Case

/-!
# Which log records go where

Records go to the console from one level on, and all of them to a file if there
is one. Single modules can have levels of their own; a module whose level is not
set takes the level of the nearest one above it.

A level is a number, and a record is kept when its own is at least that of its
module. The formats are checked when the log is set up, so that a record can
always be written.
-/

namespace LedgerSync

namespace LogLevel

/-- The names of the levels. -/
def names : List (String × Nat) := [
  ("CRITICAL", 50), ("FATAL", 50), ("ERROR", 40), ("WARN", 30), ("WARNING", 30),
  ("INFO", 20), ("DEBUG", 10), ("NOTSET", 0)]

def info : Nat := 20

def debug : Nat := 10

/-- The level that holds where none is set. -/
def standard : Nat := 30

/-- The level of a name in any case; an unknown name stands for information. -/
def ofName (name : String) : Nat := (names.lookup (Text.toUpper name)).getD info

end LogLevel

def Severity.level : Severity → Nat
  | .debug => 10
  | .info => 20
  | .warning => 30
  | .error => 40
  | .critical => 50

/-- A rotating file for log records. -/
structure LogFile where
  path : Path
  maxBytes : Int
  backups : Int
  deriving DecidableEq, Repr

structure LogSetup where
  /-- The level of the whole program and of the console. -/
  level : Nat
  format : String
  file : Option LogFile
  modules : List (String × Nat)
  deriving DecidableEq, Repr

namespace LogSetup

/-- The format of records in a file. -/
def fileFormat : String :=
  "%(asctime)s - %(name)s - %(levelname)s - %(filename)s:%(lineno)d - %(message)s"

/-- The letters in which a reference in a format may end. -/
def formatLetters : List Char := "diouxefgcrsa%".toList

/-- Drops a width or precision: an asterisk or digits. -/
def dropSize (cs : List Char) : List Char :=
  match cs with
  | '*' :: rest => rest
  | cs => cs.dropWhile Char.isDigit

/-- Drops a point with a precision after it. -/
def dropPrecision (cs : List Char) : List Char :=
  match cs with
  | '.' :: c :: rest => if c = '*' || c.isDigit then dropSize
    (c :: rest) else cs
  | cs => cs

/-- Whether a format goes on with the rest of a reference after its percent
sign. -/
def isReference : List Char → Bool
  | '(' :: rest =>
    let name := rest.takeWhile fun c => c.isAlphanum || c = '_'
    match rest.drop name.length with
    | ')' :: rest =>
      let size := dropSize (rest.dropWhile fun c => "#0+ -".toList.contains c)
      !name.isEmpty && (dropPrecision size).head?.any fun c =>
        formatLetters.contains c.toLower
    | _ => false
  | _ => false

/-- Whether a format refers to anything. -/
def isFormat : List Char → Bool
  | [] => false
  | c :: rest => (c = '%' && isReference rest) || isFormat rest

/-- The setup that settings describe. A verbose run logs everything, whatever
they say. -/
def ofSettings (s : LoggingSettings) (verbose : Bool) :
    Except Failure LogSetup := do
  let format := if s.format.isEmpty then LoggingSettings.standard.format
  else s.format
  if !isFormat format.toList then throw (.argument (.logFormat format))
  return {
    level := if verbose then LogLevel.debug else LogLevel.ofName s.level
    format
    file := (s.file.filter (· ≠ "")).map fun f =>
    ⟨.ofText f, s.maxBytes, s.backupCount⟩
    modules := s.modules.map fun m => (m.1, LogLevel.ofName m.2) }

/-- The names above a module, the nearest first. -/
def above (module : String) : List String :=
  let parts := module.splitOn "."
  ((List.range parts.length).drop 1).reverse.map fun n =>
    ".".intercalate (parts.take n)

/-- The level from which the records of a module are logged. -/
def effectiveLevel (s : LogSetup) (module : String) : Nat :=
  let own := (module :: above module).filterMap fun m => s.modules.lookup m
  ((own ++ [s.level]).find? (· ≠ 0)).getD LogLevel.standard

/-- Whether the console shows a record. -/
def shows (s : LogSetup) (r : LogRecord) : Bool :=
  s.effectiveLevel r.topic.word ≤ r.severity.level && s.level ≤ r.severity.level

end LogSetup

end LedgerSync
