import LedgerSync.Failure

/-!
# Log records and fresh ids

A run leaves a journal behind beside its result: the records it logged, in
order, how many fresh ids it has drawn, and from which dates it asked for stored
transactions. A run that fails leaves its journal too, so a failure that draws
no id leaves the supply of ids as it was.

Ids come from a supply, one for every number, and the journal counts how many
are gone. What is said about ids is said of these counts, whatever the supply.
-/

namespace LedgerSync

inductive Severity
  | debug
  | info
  | warning
  | error
  | critical
  deriving DecidableEq, Repr

def Severity.word : Severity → String
  | .debug => "DEBUG"
  | .info => "INFO"
  | .warning => "WARNING"
  | .error => "ERROR"
  | .critical => "CRITICAL"

/-- The part of the program that logs, which decides about the level that is
needed. -/
inductive Topic
  | matchers
  | chain
  | windows
  | providers
  | sync
  | chainSync
  | config
  | reportedFiles
  | storedFiles
  | workbooks
  deriving DecidableEq, Repr

/-- The name under which the records of a topic are filed. -/
def Topic.word : Topic → String
  | .matchers => "matching.matchers"
  | .chain => "matching.engine"
  | .windows => "matching.window"
  | .providers => "matching.providers"
  | .sync => "sync.service"
  | .chainSync => "sync.attribute_strategy"
  | .config => "config"
  | .reportedFiles => "parsers.upstream_parser"
  | .storedFiles => "parsers.stored_parser"
  | .workbooks => "reports.excel_generator"

structure LogRecord where
  severity : Severity
  topic : Topic
  message : String
  deriving DecidableEq, Repr

/-- What a run leaves behind beside its result. A run that fails leaves its
journal too. -/
structure Journal where
  records : List LogRecord
  drawn : Nat
  asked : List Date
  deriving DecidableEq, Repr

def Journal.empty : Journal := ⟨[], 0, []⟩

/-- A computation that may fail, logs, and may draw fresh ids. -/
abbrev Run (α : Type) := ExceptT Failure (StateM Journal) α

namespace Run

def log (severity : Severity) (topic : Topic) (message : String) : Run Unit :=
  modify fun j => { j with records :=
    j.records ++ [⟨severity, topic, message⟩] }

/-- Logs records that were prepared elsewhere, in order. -/
def noteAll (records : List LogRecord) : Run Unit :=
  modify fun j => { j with records := j.records ++ records }

/-- Takes over the result of a computation without effects. -/
def ofExcept (r : Except Failure α) : Run α :=
  match r with
  | .ok a => pure a
  | .error f => throw f

/-- Draws the next id from a supply. The journal counts the ids, so that a later
run goes on with the next one. -/
def drawId (supply : Nat → String) : Run String := do
  let j ← get
  set { j with drawn := j.drawn + 1 }
  return supply j.drawn

/-- Notes the date from which stored transactions are asked for, which is not
told by those that come back. -/
def ask (since : Date) : Run Unit :=
  modify fun j => { j with asked := j.asked ++ [since] }

end Run

end LedgerSync
