import LedgerSync.CommandLine.Arguments
import LedgerSync.CommandLine.Screen
import LedgerSync.Config.File
import LedgerSync.Csv.Standard
import LedgerSync.Disk.Basic
import LedgerSync.Logging.Setup
import LedgerSync.Report.Report
import LedgerSync.Sync.Export

/-!
# Running a command

A command works on the files that it finds, and leaves behind what it shows,
what it writes, and how it ends. What it has shown and written before a failure
stays.

Nothing here looks at the machine. What a command finds, the time included, is
handed to it, and what it wants written is part of its answer; so a command line
leads to one outcome for given surroundings.
-/

namespace LedgerSync.CommandLine

/-- What a command finds when it starts. -/
structure Surroundings where
  disk : Disk
  /-- The time that new records are given. -/
  now : DateTime
  /-- The time on the clock on the wall. -/
  wall : Wall
  /-- How long a reconciliation takes. -/
  seconds : Double
  newId : Nat → String

/-- What is written into a file. -/
inductive Content
  | text (s : String)
  | report (sheets : List Sheet)
  /-- Log records, which the file gets while the command runs. -/
  | log

/-- What a command has done so far. It is kept when the command fails, so that
nothing already shown is taken back. -/
structure Work where
  disk : Disk
  journal : Journal
  /-- The setup of the log, and how many records came before it. -/
  logging : Option (Nat × LogSetup)
  shown : List Shown
  written : List (Path × Content)

inductive Ending
  | success
  /-- The failure was shown. -/
  | failure
  /-- The command line does not fit. -/
  | misuse
  /-- The failure could not be shown. -/
  | breakdown (f : Failure)

def Ending.exitCode : Ending → Nat
  | .success => 0
  | .failure => 1
  | .misuse => 2
  | .breakdown _ => 1

/-- A step of a command. A failure leaves the work that was done before it. -/
abbrev Procedure (α : Type) := ExceptT Failure (StateM Work) α

namespace Procedure

/-- Carries out a run within a command. -/
def lift (r : Run α) : Procedure α := do
  let w ← get
  let (result, journal) := (r.run w.journal).run
  set { w with journal }
  match result with
  | .ok a => return a
  | .error f => throw f

def showNext (s : Shown) : Procedure Unit :=
  modify fun w => { w with shown := w.shown ++ [s] }

def showLine (s : String) : Procedure Unit := showNext (.line s)

/-- Writes a file that nothing is in the way of. -/
def write (p : Path) (c : Content) : Procedure Unit :=
  modify fun w => { w with
    disk := w.disk.write p .empty, written := w.written ++ [(p, c)] }

/-- Writes a file, or fails if something is in the way. -/
def writeNew (p : Path) (c : Content) : Procedure Unit := do
  match (← get).disk.refusal? p with
  | some fault => throw (.disk fault)
  | none => write p c

/-- Tries a step. A failure of the given sort is shown behind a label and ends
the command in order; any other goes on. -/
def attempt (sort : Failure → Bool) (label : String) (a : Procedure α) :
    Procedure (Option α) :=
  tryCatch (some <$> a) fun f =>
    if sort f then do
      let text := f.message?.getD ""
      showLine s!"{label}: {text}"
      return none
    else throw f

end Procedure

open Procedure

/-- The settings in a file, or the standard ones when no file is given. -/
def readSettings (config : Option Path) : Procedure Settings := do
  match config with
  | none => lift Settings.standard
  | some p =>
    match (← get).disk.find? p with
    | some (.file bytes) =>
      lift (Settings.load p.text ((String.fromUTF8? bytes).bind Yaml.read?))
    | some .folder => throw (.disk (.isFolder p.text))
    | none => lift Settings.standard

def setUpLog (s : LoggingSettings) (verbose : Bool) : Procedure Unit := do
  let setup ← lift (Run.ofExcept (LogSetup.ofSettings s verbose))
  if let some f := setup.file then writeNew f.path .log
  modify fun w => { w with logging := some (w.journal.records.length, setup) }

def csvFile (p : Path) :
    Procedure Csv.File := do return ⟨p.text, (← get).disk.bytes? p⟩

/-- The table that sums up an instruction. -/
def instructionTable (provider : String) (i : Instruction) (seconds : Double) :
    Table := {
  title := s!"Sync Instruction: {provider}"
  columns := ["Metric", "Value"]
  rows := [
    ["To Delete", Text.decimalText i.toDelete.length],
    ["To Insert", Text.decimalText i.toInsert.length],
    ["To Update", Text.decimalText i.toUpdate.length],
    ["To Ignore", Text.decimalText i.toIgnore.length],
    ["Oldest Changed Date", (i.oldestChanged.map (·.text)).getD "-"]] ++
    ((i.metrics.map (·.counters)).getD []).map (fun c =>
      [c.1, Text.decimalText c.2]) ++
    [["Processing Time", s!"{seconds.twoPlaces}s"]] }

/-- The account to reconcile and what is to be done with it. -/
def instruct (s : Surroundings) (settings : Settings) (r : ReconcileRequest) :
    Procedure (Account × Instruction) := do
  let reported ← lift
    (Csv.readReported settings.input (← csvFile r.reportedFile))
  let stored ← lift (Csv.readStored settings.input (← csvFile r.storedFile))
  let account ← lift (Run.ofExcept (Export.account stored r.userId r.accountId))
  let registry ← lift settings.matching.registry
  let env : Environment := ⟨registry, settings.sync, s.newId, s.now⟩
  let i ← lift
    (determineInstruction env account r.provider (Member.ofList reported)
      (Export.loader stored))
  return (account, i)

def writeReport (s : Surroundings) (settings : Settings) (r : ReconcileRequest)
    (account : Account) (i : Instruction) : Procedure Unit := do
  let path ← match r.output with
    | some p => pure p
    | none =>
      Path.ofText <$> lift
        (Run.ofExcept (Report.fileName settings.output r.provider s.wall))
  let context : ReportContext := {
    provider := r.provider
    userId := some account.userId.text
    accountId := some account.accountId.text
    reportedFile := some r.reportedFile.name
    storedFile := some r.storedFile.name
    configFile := settings.configFile
    generatedAt := Report.timeLabel s.wall
    seconds := s.seconds }
  let obstacle := (← get).disk.refusal? path
  write path (.report
    (← lift (Report.generate settings.output context i path.text obstacle)))
  showLine (Markup.text s!"\nReport generated: {path.text}")

def reconcileFiles (s : Surroundings) (r : ReconcileRequest) :
    Procedure Ending := do
  let done ← attempt (fun f => f.isReportable || f.isArgument) "Error" do
    let settings ← readSettings r.config
    setUpLog settings.logging r.verbose
    let settings := if r.withoutChains then
        { settings with sync := { settings.sync with attributeMatchingEnabled := false } }
      else settings
    let (account, i) ← instruct s settings r
    showNext (.table (instructionTable r.provider i s.seconds))
    if r.dryRun then showLine "\nDry run - no report generated"
    else writeReport s settings r account i
  return if done.isSome then .success else .failure

def listProviders (config : Option Path) : Procedure Ending := do
  let registry? ← attempt Failure.isReportable
    "Invalid matching configuration" do
    lift (← readSettings config).matching.registry
  let some registry := registry? | return .failure
  showNext (.table {
    title := "Provider Matcher Chains"
    columns := ["Provider", "Window", "Matchers"]
    rows := registry.sorted.map fun p => [p.name, p.window.name, p.chainText] })
  return .success

def shownTransactions : Nat := 20

/-- How much of a description is shown. -/
def shownDescription (s : String) : String :=
  if 40 < s.length then String.ofList (s.toList.take 40) ++ "..." else s

def reportedRow (t : Reported) : Except Failure (List String) := do
  return [t.date.text, (t.externalId.filter (· ≠ "")).getD "-",
    (← t.signedAmount).fixedText,
    t.status.word, shownDescription (t.description.getD "")]

/-- Lists the first transactions of a file. -/
def listReported (file : Path) (config : Option Path) : Procedure Ending := do
  let transactions? ← attempt Failure.isReportable "Error parsing file" do
    lift (Csv.readReported (← readSettings config).input (← csvFile file))
  let some transactions := transactions? | return .failure
  let rows ← lift (Run.ofExcept
    ((transactions.take shownTransactions).mapM reportedRow))
  showNext (.table {
    title := s!"Upstream Transactions: {file.name}"
    columns := ["Date", "External ID", "Amount", "Status", "Description"]
    rows })
  let count := transactions.length
  if shownTransactions < count then
    showLine s!"\n... and {count - shownTransactions} more transactions"
  showLine s!"\nTotal transactions: {count}"
  return .success

def writeSettings (output : Path) : Procedure Ending := do
  writeNew output (.text Settings.standardText)
  lift (Run.log .info .config s!"Generated configuration file: {output.text}")
  showLine (Markup.text s!"Configuration file generated: {output.text}")
  return .success

def versionNumber : String := "0.1.0"

def usage : List String := [
  "reconcile REPORTED_FILE STORED_FILE -p PROVIDER [--user-id ID] [--account-id ID] [-c FILE]",
  "  [-o FILE] [--no-attribute-matching] [-v] [--dry-run]",
  "providers [-c FILE]",
  "parse-upstream REPORTED_FILE [-c FILE]",
  "init-config [-o FILE]"]

def Command.perform (s : Surroundings) : Command → Procedure Ending
  | .reconcile r => reconcileFiles s r
  | .providers config => listProviders config
  | .parseReported file config => listReported file config
  | .initConfig output => writeSettings output
  | .version => do
    showLine s!"main, version {versionNumber}"
    return .success
  | .help _ => do
    usage.forM showLine
    return .success

/-- What a command line leads to, and how it ends. Everything that depends on
the machine is in the surroundings. -/
def run (s : Surroundings) (args : List String) : Ending × Work :=
  let start : Work := ⟨s.disk, .empty, none, [], []⟩
  match Command.ofList? args with
  | none => (.misuse, start)
  | some c =>
    if c.requiredFiles.all s.disk.exists? then
      let (result, work) := ((c.perform s).run start).run
      match result with
      | .ok ending => (ending, work)
      | .error f => (.breakdown f, work)
    else (.misuse, start)

end LedgerSync.CommandLine
