import LedgerSync.Config.Settings
import LedgerSync.Report.Workbook
import LedgerSync.Sync.Instruction
import LedgerSync.Text.Template

/-!
# Reports on instructions

A report is a workbook with a summary and one sheet for each kind of operation.
Sheets can be renamed and left out, but not all of them.

A report shows the transactions in full, unlike a log: it is made for the person
whose account it is. The summary says where the instruction comes from and what
the counters are, and the sheets list the records one by one.
-/

namespace LedgerSync

/-- Where an instruction comes from. -/
structure ReportContext where
  provider : String
  userId : Option String
  accountId : Option String
  reportedFile : Option String
  storedFile : Option String
  configFile : Option String
  generatedAt : String
  seconds : Double

namespace Report

/-- A time as the parts of a file name: the date and the time of day. -/
def timeParts (now : Wall) : String × String :=
  let (year, month, day) := now.date.civil
  let seconds := now.timeOfDay / ticksPerSecond
  (Text.decimalText year ++ Date.padded 2 month ++ Date.padded 2 day,
    Date.padded 2 (seconds / 3600) ++ Date.padded 2 (seconds / 60 % 60) ++
      Date.padded 2 (seconds % 60))

/-- The name of the file that a report goes into unless another is given. -/
def fileName (settings : OutputSettings) (provider : String) (now : Wall) :
    Except Failure String :=
  let (date, time) := timeParts now
  Template.fill [("provider", provider), ("date", date), ("time", time)]
    settings.filenameTemplate

/-- A time as the summary shows it. -/
def timeLabel (now : Wall) : String :=
  let (year, month, day) := now.date.civil
  let time := (now.floorTo ticksPerSecond).timeText
  s!"{Text.decimalText year}-{Date.padded 2 month}-{Date.padded 2 day} {time}"

def pair (label : String) (value : SheetCell) : List SheetCell :=
  [.text label, value]

/-- What the summary says about the run. -/
def runRows (c : ReportContext) : List (List SheetCell) := [
  pair "Provider:" (.text c.provider),
  pair "User:" (.ofText? c.userId),
  pair "Account:" (.ofText? c.accountId),
  pair "Upstream File:" (.ofText? c.reportedFile),
  pair "Stored File:" (.ofText? c.storedFile),
  pair "Config File:" (.text ((c.configFile.filter (· ≠ "")).getD "Default")),
  pair "Generated At:" (.text c.generatedAt),
  pair "Processing Time:" (.text s!"{c.seconds.twoPlaces} seconds")]

/-- What the summary says about the operations. -/
def operationRows (i : Instruction) : List (List SheetCell) := [
  pair "To Delete:" (.count i.toDelete.length),
  pair "To Insert:" (.count i.toInsert.length),
  pair "To Update:" (.count i.toUpdate.length),
  pair "To Ignore:" (.count i.toIgnore.length),
  pair "Oldest Changed Date:"
    (.text ((i.oldestChanged.map (·.text)).getD "n/a"))]

/-- What the summary says about the counters. -/
def metricRows (m : Metrics) : List (List SheetCell) :=
  pair "provider:" (.text m.provider) :: m.counters.map fun c =>
    pair s!"{c.1}:" (.count c.2)

def heading (title : String) : List SheetCell := [.text title]

def summaryRows (c : ReportContext) (i : Instruction) : List (List SheetCell) :=
  [heading "Transaction Sync Instruction", [], heading "Run Information"] ++
  runRows c ++ [[], heading "Operations"] ++ operationRows i ++
  match i.metrics with
  | none => []
  | some m => [[], heading "Metrics"] ++ metricRows m

def summary (title : String) (c : ReportContext) (i : Instruction) :
    Except Failure Sheet := do
  let rows ← (summaryRows c i).mapM fun row => row.mapM SheetCell.entered
  return {
    title
    rows := Sheet.squared 4 rows
    widths := [42, 40]
    fill := none
    merged := ["A1:D1"] }

/-- A sheet of rows under headers. -/
def listing (title : String) (headers : List String) (fill : Option Fill)
    (rows : List (List SheetCell)) : Sheet :=
  let rows := headers.map .text :: rows
  { title, rows, fill, merged := [], widths :=
    Sheet.fittedWidths headers.length rows }

/-- A decimal number as a cell; a signaling one has no number. -/
def numberCell (d : Decimal) : Except Failure SheetCell :=
  match Double.ofDecimal? d with
  | some x => .ok (.number x)
  | none => .error (.argument .signalingNumber)

def storedHeaders : List String :=
  ["Transaction ID", "Date", "Status", "Amount", "Currency", "External ID",
    "Timestamp", "Description"]

def storedRow (t : Stored) : Except Failure (List SheetCell) := do
  let cells := [.text t.id, .date t.date, .text t.status.word,
    ← numberCell t.amount,
    .text t.currency, .ofText? t.externalId,
    .ofText? (t.timestamp.map (·.text)), .ofText? t.description]
  cells.mapM SheetCell.entered

def reportedHeaders : List String :=
  ["Transaction ID", "Fill Type", "Date", "Status", "Type", "Amount",
    "External ID", "Timestamp", "Description"]

def reportedRow (a : Assigned) : Except Failure (List SheetCell) := do
  let t := a.member.record
  let cells := [.text a.id, .text a.fillKind.word, .date t.date,
    .text t.status.word,
    .text t.direction.word, ← numberCell (← t.signedAmount),
    .ofText? t.externalId, .text t.dateTime.text, .ofText? t.description]
  cells.mapM SheetCell.entered

/-- Adds a sheet unless it is left out. The title is chosen before the rows are
made. -/
def addSheet (s : SheetSettings) (make : String → Except Failure Sheet)
    (sheets : List Sheet) : Except Failure (List Sheet) := do
  if !s.enabled then return sheets
  let title ← SheetTitle.choose (sheets.map (·.title)) s.name
  return sheets ++ [← make title]

def sheets (s : SheetsSettings) (c : ReportContext) (i : Instruction) :
    Except Failure (List Sheet) := do
  let reported := fun (fill : Option Fill) (list : List Assigned) (title : String) =>
    return listing title reportedHeaders fill (← list.mapM reportedRow)
  let sheets ← addSheet s.summary (summary · c i) []
  let sheets ← addSheet s.toDelete (fun title =>
    return listing title storedHeaders (some .deleted)
      (← i.toDelete.mapM (storedRow ·.record))) sheets
  let sheets ← addSheet s.toInsert (reported (some .inserted) i.toInsert) sheets
  let sheets ← addSheet s.toUpdate (reported (some .updated) i.toUpdate) sheets
  let sheets ← addSheet s.toIgnore (reported none i.toIgnore) sheets
  if sheets.isEmpty then throw (.report .allSheetsDisabled)
  return sheets

/-- Makes a report for a path. The obstacle is why no file can be written there,
if none can; it counts only once the report is made. -/
def generate (settings : OutputSettings) (c : ReportContext) (i : Instruction)
    (path : String) (obstacle : Option DiskFault) : Run (List Sheet) := do
  Run.log .info .workbooks s!"Generating Excel report: {path}"
  let made ← Run.ofExcept (sheets settings.sheets c i)
  if let some fault := obstacle then
    Run.log .error .workbooks s!"Failed to save report: {fault.message}"
    throw (.report (.notWritable path fault))
  Run.log .info .workbooks s!"Report saved: {path}"
  return made

end Report

end LedgerSync
