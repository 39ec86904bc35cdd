import LedgerSync.CommandLine.Run
import LedgerSync.Logging.Line
import LedgerSync.Report.Listing
import Std.Time.Zoned

/-!
# The program

Finds out what lies at the paths of the command line and what time it is, lets
the command decide, and carries out its decision: lines go to the screen,
records to the log, and files to the disk. A report is written as plain text.

This is the only module that looks at the machine or changes anything on it.
-/

namespace LedgerSync.CommandLine

/-- What a path leads to on this machine. -/
def look (p : Path) : IO (Option DiskEntry) := do
  try return some (.file (← IO.FS.readBinFile p.text))
  catch
    | .inappropriateType .. => return some .folder
    | _ => return none

/-- The disk as far as paths and the folders above them show it. -/
def lookAll (paths : List Path) : IO Disk := do
  let paths := (paths ++ paths.flatMap Path.ancestors).filter (!·.names.isEmpty)
  let entries ← paths.eraseDups.filterMapM fun p => do
    return (← look p).map fun e => (p, e)
  return ⟨entries⟩

/-- Nanoseconds since 1970 as a date and a time of day. -/
def wallOfNanoseconds (n : Int) : Wall :=
  (Wall.ofTicks? ((Date.epoch.days * ticksPerDay : Nat) + n / 1000)).getD
    default

/-- What a command finds on this machine. -/
def findSurroundings (paths : List Path) : IO Surroundings := do
  let disk ← lookAll paths
  let instant := (← Std.Time.Timestamp.now).toNanosecondsSinceUnixEpoch
  let clock := (← Std.Time.PlainDateTime.now).toWallTime.toNanoseconds
  let bytes ← IO.getRandomBytes 16
  let bits := bytes.data.foldl (fun n b => n * 256 + b.toNat) 0
  return {
    disk
    now := ⟨wallOfNanoseconds instant.toInt, some .utc⟩
    wall := wallOfNanoseconds clock.toInt
    seconds := .finite false 0 0
    newId := fun n => (Uuid.ofRandomBits (bits + n)).text }

/-- Puts a log file aside that has no room for more, and drops the oldest of
those put aside. -/
def rotate (f : LogFile) (more : Nat) : IO Unit := do
  let some (.file bytes) ← look f.path | return
  if f.maxBytes ≤ 0 || (bytes.size + more : Nat) < f.maxBytes ||
      f.backups ≤ 0 then return
  let name := fun (n : Nat) =>
    if n = 0 then f.path.text else s!"{f.path.text}.{n}"
  for n in (List.range f.backups.toNat).reverse do
    if (← look (.ofText (name n))).isSome then
      IO.FS.rename (name n) (name (n + 1))

def appendLog (f : LogFile) (lines : List String) : IO Unit := do
  let text := String.join (lines.map (· ++ "\n"))
  rotate f text.utf8ByteSize
  IO.FS.withFile f.path.text .append fun h => h.putStr text

/-- Writes what a command has logged. Without a setup only warnings are
shown. -/
def writeLog (time : String) (w : Work) : IO Unit := do
  let (before, setup) := match w.logging with
    | some (n, s) => (n, some s)
    | none => (w.journal.records.length, none)
  for r in w.journal.records.take before do
    if LogLevel.standard ≤ r.severity.level then IO.eprintln r.message
  if let some s := setup then
    let records := w.journal.records.drop before
    for line in s.consoleLines time records do IO.eprintln line
    if let some f := s.file then appendLog f (s.fileLines time records)

/-- Writes a file together with the folders that it needs. -/
def writeContent (p : Path) (c : Content) : IO Unit := do
  IO.FS.createDirAll p.parent.text
  match c with
  | .text s => IO.FS.writeFile p.text s
  | .report sheets => IO.FS.writeFile p.text (Report.listingText sheets)
  | .log => pure ()

/-- What is said about a failure that the command could not show. -/
def complaint : Failure → String
  | .disk f => f.message
  | f => f.message?.getD "The command broke down."

/-- Runs a command. It decides twice, so that the second time it can tell how
long the first one took. -/
def runHere (args : List String) : IO UInt32 := do
  let s ← findSurroundings (((Command.ofList? args).map Command.paths).getD [])
  let began ← IO.monoNanosNow
  let (first, _) ← IO.lazyPure fun _ => run s args
  let took := (← IO.monoNanosNow) - began
  if first matches .misuse then
    usage.forM fun line => IO.eprintln line
    return 2
  let seconds := (Double.ofDecimal? (.finite false took (-9))).getD .nan
  let (ending, work) := run { s with seconds } args
  for (p, c) in work.written do writeContent p c
  let millis := s.wall.timeOfDay % ticksPerSecond / 1000
  writeLog s!"{Report.timeLabel s.wall},{Date.padded 3 millis}" work
  for shown in work.shown do
    for line in shown.lines do IO.println line
  if let .breakdown f := ending then IO.eprintln (complaint f)
  return ending.exitCode.toUInt32

end LedgerSync.CommandLine

def main (args : List String) : IO UInt32 := LedgerSync.CommandLine.runHere args
