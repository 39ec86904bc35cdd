import LedgerSync.Journal
import LedgerSync.Sync.Settings
import LedgerSync.Text.Case
import LedgerSync.Text.Column
import LedgerSync.Transaction.View

/-!
# The window of stored transactions

Which stored transactions cover the same period as a reported batch. They are
loaded from some days before the date of the earliest reported transaction, and
kept when their timestamp is not before its instant, to the second. A record
without timestamp is judged by its date.

For some providers a record is kept whatever its time when its external id was
reported, and left out when its id is a smaller integer than all reported ones.
The former keeps a record whose time the bank has changed since; the latter is
for banks that number their transactions, where smaller numbers are known to be
older.
-/

namespace LedgerSync

/-- Why a stored transaction is outside the window. -/
inductive Eviction
  | timestamp
  | noMatch
  deriving DecidableEq, Repr

def Eviction.word : Eviction → String
  | .timestamp => "evicted-timestamp"
  | .noMatch => "evicted-no-match"

/-- Where a stored transaction ends up. -/
inductive Placement
  | kept
  | keptOnDate
  | evicted (reason : Eviction)
  deriving DecidableEq, Repr

namespace StoredWindow

/-- Whether a provider is listed, in any case, as the settings are written by
hand. -/
def isListed (provider : String) (providers : List String) : Bool :=
  (providers.map Text.toUpper).contains (Text.toUpper provider)

/-- The external id as an integer. -/
def integerId? (id : Option String) : Option Int :=
  id.bind fun s => Text.integer? (Text.trim s)

/-- Whether the external id is an integer below another. -/
def isBelow (lowest : Int) (id : Option String) : Bool :=
  (integerId? id).any (· < lowest)

/-- Whether a non-empty list of integers leaves no gap between its ends. -/
def isContiguous (lowest highest : Int) (ids : List Int) : Bool :=
  ((highest - lowest).toNat < ids.length) &&
    (List.range ((highest - lowest).toNat + 1)).all fun k =>
    ids.contains (lowest + k)

/-- The lowest of the reported ids below which stored transactions are left out,
or why none is. -/
def pruningBound (provider : String) (batch : List (Member Reported)) :
    Except String Int :=
  match batch.mapM fun m => integerId? m.record.externalId with
  | none => .error s!"{provider} upstream has non-integer external ids, skipping external id pruning"
  | some [] => .error
    s!"{provider} upstream is not contiguous, skipping external id pruning"
  | some (id :: ids) =>
    let lowest := ids.foldl min id
    let highest := ids.foldl max id
    if isContiguous lowest highest (id :: ids) then .ok lowest
    else .error s!"{provider} upstream is not contiguous, skipping external id pruning"

/-- Leaves out the stored transactions below the bound. -/
def prune (bound : Int) (stored : List (Member Stored)) :
    List (Member Stored) :=
  stored.filter fun m => !isBelow bound m.record.externalId

/-- Where a stored transaction ends up, given the earliest reported moment and
the external ids that keep a record whatever its time. -/
def place (earliest : Moment) (keepIds : List String) (t : Stored) :
    Placement :=
  if t.externalId.any fun id => id ≠ "" && keepIds.contains id then .kept
  else
    match t.timestamp with
    | some timestamp =>
      if timestamp.toSeconds.earlier earliest.toSeconds then .evicted .timestamp
      else .kept
    | none => if earliest.date ≤ t.date then .keptOnDate else .evicted .noMatch

/-- The external ids of a batch that are not empty. -/
def reportedIds (batch : List (Member Reported)) : List String :=
  (batch.filterMap fun m => m.record.externalId).filter (· ≠ "")

/-- The external ids that keep a record whatever its time: the reported ones,
for the providers whose ids can be relied on. -/
def keepIds (settings : SyncSettings) (provider : String)
    (batch : List (Member Reported)) :
    List String :=
  if isListed provider settings.externalIdWindowProviders then reportedIds batch
  else []

/-- What is left of loaded transactions when those with smaller ids than all
reported ones are left out, and what is logged about it. Only a provider that
numbers its transactions has such ids. -/
def pruned (settings : SyncSettings) (provider : String)
    (batch : List (Member Reported)) (loaded : List (Member Stored)) :
    List (Member Stored) × List LogRecord :=
  if isListed provider settings.contiguousExternalIdProviders then
    match pruningBound provider batch with
    | .error message => (loaded, [⟨.warning, .sync, message⟩])
    | .ok bound =>
      let kept := prune bound loaded
      let count := loaded.length - kept.length
      (kept, if count = 0 then []
        else [⟨.debug, .sync,
          s!"Pruned {count} stored transaction(s) below external id {bound}"⟩])
  else (loaded, [])

structure Selection where
  kept : List (Member Stored)
  dateFallbacks : Nat
  evicted : List (Eviction × Member Stored)
  deriving DecidableEq, Repr

/-- Sorts loaded transactions into the window or out of it. -/
def sort (earliest : Moment) (keepIds : List String)
    (stored : List (Member Stored)) : Selection :=
  let placed := stored.map fun m => (place earliest keepIds m.record, m)
  { kept := placed.filterMap fun p => match p.1 with
      | .kept | .keptOnDate => some p.2
      | .evicted _ => none
    dateFallbacks := (placed.filter fun p => p.1 == .keptOnDate).length
    evicted := placed.filterMap fun p => match p.1 with
      | .evicted reason => some (reason, p.2)
      | _ => none }

def columnWidths : List Nat := [36, 36, 12, 32, 32, 32, 16]

def tableHeader : String := Text.tableRow columnWidths
  ["account-id", "transaction-id", "status", "external-id",
    "transaction instant",
   "earliest instant", "source"]

/-- A row of the table of evictions. -/
def evictedRow (earliest : Moment) (e : Eviction × Member Stored) : String :=
  let t := e.2.record
  Text.tableRow columnWidths [
    t.accountId.text, t.id, t.status.word,
    (t.externalId.filter (· ≠ "")).getD "n/a",
    (t.timestamp.map (·.text)).getD "n/a", earliest.text, e.1.word]

def rowsPerBlock : Nat := 50

/-- The tables of evictions, each with its header. -/
def evictionTables (earliest : Moment)
    (evicted : List (Eviction × Member Stored)) : List String :=
  (Text.blocks rowsPerBlock evicted).map fun block =>
    "\n".intercalate (tableHeader :: block.map (evictedRow earliest))

/-- What is logged about a selection. -/
def Selection.notes (s : Selection) (provider : String) (earliest : Moment) :
    List LogRecord :=
  let fallbacks := if s.dateFallbacks = 0 then []
    else [s!"Stored window for provider {provider} used the date of {s.dateFallbacks} " ++
      "transaction(s) without timestamp"]
  let tables := (evictionTables earliest s.evicted).map fun table =>
    s!"Evicted stored transactions in time window for {provider}:\n{table}"
  (fallbacks ++ tables).map fun message => ⟨.info, .sync, message⟩

end StoredWindow

/-- Loads the stored transactions dated on or after a date. -/
abbrev Loader := Date → Run (List (Member Stored))

/-- Selects the stored transactions in the window of a batch. -/
def selectStoredWindow (settings : SyncSettings) (provider : String)
    (batch : List (Member Reported)) (load : Loader) :
    Run StoredWindow.Selection := do
  let some earliest := Moment.earliest? (batch.map (·.record.dateTime))
    | throw (.argument .emptyBatch)
  let some since := earliest.date.addDays?
    (-settings.dateBackoffDays) | throw .beyondCalendar
  Run.ask since
  let loaded ← load since
  let (stored, notes) := StoredWindow.pruned settings provider batch loaded
  let selection := StoredWindow.sort earliest
    (StoredWindow.keepIds settings provider batch) stored
  Run.noteAll (notes ++ selection.notes provider earliest)
  return selection

end LedgerSync
