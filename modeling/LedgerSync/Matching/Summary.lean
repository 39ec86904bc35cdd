import LedgerSync.Matching.Result
import LedgerSync.Matching.Window
import LedgerSync.Text.Column

/-!
# Reports on matching

Tables of unmatched transactions and summaries of a chain, for the log. They are
what a person gets to see when a chain could not account for something, so they
show which transactions these are and what the matchers said of them: ids, dates
and verdicts. They never show amounts, names or account numbers, which must not
get into a log.
-/

namespace LedgerSync.Matching

/-- How many rows a table has before its header is repeated, so that the columns
of a long table can be told anywhere. -/
def rowsPerBlock : Nat := 50

def columnWidths : List Nat := [36, 32, 10, 12, 24, 12, 32, 6]

def tableHeader : String := Text.tableRow columnWidths
  ["transaction-id", "external-id", "date", "booking-date", "timestamp",
    "reason", "matcher", "n-attr"]

/-- A text, or `n/a` in place of an absent or empty one. -/
def orNotAvailable (s : Option String) : String :=
  (s.filter (· ≠ "")).getD "n/a"

def unmatchedRow [Viewable α] (u : Unmatched α) : Except Failure String := do
  let v := view u.transaction
  let timestamp ← v.timestamp
  return Text.tableRow columnWidths [
    orNotAvailable v.internalId, orNotAvailable v.externalId, v.date.text,
    orNotAvailable (v.bookingDate.map (·.text)),
    orNotAvailable (timestamp.map (·.text)),
    u.reason.word, u.matcher, Text.decimalText u.attributes.length]

/-- A table of unmatched transactions, in blocks with a header each. -/
def unmatchedTable [Viewable α] (us : List (Unmatched α)) :
    Except Failure String := do
  if us.isEmpty then return "None"
  let rows ← us.mapM unmatchedRow
  return "\n".intercalate ((Text.blocks rowsPerBlock rows).map fun block =>
    "\n".intercalate (tableHeader :: block))

/-- One result of a chain. The first one holds every transaction, so only its
counts are shown. -/
def stageText (stage : Nat) (r : MatchResult) : Except Failure String := do
  let counts := s!"MatchResult ({stage})\n" ++
    s!"Matched: {r.matched.length}, MultiMatched: {r.multiMatched.length}, " ++
    s!"Unmatched upstream: {r.unmatchedReported.length}, " ++
    s!"Unmatched stored: {r.unmatchedStored.length}"
  if stage = 0 then return counts
  let reported ← unmatchedTable r.unmatchedReported
  let stored ← unmatchedTable r.unmatchedStored
  return s!"{counts}\n\nUnmatched upstream:\n{reported}\n\nUnmatched stored:\n{stored}"

def MatchResults.report (c : MatchResults) : Except Failure String := do
  let stages ← c.toList.zipIdx.mapM fun s => stageText s.2 s.1
  return "\n\n".intercalate stages

/-- The report that is logged about a chain. -/
def MatchResults.logText (c : MatchResults) (provider : String)
    (account : Option Uuid) (window : Window)
    (reported : List (Member Reported)) (stored : List (Member Stored)) :
    Except Failure String := do
  let shown := fun d : Option Date => (d.map (·.text)).getD "None"
  let reportedDates := reported.map (·.record.date)
  let storedDates := stored.map (·.record.date)
  let bound := window.boundText "unbounded"
  let accountText := (account.map (·.text)).getD "None"
  let report ← c.report
  return "MatchResults\n" ++
    s!"Sync window: {bound}\n" ++
    s!"Account id: {accountText}, provider: {provider}\n" ++
    s!"Upstream total: {reported.length}, oldest: {shown (Date.earliest? reportedDates)}\n" ++
    s!"Stored total: {stored.length}, oldest: {shown (Date.earliest? storedDates)}, " ++
    s!"most-recent: {shown (Date.latest? storedDates)}\n\n{report}"

end LedgerSync.Matching
