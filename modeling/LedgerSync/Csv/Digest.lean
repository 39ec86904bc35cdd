import LedgerSync.Transaction.Record

/-!
# The digest of a reported file

What a file holds at a glance: how many transactions, of which period, status
and direction, and how reliable their external ids are. The last decides which
chain of matchers suits a bank.
-/

namespace LedgerSync.Csv

/-- The digest of a list of reported transactions. -/
structure Digest where
  rowCount : Nat
  earliest : Option Date
  latest : Option Date
  statusCounts : List (Status × Nat)
  directionCounts : List (Direction × Nat)
  missingIds : Nat
  /-- How many external ids are repetitions of one that occurred before. -/
  duplicateIds : Nat
  deriving DecidableEq, Repr

namespace Digest

def ofList (ts : List Reported) : Digest :=
  let dates := ts.map (·.date)
  let ids := (ts.filterMap (·.externalId)).filter (· ≠ "")
  { rowCount := ts.length
    earliest := Date.earliest? dates
    latest := Date.latest? dates
    statusCounts := Vocabulary.members.map fun s =>
    (s, (ts.filter (·.status == s)).length)
    directionCounts := Vocabulary.members.map fun d =>
    (d, (ts.filter (·.direction == d)).length)
    missingIds := ts.length - ids.length
    duplicateIds := ids.length - ids.eraseDups.length }

end Digest

end LedgerSync.Csv
