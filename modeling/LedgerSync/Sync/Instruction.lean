import LedgerSync.Transaction.Derive

/-!
# Instructions

An instruction lists the write operations that follow from a reconciliation.
Whoever applies it deletes first and then writes the inserts and updates; the
ignored ones need no write. The order matters, because a record that is written
again under another date has another key.

The oldest changed date is the earliest date that any of these operations
touches. Balances and the like have to be worked out again from there.
-/

namespace LedgerSync

/-- Counters of one reconciliation, by which it can be told afterwards what was
decided and why. -/
structure Metrics where
  provider : String
  reportedTotal : Nat
  reportedNew : Nat
  reportedUnchanged : Nat
  storedTotal : Nat
  matchedByExternalId : Nat
  matchedByAttributes : Nat
  matchedOptimistically : Nat
  bookedNotMatched : Nat
  pendingNotMatched : Nat
  keyUpdated : Nat
  pendingToBooked : Nat
  bookedToPending : Nat
  windowDateFallbacks : Nat
  missingExternalIds : Nat
  duplicateExternalIds : Nat
  deriving DecidableEq, Repr

namespace Metrics

/-- The counters at the start, when only the sizes and the quality of the ids
are known. -/
def start (provider : String)
    (reportedTotal storedTotal missingExternalIds duplicateExternalIds : Nat) :
    Metrics := {
  provider, reportedTotal, storedTotal, missingExternalIds, duplicateExternalIds
  reportedNew := 0, reportedUnchanged := 0, matchedByExternalId :=
    0, matchedByAttributes := 0
  matchedOptimistically := 0, bookedNotMatched := 0, pendingNotMatched :=
    0, keyUpdated := 0
  pendingToBooked := 0, bookedToPending := 0, windowDateFallbacks := 0 }

/-- The counters by name, in the order in which they are shown. -/
def counters (m : Metrics) : List (String × Nat) := [
  ("upstream_total", m.reportedTotal),
  ("upstream_new", m.reportedNew),
  ("upstream_unchanged", m.reportedUnchanged),
  ("stored_total", m.storedTotal),
  ("stored_matched_by_external_id", m.matchedByExternalId),
  ("stored_matched_by_attributes_unique", m.matchedByAttributes),
  ("stored_matched_by_attributes_optimistic", m.matchedOptimistically),
  ("stored_booked_not_matched", m.bookedNotMatched),
  ("stored_pending_not_matched", m.pendingNotMatched),
  ("stored_primary_key_updated", m.keyUpdated),
  ("stored_pending_to_booked", m.pendingToBooked),
  ("stored_booked_to_pending", m.bookedToPending),
  ("stored_window_date_fallbacks", m.windowDateFallbacks),
  ("upstream_quality_missing_external_ids", m.missingExternalIds),
  ("upstream_quality_duplicate_external_ids", m.duplicateExternalIds)]

end Metrics

/-- The write operations that follow from a reconciliation. -/
structure Instruction where
  toDelete : List (Member Stored)
  toInsert : List Assigned
  toUpdate : List Assigned
  toIgnore : List Assigned
  metrics : Option Metrics
  oldestChanged : Option Date
  deriving DecidableEq, Repr

namespace Instruction

def empty : Instruction := ⟨[], [], [], [], none, none⟩

/-- The earliest date that the operations touch, from which anything derived
from the records has to be worked out again. -/
def oldestChange (toDelete : List (Member Stored))
    (toInsert toUpdate : List Assigned) :
    Option Date :=
  Date.earliest? (toDelete.map (·.record.date) ++
    toInsert.map (·.member.record.date) ++ toUpdate.map (·.member.record.date))

/-- What is written: inserts, then updates. -/
def toUpsert (i : Instruction) : List Assigned := i.toInsert ++ i.toUpdate

/-- Whether there is anything to write or delete. -/
def hasChanges (i : Instruction) : Bool :=
  !(i.toDelete.isEmpty && i.toInsert.isEmpty && i.toUpdate.isEmpty)

/-- The instruction with other counters, if it has any. -/
def countAlso (i : Instruction) (f : Metrics → Metrics) : Instruction :=
  { i with metrics := i.metrics.map f }

/-- The instruction with more records to delete. -/
def deleteAlso (i : Instruction) (more : List (Member Stored)) : Instruction :=
  {
  i with
  toDelete := i.toDelete ++ more
  oldestChanged := Date.earliest? (i.oldestChanged.toList ++
    more.map (·.record.date)) }

end Instruction

end LedgerSync
