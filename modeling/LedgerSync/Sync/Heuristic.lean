import LedgerSync.Journal
import LedgerSync.Sync.Index
import LedgerSync.Sync.Instruction

/-!
# Reconciling by external id and amount

Stored transactions look for their reported counterpart one after the other. A
live member with the same external id is taken; of several, one of the same date
and amount, or else of the same date. Without such members, one of the same date
and amount is taken, told apart by the description; a booked record never takes
a pending member that way. What is taken is out of reach for later records.

A record without counterpart is deleted. One whose date or status changed is
deleted and written again under its id; one that would be written unchanged is
ignored. Members that nobody took are inserted under fresh ids.

The method decides record by record and never looks back, so it always comes to
a result, where a chain of matchers would refuse one.
-/

namespace LedgerSync

namespace Heuristic

/-- How a counterpart was found. -/
inductive Found
  | byExternalId
  | byAttributes
  | optimistically
  deriving DecidableEq, Repr

/-- The counterpart among members with the record's external id. -/
def amongSameId (s : Stored) (candidates : List (Member Reported)) :
    Except Failure (Option (Member Reported)) :=
  match candidates with
  | [m] => .ok (some m)
  | _ => do
    let sameDate := candidates.filter fun m => m.record.date == s.date
    let cents ← s.cents
    let exact ← sameDate.findM? fun m => do return (← m.record.cents) == cents
    return exact <|> sameDate.head?

/-- The members that may be the counterpart by date, amount and status, and by
description where several are left. -/
def attributeCandidates (s : Stored) (sameCents : List (Member Reported)) :
    List (Member Reported) :=
  let candidates := sameCents.filter fun m =>
    m.record.date == s.date &&
      !(s.status == .booked && m.record.status == .pending)
  match candidates with
  | [] => []
  | [m] => [m]
  | _ => candidates.filter fun m => m.record.description.getD "" ==
    s.description.getD ""

/-- The counterpart of a record in an index, and how it was found. A live member
with the same external id is preferred to any other. -/
def counterpart (index : Index) (s : Stored) :
    Except Failure (Option (Found × Member Reported)) := do
  match index.withExternalId s.externalId with
  | [] =>
    match attributeCandidates s (index.withCents (← s.cents)) with
    | [] => return none
    | [m] => return some (.byAttributes, m)
    | m :: _ => return some (.optimistically, m)
  | candidates => return (← amongSameId s candidates).map fun m =>
    (.byExternalId, m)

/-- What has been decided so far. -/
structure Progress where
  index : Index
  metrics : Metrics
  toDelete : List (Member Stored)
  toReinsert : List Assigned
  toUpdate : List Assigned
  toIgnore : List Assigned
  deriving DecidableEq, Repr

def countFound (found : Found) (m : Metrics) : Metrics :=
  match found with
  | .byExternalId => { m with matchedByExternalId := m.matchedByExternalId + 1 }
  | .byAttributes => { m with matchedByAttributes := m.matchedByAttributes + 1 }
  | .optimistically => { m with matchedOptimistically :=
    m.matchedOptimistically + 1 }

def countUnmatched (status : Status) (m : Metrics) : Metrics :=
  match status with
  | .booked => { m with bookedNotMatched := m.bookedNotMatched + 1 }
  | .pending => { m with pendingNotMatched := m.pendingNotMatched + 1 }

def countStatusChange (before after : Status) (m : Metrics) : Metrics :=
  match before, after with
  | .booked, .pending => { m with bookedToPending := m.bookedToPending + 1 }
  | .pending, .booked => { m with pendingToBooked := m.pendingToBooked + 1 }
  | _, _ => m

/-- Counts a record that is deleted and written again. -/
def countKeyUpdate (changed : Bool) (m : Metrics) : Metrics :=
  if changed then { m with keyUpdated := m.keyUpdated + 1 } else m

/-- Decides about one stored record. What it takes out of the index is out of
reach for the records after it. -/
def step (now : DateTime) (p : Progress) (s : Member Stored) :
    Except Failure Progress := do
  let record := s.record
  match ← counterpart p.index record with
  | none =>
    return { p with
      toDelete := p.toDelete ++ [s]
      metrics := countUnmatched record.status p.metrics }
  | some (found, m) =>
    let index ← p.index.remove m
    let assigned : Assigned := ⟨m, record.id, .regular⟩
    let changedDate := m.record.date != record.date
    let changedKey := changedDate || m.record.status != record.status
    let metrics := countKeyUpdate changedKey
      (countStatusChange record.status m.record.status
        (countFound found p.metrics))
    let toDelete := if changedKey then p.toDelete ++ [s] else p.toDelete
    let derived ← assigned.toStored ⟨record.userId, record.accountId⟩
      record.currency
      record.createdAt now
    let next := { p with index, metrics, toDelete }
    if ← derived.same record then
      return { next with toIgnore := p.toIgnore ++ [assigned] }
    else if changedDate then
      return { next with toReinsert := p.toReinsert ++ [assigned] }
    else
      return { next with toUpdate := p.toUpdate ++ [assigned] }

/-- The state before the first record. -/
def start (provider : String) (storedCount : Nat) (index : Index) : Progress :=
  {
  index
  metrics := Metrics.start provider index.arena.length storedCount
    index.missingIds
    index.duplicateIds
  toDelete := [], toReinsert := [], toUpdate := [], toIgnore := [] }

/-- Decides about all stored records in order. -/
def decide (now : DateTime) (provider : String) (stored : List (Member Stored))
    (batch : List (Member Reported)) : Except Failure Progress := do
  let index ← Index.ofBatch batch
  stored.foldlM (step now) (start provider stored.length index)

/-- The instruction, once the members that nobody took have ids. -/
def Progress.instruction (p : Progress) (fresh : List Assigned) : Instruction :=
  let toInsert := p.toReinsert ++ fresh
  { toDelete := p.toDelete
    toInsert
    toUpdate := p.toUpdate
    toIgnore := p.toIgnore
    metrics := some { p.metrics with
      reportedNew := fresh.length
      reportedUnchanged := p.toIgnore.length }
    oldestChanged := Instruction.oldestChange p.toDelete toInsert p.toUpdate }

end Heuristic

/-- Gives every member a fresh id. -/
def assignFresh (newId : Nat → String) (fillKind : FillKind)
    (members : List (Member Reported)) :
    Run (List Assigned) :=
  members.mapM fun m => do return ⟨m, ← Run.drawId newId, fillKind⟩

/-- Reconciles stored transactions with a batch by external id and amount. -/
def reconcileByIdAndAmount (newId : Nat → String) (now : DateTime)
    (provider : String) (stored : List (Member Stored))
    (batch : List (Member Reported)) : Run Instruction := do
  let p ← Run.ofExcept (Heuristic.decide now provider stored batch)
  let fresh ← assignFresh newId .regular p.index.members
  let i := p.instruction fresh
  Run.log .debug .sync (
    s!"Reconciled provider {provider}: {i.toDelete.length} delete, {i.toInsert.length} insert, " ++
    s!"{i.toUpdate.length} update, {i.toIgnore.length} ignore")
  return i

end LedgerSync
