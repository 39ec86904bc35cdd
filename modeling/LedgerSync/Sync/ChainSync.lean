import LedgerSync.Matching.Chain
import LedgerSync.Matching.Summary
import LedgerSync.Sync.Heuristic
import LedgerSync.Sync.StoredWindow

/-!
# Reconciling by a chain of matchers

Booked transactions of both sides are cut to the sync window and matched by the
provider's chain. The chain must account for every transaction: reported ones
that are left must be new, and stored ones that are left must lie on the oldest
reported day, which may be incomplete. Anything else stops the reconciliation,
since a record could be lost or doubled.

Stored pending transactions are always deleted. They were written when the bank
announced them, and are reported again once they are booked, often with other
contents.
-/

namespace LedgerSync

open Matching

namespace ChainSync

/-- Refuses what the chain left on the stored side, except unmatched records of
the oldest reported day, which are logged. -/
def checkStored (provider : String) (final : MatchResult)
    (oldestReported : Date) : Run Unit := do
  let unprocessed := final.storedFor .unprocessed
  if !unprocessed.isEmpty then
    throw (.unprocessed .stored unprocessed.length provider)
  let rejected := final.storedFor .rejected
  if !rejected.isEmpty then
    let rows ← Run.ofExcept (unmatchedTable rejected)
    throw (.unresolved (.storedRejected provider rejected.length rows))
  let peerless := final.storedFor .peerless
  if !peerless.isEmpty then
    let rows ← Run.ofExcept (unmatchedTable peerless)
    if peerless.all fun u => u.transaction.record.date == oldestReported then
      Run.log .warning .chainSync (
        s!"Provider {provider}: allowing {peerless.length} unmatched (PEERLESS) stored " ++
        s!"transaction(s) dated on the oldest upstream date {oldestReported.text}\n{rows}")
    else throw (.unresolved (.storedPeerless provider peerless.length rows))
  let duplicate := final.storedFor .duplicate
  if !duplicate.isEmpty then
    let rows ← Run.ofExcept (unmatchedTable duplicate)
    throw (.unresolved (.storedDuplicate provider duplicate.length rows))

/-- Refuses what the chain left on the reported side without a definite verdict.
What is peerless is new. -/
def checkReported (provider : String) (final : MatchResult) :
    Except Failure Unit := do
  let unprocessed := final.reportedFor .unprocessed
  if !unprocessed.isEmpty then
    throw (.unprocessed .reported unprocessed.length provider)
  let rejected := final.reportedFor .rejected
  let duplicate := final.reportedFor .duplicate
  if !(rejected.isEmpty && duplicate.isEmpty) then
    let rejectedRows ← unmatchedTable rejected
    let duplicateRows ← unmatchedTable duplicate
    throw (.unresolved
      (.reported provider rejected.length duplicate.length rejectedRows
        duplicateRows))

/-- The operations that follow from the matched pairs, so far. -/
structure Progress where
  metrics : Metrics
  toDelete : List (Member Stored)
  toReinsert : List Assigned
  toUpdate : List Assigned
  toIgnore : List Assigned
  deriving DecidableEq, Repr

def countMatched (matcher : String) (m : Metrics) : Metrics :=
  if matcher = BuiltIn.externalIdAmountStrict.matcher.name then
    { m with matchedByExternalId := m.matchedByExternalId + 1 }
  else { m with matchedByAttributes := m.matchedByAttributes + 1 }

/-- Decides about one matched pair. Unchanged records are ignored, and a record
whose date changed is deleted and written again, because the date is part of its
key. -/
def step (now : DateTime) (p : Progress) (pair : Matched) :
    Except Failure Progress := do
  let record := pair.stored.record
  let assigned : Assigned := ⟨pair.reported, record.id, .regular⟩
  let derived ← assigned.toStored ⟨record.userId, record.accountId⟩
    record.currency
    record.createdAt now
  let metrics := countMatched pair.matcher p.metrics
  if ← derived.same record then
    return { p with metrics, toIgnore := p.toIgnore ++ [assigned] }
  else if derived.date ≠ record.date then
    return { p with
      metrics := { metrics with keyUpdated := metrics.keyUpdated + 1 }
      toDelete := p.toDelete ++ [pair.stored]
      toReinsert := p.toReinsert ++ [assigned] }
  else return { p with metrics, toUpdate := p.toUpdate ++ [assigned] }

/-- The counters at the start. -/
def startMetrics (provider : String) (reported : List (Member Reported))
    (storedCount : Nat) :
    Except Failure Metrics := do
  let index ← Index.ofBatch reported
  return Metrics.start provider reported.length storedCount index.missingIds
    index.duplicateIds

/-- Both sides cut to the sync window, and the oldest reported day that is
left. -/
structure Windowed where
  window : Window
  reported : List (Member Reported)
  stored : List (Member Stored)
  oldestReported : Date

/-- Chooses the sync window and cuts both sides to it. -/
def cut (provider : Provider) (reported : List (Member Reported))
    (stored : List (Member Stored)) :
    Run Windowed := do
  if reported.isEmpty then throw (.argument .noBookedReported)
  let choice ← Run.ofExcept (provider.window.select reported stored)
  Run.noteAll choice.note.toList
  let window := choice.window
  let keptReported ← Run.ofExcept (window.truncate reported)
  let keptStored ← Run.ofExcept (window.truncate stored)
  let some oldestReported := Date.earliest? (keptReported.map (·.record.date))
    | throw (.argument (.emptiedWindow (window.boundText "None")))
  return ⟨window, keptReported, keptStored, oldestReported⟩

/-- What is logged about a stored pending transaction that is deleted. -/
def deletionNote (provider : String) (m : Member Stored) : LogRecord :=
  let id := m.record.externalId.getD "None"
  ⟨.info, .chainSync,
    s!"Deleting pending transaction {m.record.id} with external-id {id} " ++
    s!"for provider {provider}"⟩

end ChainSync

/-- Reconciles booked reported with booked stored transactions by the provider's
chain. -/
def instructionByChain (newId : Nat → String) (now : DateTime)
    (backfillWindowDays : Int) (provider : Provider) (account : Option Uuid)
    (reported : List (Member Reported)) (stored : List (Member Stored)) :
    Run Instruction := do
  let w ← ChainSync.cut provider reported stored
  let latestStored :=
    (Date.latest? (w.stored.map (·.record.date))).getD Date.epoch
  let results ← provider.reconcile w.reported w.stored
  Run.log .info .chain
    (← Run.ofExcept (results.logText provider.name account w.window w.reported
      w.stored))
  let final := results.last
  ChainSync.checkStored provider.name final w.oldestReported
  Run.ofExcept (ChainSync.checkReported provider.name final)
  let metrics ← Run.ofExcept (ChainSync.startMetrics provider.name reported
    stored.length)
  let p ← Run.ofExcept (final.matched.foldlM (ChainSync.step now)
    ⟨metrics, [], [], [], []⟩)
  let some threshold :=
    latestStored.addDays? (-backfillWindowDays) | throw .beyondCalendar
  let peerless := final.unmatchedReported.map (·.transaction)
  let regular := peerless.filter fun m => threshold < m.record.date
  let history := peerless.filter fun m => m.record.date ≤ threshold
  let newRegular ← assignFresh newId .regular regular
  let newHistory ← assignFresh newId .backfilled history
  if !newHistory.isEmpty then
    Run.log .info .chainSync
      s!"Provider {provider.name}: {newHistory.length} transaction(s) inserted as backfill"
  return {
    toDelete := p.toDelete
    toInsert := p.toReinsert ++ newRegular ++ newHistory
    toUpdate := p.toUpdate
    toIgnore := p.toIgnore
    metrics := some { p.metrics with
      reportedNew := newRegular.length + newHistory.length
      reportedUnchanged := p.toIgnore.length
      bookedNotMatched := final.unmatchedStored.length }
    -- inserted history leaves what was derived from newer records valid
    oldestChanged := Instruction.oldestChange p.toDelete
      (p.toReinsert ++ newRegular) p.toUpdate }

/-- Reconciles the booked part of a batch with the stored transactions of its
window. With nothing stored there is nothing to reconcile, and the batch is
inserted as it is. -/
def determineByChain (newId : Nat → String) (now : DateTime)
    (settings : SyncSettings) (provider : Provider) (account : Uuid)
    (batch : List (Member Reported)) (load : Loader) :
    Run Instruction := do
  let booked := batch.filter fun m => m.record.status == .booked
  let some oldest := Date.earliest? (booked.map (·.record.date)) | return .empty
  let selection ← selectStoredWindow settings provider.name booked load
  let stored := selection.kept
  if stored.isEmpty then
    let toInsert ← assignFresh newId .regular booked
    Run.log .info .chainSync
      (s!"Provider {provider.name}: upstream total {booked.length}, " ++
      "no stored transactions, reconciliation skipped")
    let metrics ← Run.ofExcept (ChainSync.startMetrics provider.name booked 0)
    let metrics := { metrics with
      reportedNew := toInsert.length
      windowDateFallbacks := selection.dateFallbacks }
    return { Instruction.empty with
      toInsert, metrics := some metrics, oldestChanged := some oldest }
  let bookedStored := stored.filter fun m => m.record.status == .booked
  let pendingStored := stored.filter fun m => m.record.status == .pending
  let i ← instructionByChain newId now settings.backfillWindowDays provider
    (some account) booked
    bookedStored
  Run.noteAll (pendingStored.map (ChainSync.deletionNote provider.name))
  let pending := pendingStored.length
  let counted := i.countAlso fun m => { m with
    storedTotal := m.storedTotal + pending
    pendingNotMatched := m.pendingNotMatched + pending
    windowDateFallbacks := selection.dateFallbacks }
  return counted.deleteAlso pendingStored

end LedgerSync
