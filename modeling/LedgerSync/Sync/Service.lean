import LedgerSync.Sync.ChainSync

/-!
# The sync service

Decides by which method a reported batch is reconciled. A provider that the
registry lists is reconciled by its chain of matchers, any other by external id
and amount.

Either way only the stored transactions of the same period take part, and
nothing is written: the result is an instruction.
-/

namespace LedgerSync

open Matching

/-- What a sync needs to know beside its input: the providers, the settings, the
supply of fresh ids and the time. -/
structure Environment where
  registry : Registry
  settings : SyncSettings
  newId : Nat → String
  now : DateTime

/-- Loads the stored transactions of an account dated on or after a date. -/
abbrev AccountLoader := Account → Loader

/-- Whether the provider is reconciled by a chain of matchers, and which. -/
def Environment.chainFor? (env : Environment) (provider : String) :
    Option Provider :=
  if env.settings.attributeMatchingEnabled then env.registry.find? provider
  else none

/-- The write operations that follow from a reported batch. -/
def determineInstruction (env : Environment) (account : Account)
    (provider : String) (batch : List (Member Reported))
    (load : AccountLoader) : Run Instruction := do
  if batch.isEmpty then return .empty
  match env.chainFor? provider with
  | some chain =>
    determineByChain env.newId env.now env.settings chain account.accountId
      batch (load account)
  | none =>
    let selection ← selectStoredWindow env.settings provider batch
      (load account)
    let found ← reconcileByIdAndAmount env.newId env.now provider
      selection.kept batch
    let i := found.countAlso fun m => { m with windowDateFallbacks :=
      selection.dateFallbacks }
    let bookedDeletes :=
      (i.toDelete.filter fun m => m.record.status == .booked).length
    if bookedDeletes ≠ 0 then
      Run.log .warning .sync (
        s!"Transaction sync reconciliation for account {account.accountId.text} with provider " ++
        s!"{provider} resulted in {bookedDeletes} booked transaction(s) to delete")
    return i

end LedgerSync
