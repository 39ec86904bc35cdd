/-!
# Settings of the synchronisation

What can be set about the synchronisation itself. Providers are listed by name,
in any case. The standard values load the stored transactions from one day
before the batch on, and know one bank that numbers its transactions.
-/

namespace LedgerSync

/-- How stored transactions are selected, and how instructions are built. -/
structure SyncSettings where
  /-- Days before the earliest reported date from which stored transactions are
  loaded. -/
  dateBackoffDays : Int
  /-- Providers whose stored transactions stay in the window when their external
  id was reported. -/
  externalIdWindowProviders : List String
  /-- Providers whose external ids are small integers without gaps. -/
  contiguousExternalIdProviders : List String
  /-- Inserts at least this many days older than the latest stored date are
  history. -/
  backfillWindowDays : Int
  /-- Whether providers with a chain of matchers are reconciled by it. -/
  attributeMatchingEnabled : Bool
  deriving DecidableEq, Repr

/-- The settings that hold unless others are given. -/
def SyncSettings.standard : SyncSettings :=
  ⟨1, ["RABOBANK"], ["RABOBANK"], 7, true⟩

end LedgerSync
