import LedgerSync.Sync.Service

/-!
# Exports of stored transactions

An export of stored transactions stands in for the storage: it answers which
transactions of an account are dated on or after a date, and it tells whose
account it is when nobody else does.
-/

namespace LedgerSync.Export

/-- The account to reconcile: what is given, and what the first exported
transaction says otherwise. -/
def account (rows : List Stored) (userId accountId : Option Uuid) :
    Except Failure Account :=
  match userId, accountId, rows with
  | some u, some a, _ => .ok ⟨u, a⟩
  | _, _, [] => .error (.argument .accountUnknown)
  | u, a, first :: _ => .ok ⟨u.getD first.userId, a.getD first.accountId⟩

/-- Answers from an export. -/
def loader (rows : List Stored) : AccountLoader := fun account since =>
  pure ((Member.ofList rows).filter fun m =>
    m.record.userId == account.userId && m.record.accountId ==
      account.accountId && since ≤ m.record.date)

end LedgerSync.Export
