import LedgerSync.Sync.Service

/-!
# The store and its sessions

The store of an account keeps records in the order in which they were first
written; a record is found by date and id. An instruction is applied by deleting
first and writing then.

A session reconciles one batch after the other with the store that the last one
left; a step that fails leaves it as it is. The program itself has no store: the
session says what becomes of one whose owner applies every instruction.
-/

namespace LedgerSync

/-- The records of one account. -/
structure Store where
  rows : List Stored
  deriving DecidableEq, Repr

namespace Store

/-- Removes the record of a key, if there is one. A key that is not there is no
fault. -/
def delete (s : Store) (key : Date × String) : Store :=
  ⟨s.rows.filter fun r => r.key != key⟩

/-- Replaces the record of the same key in its place, or adds the record at the
end. -/
def put (s : Store) (r : Stored) : Store := ⟨go s.rows⟩
where
  go : List Stored → List Stored
    | [] => [r]
    | old :: rest => if old.key = r.key then r :: rest else old :: go rest

/-- The store of rows in any order; of rows with one key the last counts. -/
def ofList (rows : List Stored) : Store := rows.foldl put ⟨[]⟩

/-- The records dated on or after a date, with their places. -/
def since (s : Store) (date : Date) : List (Member Stored) :=
  (Member.ofList s.rows).filter fun m => date ≤ m.record.date

/-- Deletes and then writes. New records belong to the account and its
currency. -/
def apply (s : Store) (account : Account) (currency : String) (now : DateTime)
    (i : Instruction) : Except Failure Store := do
  let deleted := (i.toDelete.map (·.record.key)).foldl delete s
  i.toUpsert.foldlM (fun s a =>
    return s.put (← a.toStored account currency none now)) deleted

end Store

/-- One batch of a session. -/
structure Fetch where
  provider : String
  batch : List (Member Reported)
  now : DateTime

/-- Reconciles a batch with a store, and the store afterwards. -/
def Store.sync (env : Environment) (account : Account) (currency : String)
    (s : Store) (f : Fetch) : Run (Instruction × Store) := do
  let env := { env with now := f.now }
  let i ← determineInstruction env account f.provider f.batch fun _ date =>
    pure (s.since date)
  let applied ← Run.ofExcept (s.apply account currency f.now i)
  return (i, applied)

/-- One step of a session: what came of it, and the store after it. -/
structure Step where
  before : Store
  outcome : Except Failure Instruction
  after : Store

/-- Runs a session. The supply of ids goes on from step to step, also after a
failure, so that no id is given twice. -/
def runSession (env : Environment) (account : Account) (currency : String) :
    Store → List Fetch → StateM Journal (List Step)
  | _, [] => pure []
  | s, f :: rest => do
    let step : Step ← do
      match ← (s.sync env account currency f).run with
      | .ok (i, applied) => pure ⟨s, .ok i, applied⟩
      | .error e => pure ⟨s, .error e, s⟩
    return step :: (← runSession env account currency step.after rest)

end LedgerSync
