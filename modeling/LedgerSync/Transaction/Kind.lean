import LedgerSync.Failure
import LedgerSync.Text.Case

/-!
# The small vocabularies of transactions

Booking status, direction, kind of account number, and how a record came into
storage. Each is read by name in any case and written in upper case. They are
vocabularies of one kind (`Vocabulary`), so reading and writing are said once
for all of them.
-/

namespace LedgerSync

/-- Whether the bank has booked the transaction. -/
inductive Status
  | booked
  | pending
  deriving DecidableEq, Repr

/-- Whether money came in or went out, seen by the account holder. -/
inductive Direction
  | credit
  | debit
  deriving DecidableEq, Repr

inductive AccountKind
  | iban
  | bban
  | pan
  | maskedPan
  | sortCodeAccountNumber
  deriving DecidableEq, Repr

/-- How a record came into storage: regularly, or as history older than what was
stored. -/
inductive FillKind
  | regular
  | backfilled
  deriving DecidableEq, Repr

/-- A small vocabulary: its name, its members in order, and the word for
each. -/
class Vocabulary (α : Type) where
  title : String
  members : List α
  word : α → String

namespace Vocabulary

/-- The member with exactly this word. -/
def find? (α : Type) [Vocabulary α] (s : String) : Option α :=
  (members : List α).find? fun a => word a == s

/-- The member with this word in any case, as people write it into files. -/
def read (α : Type) [Vocabulary α] (s : String) : Except CellFault α :=
  match find? α (Text.toUpper s) with
  | some a => .ok a
  | none => .error (.choice (title α) s ((members : List α).map word))

end Vocabulary

instance : Vocabulary Status where
  title := "TransactionStatus"
  members := [.booked, .pending]
  word
    | .booked => "BOOKED"
    | .pending => "PENDING"

instance : Vocabulary Direction where
  title := "TransactionType"
  members := [.credit, .debit]
  word
    | .credit => "CREDIT"
    | .debit => "DEBIT"

instance : Vocabulary AccountKind where
  title := "AccountReferenceType"
  members := [.iban, .bban, .pan, .maskedPan, .sortCodeAccountNumber]
  word
    | .iban => "IBAN"
    | .bban => "BBAN"
    | .pan => "PAN"
    | .maskedPan => "MASKED_PAN"
    | .sortCodeAccountNumber => "SORTCODEACCOUNTNUMBER"

instance : Vocabulary FillKind where
  title := "FillType"
  members := [.regular, .backfilled]
  word
    | .regular => "REGULAR"
    | .backfilled => "BACKFILLED"

def Status.word (s : Status) : String := Vocabulary.word s

def Direction.word (d : Direction) : String := Vocabulary.word d

def FillKind.word (k : FillKind) : String := Vocabulary.word k

end LedgerSync
