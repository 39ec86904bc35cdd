import LedgerSync.Transaction.Amount

/-!
# Views

Matchers see both sides of a reconciliation through one `View`, which hides what
kind of record is behind it. Only a stored transaction has an internal id.
Looking at a part that cannot be derived fails, so those parts are held as
results.

A view shows what was stored in the form in which it would be reported, and what
is reported in the form in which it would be stored: amounts in signed cents,
times in universal time to the millisecond, and account numbers without their
kind. Otherwise a transaction would not be found again in its own record.
-/

namespace LedgerSync

/-- What matchers see of a transaction. The parts that may fail are held as
results, so that a failure shows only where the part is looked at. -/
structure View where
  internalId : Option String
  externalId : Option String
  cents : Except Failure Int
  date : Date
  status : Status
  bookingDate : Option Date
  timestamp : Except Failure (Option Moment)
  debtorName : Option String
  debtorAccount : Option String
  creditorName : Option String
  creditorAccount : Option String
  description : Option String
  endToEndId : Option String
  label : String

/-- Records that matchers can look at. -/
class Viewable (α : Type) where
  view : α → View

export Viewable (view)

/-- The first text with content. -/
def firstWithContent (texts : List (Option String)) : Option String :=
  texts.findSome? fun t => t.filter Text.hasContent

/-- A moment in universal time, to the millisecond. -/
def Moment.utcMillis (m : Moment) : Except Failure Moment :=
  match m.toUtc? with
  | some u => .ok u.toMillis
  | none => .error .beyondCalendar

namespace Reported

/-- The date on which the bank booked the transaction. -/
def bookingDate (t : Reported) : Option Date :=
  t.extended.bind fun e => e.bookingDate.map (·.date)

/-- The timestamp in universal time. -/
def timestamp (t : Reported) : Except Failure Moment := t.dateTime.utcMillis

instance : Viewable Reported where
  view t := {
    internalId := none
    externalId := t.externalId
    cents := t.cents
    date := t.date
    status := t.status
    bookingDate := t.bookingDate
    timestamp := t.timestamp.map some
    debtorName := t.extended.bind (·.debtorName)
    debtorAccount := t.extended.bind fun e => e.debtorAccount.map (·.number)
    creditorName := t.extended.bind (·.creditorName)
    creditorAccount := t.extended.bind fun e => e.creditorAccount.map (·.number)
    description := t.description
    endToEndId := t.extended.bind (·.endToEndId)
    label := "UpstreamGeneralizedTransaction(internal_id=None)" }

end Reported

/-- The account number of a counterparty: of the columns with content, the first
in the order of domestic, international, card, masked card and sort code
number. -/
def Party.account (p : Party) : Option String :=
  firstWithContent [p.bban, p.iban, p.pan, p.maskedPan, p.sortCodeAccountNumber]

instance : Viewable Stored where
  view t := {
    internalId := some t.id
    externalId := t.externalId
    cents := t.cents
    date := t.date
    status := t.status
    bookingDate := t.bookingDate
    timestamp := .ok (t.timestamp.map (·.toMillis))
    debtorName := t.debtor.name
    debtorAccount := t.debtor.account
    creditorName := t.creditor.name
    creditorAccount := t.creditor.account
    description := t.description
    endToEndId := t.endToEndId
    label := s!"StoredGeneralizedTransaction(internal_id={t.id})" }

/-- A member of a batch. The key tells which record of the batch it is: two
equal records have two keys, and a record that is listed twice has one. -/
structure Member (α : Type) where
  key : Nat
  record : α
  deriving DecidableEq, Repr

/-- The members of a batch that lists every record once. -/
def Member.ofList (records : List α) : List (Member α) :=
  records.zipIdx.map fun r => ⟨r.2, r.1⟩

instance [Viewable α] : Viewable (Member α) where
  view m := view m.record

end LedgerSync
