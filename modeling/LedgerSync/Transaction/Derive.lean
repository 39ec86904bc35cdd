import LedgerSync.Transaction.View

/-!
# The stored record of a reported transaction

What a reported transaction looks like in storage, given the id to store it
under. The same derivation writes new records and decides whether a stored one
has changed: the record is derived again and compared. So a record that is
written and reported once more unchanged is not written again.

Some of a report is lost on the way: timestamps are kept in universal time to
the millisecond, dates lose their time of day, and an account number goes into
the column of its kind.
-/

namespace LedgerSync

/-- A reported transaction with the id it is stored under. -/
structure Assigned where
  member : Member Reported
  id : String
  fillKind : FillKind
  deriving DecidableEq, Repr

/-- The account that records are written to. -/
structure Account where
  userId : Uuid
  accountId : Uuid
  deriving DecidableEq, Repr

/-- The number of an account reference of one kind; none for the other kinds. -/
def AccountReference.ofKind (kind : AccountKind) (r : Option AccountReference) :
    Option String :=
  (r.filter fun a => a.kind == kind).map (·.number)

/-- A counterparty as it is stored. -/
def Party.ofReference (name : Option String) (r : Option AccountReference) :
    Party := {
  name
  iban := AccountReference.ofKind .iban r
  bban := AccountReference.ofKind .bban r
  maskedPan := AccountReference.ofKind .maskedPan r
  pan := AccountReference.ofKind .pan r
  sortCodeAccountNumber := AccountReference.ofKind .sortCodeAccountNumber r }

/-- What a bank added to a transaction, as it is stored: dates lose their time
of day and keep their zone's day, and of several exchange rates the first is
kept. -/
def Stored.withExtended (s : Stored) (e : Extended) : Stored := {
  s with
  bookingDate := e.bookingDate.map (·.date)
  valueDate := e.valueDate.map (·.date)
  endToEndId := e.endToEndId
  creditor := Party.ofReference e.creditorName e.creditorAccount
  debtor := Party.ofReference e.debtorName e.debtorAccount
  bankTransactionCode := e.bankTransactionCode
  purposeCode := e.purposeCode
  exchangeRate := e.exchangeRates.head?.getD ⟨none, none, none⟩
  foreignAmount := e.foreignAmount.map (·.amount)
  foreignCurrency := e.foreignAmount.map (·.currency)
  remittanceStructured := e.remittanceStructured
  remittanceUnstructured := e.remittanceUnstructured }

/-- The stored record of a reported transaction, written at `now`. A record that
replaces another keeps the time at which that one was created. -/
def Reported.toStored (t : Reported) (account : Account) (id currency : String)
    (fillKind : FillKind) (createdAt : Option DateTime) (now : DateTime) :
    Except Failure Stored := do
  let amount ← t.signedAmount
  let timestamp ← t.timestamp
  let record := {
    Stored.plain account.userId account.accountId t.date id t.status amount
      currency with
    description := t.description
    timestamp := some timestamp
    timeZone := some t.dateTime.offsetLabel
    externalId := t.externalId
    category := t.category
    merchant := t.merchant
    bankFields := t.bankFields
    lastUpdated := some now.toMillis
    createdAt := some (createdAt.getD now.toMillis)
    fillKind := some fillKind }
  return match t.extended with
    | none => record
    | some e => record.withExtended e

def Assigned.toStored (a : Assigned) (account : Account) (currency : String)
    (createdAt : Option DateTime) (now : DateTime) : Except Failure Stored :=
  a.member.record.toStored account a.id currency a.fillKind createdAt now

end LedgerSync
