import LedgerSync.Calendar.Moment
import LedgerSync.Decimal.Read
import LedgerSync.Transaction.Kind
import LedgerSync.Uuid

/-!
# Transaction records

A `Reported` transaction is what the bank delivered in the current fetch: its
amount has no sign, its direction gives it one. A `Stored` transaction is a
record kept from an earlier fetch: its amount is signed, and it is found in
storage by user, account, date and id.

Both are made by `make`, which checks the parts that must be there. Everything
else is optional, because banks differ in what they send. Records are named by
their ids in messages, and their contents stay out of them.
-/

namespace LedgerSync

/-- Free fields of a bank, by name. The pairs are sorted by name and no name
occurs twice, so equal maps are equal lists. -/
structure BankFields where
  pairs : List (String × String)
  deriving DecidableEq, Repr

namespace BankFields

/-- Puts a field into its place among sorted ones; a field of the same name is
replaced. -/
def put (name value : String) : List (String × String) → List (String × String)
  | [] => [(name, value)]
  | (n, v) :: rest =>
    if name = n then (name, value) :: rest
    else if name < n then (name, value) :: (n, v) :: rest
    else (n, v) :: put name value rest

/-- Fields from pairs in any order; of pairs with one name the last counts. -/
def ofList (pairs : List (String × String)) : BankFields :=
  ⟨pairs.foldl (fun fields p => put p.1 p.2 fields) []⟩

end BankFields

/-- A counterparty's account number and its kind. -/
structure AccountReference where
  kind : AccountKind
  number : String
  deriving DecidableEq, Repr

/-- A conversion between currencies that the bank applied. -/
structure ExchangeRate where
  source : Option String
  target : Option String
  rate : Option Decimal
  deriving DecidableEq, Repr

/-- An amount in the currency in which the transaction was made. -/
structure ForeignAmount where
  amount : Decimal
  currency : String
  deriving DecidableEq, Repr

/-- What a bank may add to a transaction. -/
structure Extended where
  bookingDate : Option DateTime
  valueDate : Option DateTime
  endToEndId : Option String
  creditorName : Option String
  creditorAccount : Option AccountReference
  debtorName : Option String
  debtorAccount : Option AccountReference
  exchangeRates : List ExchangeRate
  foreignAmount : Option ForeignAmount
  bankTransactionCode : Option String
  purposeCode : Option String
  remittanceStructured : Option String
  remittanceUnstructured : Option String
  deriving DecidableEq, Repr

/-- A transaction as the bank reports it. The id that the bank gives is optional
and need not be unique. -/
structure Reported where
  externalId : Option String
  dateTime : Moment
  amount : Decimal
  status : Status
  direction : Direction
  description : Option String
  category : Option String
  merchant : Option String
  bankFields : Option BankFields
  extended : Option Extended
  deriving DecidableEq, Repr

/-- An amount as it was handed in: absent, not a number, or a number. -/
inductive GivenAmount
  | absent
  | notNumeric
  | number (d : Decimal)
  deriving DecidableEq, Repr

/-- The number that was handed in. -/
def GivenAmount.get (side : Side) : GivenAmount → Except Failure Decimal
  | .absent => .error (.record (.missingAmount side))
  | .notNumeric => .error (.record (.amountNotNumeric side))
  | .number d => .ok d

/-- The amount that a text stands for. -/
def GivenAmount.ofText (s : String) : GivenAmount :=
  match Decimal.ofText? s with
  | some d => .number d
  | none => .notNumeric

namespace Reported

/-- The mandatory parts of a reported transaction as they were handed in. -/
structure Draft where
  dateTime : Option DateTime
  amount : GivenAmount
  status : Option Status
  direction : Option Direction

/-- Makes a record. The first mandatory part that is missing is named. -/
def make (draft : Draft)
    (externalId description category merchant : Option String)
    (bankFields : Option BankFields) (extended : Option Extended) :
    Except Failure Reported := do
  let some dateTime := draft.dateTime | throw (.record .missingDateTime)
  let some moment := dateTime.moment? | throw (.record .unzonedDateTime)
  let some status := draft.status | throw (.record (.missingStatus .reported))
  let some direction := draft.direction | throw (.record .missingDirection)
  let amount ← draft.amount.get .reported
  return {
    externalId, dateTime :=
      moment, amount, status, direction, description, category, merchant,
    bankFields, extended }

/-- The local date in the transaction's own zone. -/
def date (t : Reported) : Date := t.dateTime.date

/-- How the transaction is named in messages; its contents stay out of them. -/
def label (t : Reported) : String :=
  s!"UpstreamTransaction(status={t.status.word}, type={t.direction.word})"

end Reported

/-- A counterparty in storage: a name, and an account number in the column of
its kind. -/
structure Party where
  name : Option String
  iban : Option String
  bban : Option String
  maskedPan : Option String
  pan : Option String
  sortCodeAccountNumber : Option String
  deriving DecidableEq, Repr

def Party.none : Party := ⟨.none, .none, .none, .none, .none, .none⟩

/-- A transaction kept from an earlier fetch, with the id under which it is
kept. -/
structure Stored where
  userId : Uuid
  accountId : Uuid
  date : Date
  id : String
  status : Status
  amount : Decimal
  currency : String
  description : Option String
  timestamp : Option Moment
  timeZone : Option String
  bookingDate : Option Date
  valueDate : Option Date
  externalId : Option String
  endToEndId : Option String
  creditor : Party
  debtor : Party
  exchangeRate : ExchangeRate
  foreignAmount : Option Decimal
  foreignCurrency : Option String
  bankTransactionCode : Option String
  purposeCode : Option String
  bankFields : Option BankFields
  category : Option String
  merchant : Option String
  remittanceStructured : Option String
  remittanceUnstructured : Option String
  lastUpdated : Option DateTime
  createdAt : Option DateTime
  fillKind : Option FillKind
  deriving DecidableEq, Repr

namespace Stored

/-- The mandatory parts of a stored transaction as they were handed in. -/
structure Draft where
  date : Option Date
  status : Option Status
  amount : GivenAmount

/-- A record with nothing but its identity and its mandatory parts. -/
def plain (userId accountId : Uuid) (date : Date) (id : String)
    (status : Status) (amount : Decimal) (currency : String) : Stored := {
  userId, accountId, date, id, status, amount, currency
  description := none, timestamp := none, timeZone := none, bookingDate :=
    none, valueDate := none
  externalId := none, endToEndId := none, creditor := Party.none, debtor :=
    Party.none
  exchangeRate := ⟨none, none, none⟩, foreignAmount :=
    none, foreignCurrency := none
  bankTransactionCode := none, purposeCode := none, bankFields :=
    none, category := none
  merchant := none, remittanceStructured := none, remittanceUnstructured := none
  lastUpdated := none, createdAt := none, fillKind := none }

/-- Makes a record; the first mandatory part that is missing is named. -/
def make (userId accountId : Uuid) (id currency : String) (draft : Draft) :
    Except Failure Stored := do
  let some date := draft.date | throw (.record .missingDate)
  let some status := draft.status | throw (.record (.missingStatus .stored))
  let amount ← draft.amount.get .stored
  return plain userId accountId date id status amount currency

/-- How the transaction is named in messages. -/
def label (t : Stored) : String :=
  s!"StoredTransaction(id={t.id}, date={t.date.text}, status={t.status.word})"

/-- Under what a record is found in the storage of one account. The date is part
of it, so a record whose date changes has to be deleted first. -/
def key (t : Stored) : Date × String := (t.date, t.id)

/-- Whether two optional timestamps are absent or equal. -/
def sameTimestamp : Option Moment → Option Moment → Bool
  | some a, some b => a.same b
  | none, none => true
  | _, _ => false

/-- Whether two optional numbers are absent or equal in value. -/
def sameNumber : Option Decimal → Option Decimal → Except Failure Bool
  | some a, some b => (a.equal b).mapError .arithmetic
  | none, none => .ok true
  | _, _ => .ok false

/-- The parts compared before the amount. -/
def sameIdentity (a b : Stored) : Bool :=
  a.userId == b.userId && a.accountId == b.accountId &&
  a.date == b.date && a.id == b.id && a.status == b.status

/-- The parts compared after the amount and before the exchange rate. -/
def sameDetails (a b : Stored) : Bool :=
  a.currency == b.currency && a.description == b.description &&
  sameTimestamp a.timestamp b.timestamp && a.timeZone == b.timeZone &&
  a.bookingDate == b.bookingDate && a.valueDate == b.valueDate &&
  a.externalId == b.externalId && a.endToEndId == b.endToEndId &&
  a.creditor == b.creditor && a.debtor == b.debtor &&
  a.exchangeRate.source == b.exchangeRate.source &&
  a.exchangeRate.target == b.exchangeRate.target

/-- The parts compared last. -/
def sameRemainder (a b : Stored) : Bool :=
  a.foreignCurrency == b.foreignCurrency &&
  a.bankTransactionCode == b.bankTransactionCode &&
  a.purposeCode == b.purposeCode && a.bankFields == b.bankFields &&
  a.category == b.category && a.merchant == b.merchant &&
  a.remittanceStructured == b.remittanceStructured &&
  a.remittanceUnstructured == b.remittanceUnstructured

/-- Whether two records have the same content. When they were written and how
they came into storage is not content. The comparison stops at the first
difference, so a number that cannot be compared matters only when all before it
agrees. -/
def same (a b : Stored) : Except Failure Bool := do
  if !a.sameIdentity b then return false
  if !(← sameNumber (some a.amount) (some b.amount)) then return false
  if !a.sameDetails b then return false
  if !(← sameNumber a.exchangeRate.rate b.exchangeRate.rate) then return false
  if !(← sameNumber a.foreignAmount b.foreignAmount) then return false
  return a.sameRemainder b

end Stored

end LedgerSync
