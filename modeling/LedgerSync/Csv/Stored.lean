import LedgerSync.Csv.Reported

/-!
# Rows of stored transactions

A row is read in the order in which its faults are to be reported: the id and
the currency first, then whose it is, then the rest. Stored transactions are
written by the program itself, so a fault here means that the file was changed
by hand or belongs to something else.
-/

namespace LedgerSync.Csv

namespace StoredRow

/-- The fields that must have a column. -/
def requiredFields : List String :=
  ["user_id", "account_id", "date", "id", "status", "amount", "currency"]

/-- The date in a field. -/
def date? (reader : Reader) (get : Fields) (field : String) :
    Except Failure (Option Date) := do
  return (← Cell.optional reader.date (get field)).bind (·.date?)

/-- The date that a record must have. One that is explicitly none counts as
missing. -/
def date (reader : Reader) (get : Fields) : Except Failure (Option Date) := do
  return (← Cell.required "date" reader.date (get "date")).date?

/-- The counterparty in the fields of a side. -/
def party (get : Fields) (side : String) : Party := {
  name := get (side ++ "_name")
  iban := get (side ++ "_iban")
  bban := get (side ++ "_bban")
  maskedPan := get (side ++ "_masked_pan")
  pan := get (side ++ "_pan")
  sortCodeAccountNumber := get (side ++ "_sort_code_account_number") }

def read (reader : Reader) (zone : Zone) (get : Fields) :
    Except Failure Stored := do
  let id ← Cell.required "transaction id" .ok (get "id")
  let currency ← Cell.required "currency" .ok (get "currency")
  let userId ← Cell.required "user id" Uuid.ofText (get "user_id")
  let accountId ← Cell.required "account id" Uuid.ofText (get "account_id")
  let date ← date reader get
  let status ← Cell.choice Status (get "status")
  let amount ← Cell.given (get "amount")
  let timestamp ← Cell.optional (reader.moment zone) (get "timestamp")
  let bookingDate ← date? reader get "booking_date"
  let valueDate ← date? reader get "value_date"
  let rate ← Cell.optional Cell.amount (get "exchange_rate_rate")
  let foreignAmount ← Cell.optional Cell.amount (get "original_amount_amount")
  let lastUpdated ← ReportedRow.dateTime? reader zone get "last_updated_time"
  let createdAt ← ReportedRow.dateTime? reader zone get "created_at"
  let fillKind ← Cell.choice FillKind (get "fill_type")
  let record ← Stored.make userId accountId id currency ⟨date, status, amount⟩
  return { record with
    timestamp, bookingDate, valueDate, foreignAmount, lastUpdated,
      createdAt, fillKind
    description := some ((get "description").getD "")
    timeZone := get "time_zone"
    externalId := get "external_id"
    endToEndId := get "end_to_end_id"
    creditor := party get "creditor"
    debtor := party get "debtor"
    exchangeRate := ⟨get "exchange_rate_currency_from",
      get "exchange_rate_currency_to", rate⟩
    foreignCurrency := get "original_amount_currency"
    bankTransactionCode := get "bank_transaction_code"
    purposeCode := get "purpose_code"
    category := get "original_category"
    merchant := get "original_merchant_name"
    remittanceStructured := get "remittance_information_structured"
    remittanceUnstructured := get "remittance_information_unstructured" }

end StoredRow

end LedgerSync.Csv
