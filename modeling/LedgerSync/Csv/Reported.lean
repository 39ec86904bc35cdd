import LedgerSync.Csv.Cell

/-!
# Rows of reported transactions

A row is read cell by cell, by the names of its fields; the first cell that
cannot be read decides. The details are present when at least one of their cells
says something, so a file without these columns gives transactions without
details.
-/

namespace LedgerSync.Csv

/-- The cells of a row by the names of their fields. -/
abbrev Fields := String → Option String

namespace ReportedRow

/-- The fields that must have a column. -/
def requiredFields : List String := ["date_time", "amount", "status", "type"]

/-- The fields that make up the details. -/
def detailFields : List String := [
  "booking_date", "value_date", "end_to_end_id", "creditor_name",
  "creditor_account", "debtor_name",
  "debtor_account", "exchange_rate_rate", "original_amount",
  "bank_transaction_code", "purpose_code",
  "remittance_information_structured", "remittance_information_unstructured"]

/-- The account in a field, of the kind in the field beside it; an IBAN unless
another is given. -/
def account? (get : Fields) (field : String) :
    Except Failure (Option AccountReference) := do
  match get field with
  | none => return none
  | some number =>
    let kind ← Cell.choice AccountKind (get (field ++ "_type"))
    return some ⟨kind.getD .iban, number⟩

/-- The exchange rate of a row, if it has one. -/
def exchangeRates (get : Fields) : Except Failure (List ExchangeRate) := do
  match ← Cell.optional Cell.amount (get "exchange_rate_rate") with
  | none => return []
  | some rate =>
    return [⟨get "exchange_rate_currency_from", get "exchange_rate_currency_to",
      some rate⟩]

/-- The amount in a foreign currency, if the row has one. -/
def foreignAmount? (get : Fields) : Except Failure (Option ForeignAmount) := do
  match ← Cell.optional Cell.amount (get "original_amount") with
  | none => return none
  | some amount => return some ⟨amount,
    (get "original_amount_currency").getD ""⟩

/-- The date-time in a field. -/
def dateTime? (reader : Reader) (zone : Zone) (get : Fields) (field : String) :
    Except Failure (Option DateTime) := do
  return (← Cell.optional (reader.moment zone) (get field)).map (·.toDateTime)

/-- The details of a row, if it has any. -/
def details? (reader : Reader) (zone : Zone) (get : Fields) :
    Except Failure (Option Extended) := do
  if detailFields.all fun f => (get f).isNone then return none
  let exchangeRates ← exchangeRates get
  let foreignAmount ← foreignAmount? get
  let bookingDate ← dateTime? reader zone get "booking_date"
  let valueDate ← dateTime? reader zone get "value_date"
  let creditorAccount ← account? get "creditor_account"
  let debtorAccount ← account? get "debtor_account"
  return some {
    bookingDate, valueDate, creditorAccount, debtorAccount, exchangeRates,
      foreignAmount
    endToEndId := get "end_to_end_id"
    creditorName := get "creditor_name"
    debtorName := get "debtor_name"
    bankTransactionCode := get "bank_transaction_code"
    purposeCode := get "purpose_code"
    remittanceStructured := get "remittance_information_structured"
    remittanceUnstructured := get "remittance_information_unstructured" }

def read (reader : Reader) (zone : Zone) (get : Fields) :
    Except Failure Reported := do
  let dateTime ← dateTime? reader zone get "date_time"
  let amount ← Cell.given (get "amount")
  let status ← Cell.choice Status (get "status")
  let direction ← Cell.choice Direction (get "type")
  let extended ← details? reader zone get
  Reported.make ⟨dateTime, amount, status, direction⟩ (get "external_id")
    (some ((get "description").getD "")) (get "category") (get "merchant")
      none extended

end ReportedRow

end LedgerSync.Csv
