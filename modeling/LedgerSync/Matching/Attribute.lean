import LedgerSync.Transaction.View

/-!
# Attributes

An attribute is a named part of a transaction. The key under which a matcher
files a transaction is a set of attributes, so keys are compared as sets:
neither the order of the selectors nor two selectors of one field make a
difference. Values are compared by what they mean, so two texts of one moment
are one value.
-/

namespace LedgerSync.Matching

/-- The parts of a transaction that can be compared. They are those that both
sides of a reconciliation have. -/
inductive Field
  | externalId
  | endToEndId
  | amount
  | date
  | bookingDate
  | timestamp
  | creditorName
  | creditorAccount
  | debtorName
  | debtorAccount
  | description
  deriving DecidableEq, Repr

namespace Field

def all : List Field := [
  .externalId, .endToEndId, .amount, .date, .bookingDate, .timestamp,
  .creditorName, .creditorAccount, .debtorName, .debtorAccount, .description]

def name : Field → String
  | .externalId => "external-id"
  | .endToEndId => "end-to-end-id"
  | .amount => "amount"
  | .date => "date"
  | .bookingDate => "booking-date"
  | .timestamp => "timestamp"
  | .creditorName => "creditor-name"
  | .creditorAccount => "creditor-account-nr"
  | .debtorName => "debtor-name"
  | .debtorAccount => "debtor-account-nr"
  | .description => "description"

def ofName? (s : String) : Option Field := all.find? fun f => f.name == s

def sortedNames : List String := (all.map name).mergeSort fun a b => !(b < a)

end Field

inductive Content
  | text (s : String)
  | cents (n : Int)
  | date (d : Date)
  | moment (m : Moment)
  deriving DecidableEq, Repr

namespace Content

/-- Whether two values are equal; moments are compared as points in time,
however they are written. -/
def same : Content → Content → Bool
  | .text a, .text b => a == b
  | .cents a, .cents b => a == b
  | .date a, .date b => a == b
  | .moment a, .moment b => a.same b
  | _, _ => false

/-- The value as text, for the conditions that look at texts. A space divides a
date from the time of day. -/
def shown : Content → String
  | .text s => s
  | .cents n => Text.integerText n
  | .date d => d.text
  | .moment m => m.date.text ++ " " ++ m.wall.timeText ++
  Zone.offsetText m.offset

end Content

/-- A named part of a transaction; absent when the transaction does not have it.
The name tells apart equal values of different fields. -/
structure Attribute where
  name : String
  value : Option Content
  deriving DecidableEq, Repr

namespace Attribute

/-- Whether two attributes have one name and equal values. -/
def same (a b : Attribute) : Bool :=
  a.name == b.name &&
  match a.value, b.value with
  | some x, some y => x.same y
  | none, none => true
  | _, _ => false

/-- Whether the value is there and not blank. -/
def hasContent (a : Attribute) : Bool :=
  a.value.any fun v => Text.hasContent v.shown

end Attribute

/-- The attribute that a view has for a field. Only the amount and the time may
fail, since the others are read as they are. -/
def Field.extract (f : Field) (v : View) : Except Failure Attribute := do
  let texts := fun t : Option String => t.map Content.text
  let value ← match f with
    | .externalId => pure (texts v.externalId)
    | .endToEndId => pure (texts v.endToEndId)
    | .amount => return ⟨f.name, some (.cents (← v.cents))⟩
    | .date => pure (some (.date v.date))
    | .bookingDate => pure (v.bookingDate.map .date)
    | .timestamp => return ⟨f.name, (← v.timestamp).map .moment⟩
    | .creditorName => pure (texts v.creditorName)
    | .creditorAccount => pure (texts v.creditorAccount)
    | .debtorName => pure (texts v.debtorName)
    | .debtorAccount => pure (texts v.debtorAccount)
    | .description => pure (texts v.description)
  return ⟨f.name, value⟩

/-- A field cannot be extracted where its part of the view fails. -/
theorem Field.failure_of_extract (f : Field) {v : View} {e : Failure}
    (h : f.extract v = .error e) :
    v.cents = .error e ∨ v.timestamp = .error e := by
  cases f with
  | amount =>
    cases hcents : v.cents with
    | error e' =>
      simp only [extract, hcents] at h
      cases h
      exact .inl rfl
    | ok n =>
      simp only [extract, hcents] at h
      cases h
  | timestamp =>
    cases htime : v.timestamp with
    | error e' =>
      simp only [extract, htime] at h
      cases h
      exact .inr rfl
    | ok m =>
      simp only [extract, htime] at h
      cases h
  | _ => cases h

/-- A set of attributes, in the order in which they were first extracted. The
order is for showing, and does not count in comparisons. -/
abbrev Key := List Attribute

namespace Key

def ofList (as : List Attribute) : Key :=
  as.foldl (fun k a => if k.any a.same then k else k ++ [a]) []

/-- Whether two sets hold equal attributes. Neither holds an attribute twice, so
it is enough to look for those of one among the other. -/
def same (k l : Key) : Bool :=
  k.length == l.length && k.all fun a => l.any a.same

end Key

end LedgerSync.Matching
