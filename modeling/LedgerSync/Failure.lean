import LedgerSync.Calendar.Date
import LedgerSync.Decimal.Basic
import LedgerSync.Text.Integer
import LedgerSync.Text.Quoted

/-!
# Failures

Everything that can stop an operation, by cause. A cause keeps what its wording
needs and nothing else, so statements about failures are about causes, and the
wording can change without them.

`Failure.message?` words the causes that are shown to people; an arithmetic
failure, a date beyond the calendar and the like carry no wording of their own.
The wordings name records by their labels: amounts, names and account numbers
must not get into a log.
-/

namespace LedgerSync

/-- The two sides of a reconciliation: what the bank reported, and what is
stored. -/
inductive Side
  | reported
  | stored
  deriving DecidableEq, Repr

/-- The side as the first word of a sentence. -/
def Side.title : Side → String
  | .reported => "Upstream"
  | .stored => "Stored"

/-- The side within a sentence. -/
def Side.noun : Side → String
  | .reported => "upstream"
  | .stored => "stored"

/-- Why an amount has no value in cents. -/
inductive AmountFault
  | notFinite
  | notScalable
  | notExact
  | outOfRange
  deriving DecidableEq, Repr

namespace AmountFault

def message : AmountFault → String
  | .notFinite => "Amount is not a finite number."
  | .notScalable => "Amount cannot be scaled to cents."
  | .notExact => "Amount is not an exact number of cents."
  | .outOfRange => "Amount in cents does not fit a 64-bit integer."

end AmountFault

/-- Why a transaction record cannot be made. -/
inductive RecordFault
  | missingDateTime
  | unzonedDateTime
  | missingDate
  | missingStatus (side : Side)
  | missingDirection
  | missingAmount (side : Side)
  | amountNotNumeric (side : Side)
  deriving DecidableEq, Repr

def RecordFault.message : RecordFault → String
  | .missingDateTime => "Upstream transaction is missing its date/time."
  | .unzonedDateTime => "Upstream transaction date/time must be timezone aware."
  | .missingDate => "Stored transaction is missing its date."
  | .missingStatus side => s!"{side.title} transaction is missing its status."
  | .missingDirection => "Upstream transaction is missing its type."
  | .missingAmount side => s!"{side.title} transaction is missing its amount."
  | .amountNotNumeric side =>
  s!"{side.title} transaction has a non-numeric amount."

/-- Why a transaction cannot be taken out of an index; it is named by its
label. -/
inductive IndexFault
  | notListed (label : String)
  | alreadyRemoved (label : String)
  deriving DecidableEq, Repr

def IndexFault.message : IndexFault → String
  | .notListed label => s!"{label} is not part of this index."
  | .alreadyRemoved label => s!"{label} was already removed from this index."

/-- Where a value does not fit the shape of the configuration, and in which
way. -/
structure ShapeFault where
  place : List String
  kind : String
  deriving DecidableEq, Repr

/-- What is wrong with a configuration of matchers, providers or files. -/
inductive ConfigurationFault
  | matcherWithoutSelectors (matcher : String)
  | selectorNotUsed (matcher selector : String)
  | unknownAttribute (name : String) (known : List String)
  | unknownRestriction (name : String) (known : List String)
  | unknownMatcher (name : String) (known : List String)
  | unknownSelector (name : String) (known : List String)
  | matcherDefinedTwice (name : String)
  | unnamedProvider
  | noWindowSelector (provider : String)
  | emptyChain (provider : String)
  | providerTwice (provider : String)
  | providerNotConfigured (provider : String)
  | unknownWindow (provider window : String) (known : List String)
  | unknownTimeZone (name : String)
  | notYaml (path : String)
  | notMapping (path : String)
  | misshapen (path : String) (faults : List ShapeFault)
  deriving DecidableEq, Repr

namespace ConfigurationFault

/-- The wording. What a reader of the file adds after the path is left out. -/
def message : ConfigurationFault → String
  | .matcherWithoutSelectors m =>
  s!"Matcher {m} needs at least one attribute selector."
  | .selectorNotUsed m s => s!"Matcher {m} does not use selector {s}."
  | .unknownAttribute n known =>
    s!"Unknown attribute '{n}', expected one of {Text.quotedList known}."
  | .unknownRestriction n known =>
    s!"Unknown restriction '{n}', expected one of {Text.quotedList known}."
  | .unknownMatcher n known =>
  s!"Unknown matcher '{n}', expected one of {Text.quotedList known}."
  | .unknownSelector n known =>
    s!"Unknown attribute selector '{n}', expected one of {Text.quotedList known}."
  | .matcherDefinedTwice n => s!"Matcher '{n}' is already defined."
  | .unnamedProvider => "Provider configuration needs a provider name."
  | .noWindowSelector p => s!"Provider {p} has no sync window selector."
  | .emptyChain p => s!"Provider {p} has an empty matcher chain."
  | .providerTwice p => s!"Provider {p} is configured twice."
  | .providerNotConfigured p => s!"No matcher configuration for provider {p}."
  | .unknownWindow p w known =>
    s!"Provider {p} uses unknown window selector '{w}', expected one of {Text.quotedList known}."
  | .unknownTimeZone n => s!"Unknown time zone '{n}'."
  | .notYaml path => s!"Configuration file {path} is not valid YAML"
  | .notMapping path =>
  s!"Configuration file {path} must contain a mapping at the top level."
  | .misshapen path _ => s!"Invalid configuration in {path}"

end ConfigurationFault

/-- Transactions that a matcher chain could not account for, with tables that
list them. -/
inductive UnresolvedFault
  | reported (provider : String) (rejected duplicate : Nat)
    (rejectedRows duplicateRows : String)
  | storedRejected (provider : String) (count : Nat) (rows : String)
  | storedPeerless (provider : String) (count : Nat) (rows : String)
  | storedDuplicate (provider : String) (count : Nat) (rows : String)
  deriving DecidableEq, Repr

def UnresolvedFault.message : UnresolvedFault → String
  | .reported p rejected duplicate rejectedRows duplicateRows =>
    s!"Found {rejected} rejected and {duplicate} duplicate upstream transaction(s) " ++
    s!"for provider {p}. A change to the attribute matching is required.\n\n" ++
    s!"Rejected transactions:\n{rejectedRows}\n\nDuplicate transactions:\n{duplicateRows}"
  | .storedRejected p n rows =>
    s!"Found {n} rejected stored transaction(s) for provider {p}. " ++
    s!"A change to the attribute matching is required.\n\nRejected transactions:\n{rows}"
  | .storedPeerless p n rows =>
    s!"Found {n} unmatched (PEERLESS) stored transaction(s) for provider {p}.\n\n{rows}"
  | .storedDuplicate p n rows =>
    s!"Found {n} unmatched (DUPLICATE) stored transaction(s) for provider {p}.\n\n{rows}"

/-- Why a cell of a file cannot be read. -/
inductive CellFault
  | dateTime (text : String)
  | date (text : String)
  | amount (text : String)
  | choice (kind text : String) (allowed : List String)
  | uuidForm
  | uuidRange
  | integer (fault : Text.IntegerFault)
  | missing (label : String)
  deriving DecidableEq, Repr

def CellFault.message : CellFault → String
  | .dateTime t => s!"invalid date/time '{t}'"
  | .date t => s!"invalid date '{t}'"
  | .amount t => s!"invalid amount '{t}'"
  | .choice kind t allowed =>
    let list := ", ".intercalate allowed
    s!"invalid {kind} '{t}', expected one of {list}"
  | .uuidForm => "badly formed hexadecimal UUID string"
  | .uuidRange => "int is out of range (need a 128-bit value)"
  | .integer f => f.message
  | .missing label => s!"missing {label}"

/-- Why a file of transactions cannot be read. -/
inductive FileFault
  | unreadable (path : String)
  | missingColumns (side : Side) (columns : List String)
  | row (side : Side) (line : Int) (reason : String)
  deriving DecidableEq, Repr

/-- The wording. What a reader of the file adds after the path is left out. -/
def FileFault.message : FileFault → String
  | .unreadable path => s!"Failed to read CSV file {path}"
  | .missingColumns side columns =>
    let list := ", ".intercalate columns
    s!"{side.title} CSV is missing required column(s): {list}"
  | .row side line reason => s!"{side.title} CSV line {line}: {reason}"

/-- Why there is no file to be had at a path. -/
inductive DiskFault
  /-- Something above the folder is a file. -/
  | notFolder (path : String)
  /-- The folder is a file. -/
  | fileExists (path : String)
  /-- The file is a folder. -/
  | isFolder (path : String)
  deriving DecidableEq, Repr

/-- The wording, with the number of the fault in front. -/
def DiskFault.message : DiskFault → String
  | .notFolder path => s!"[Errno 20] Not a directory: {Text.quoted path}"
  | .fileExists path => s!"[Errno 17] File exists: {Text.quoted path}"
  | .isFolder path => s!"[Errno 21] Is a directory: {Text.quoted path}"

/-- Why a report cannot be written. -/
inductive ReportFault
  | allSheetsDisabled
  | notWritable (path : String) (fault : DiskFault)
  deriving DecidableEq, Repr

def ReportFault.message : ReportFault → String
  | .allSheetsDisabled => "All report sheets are disabled."
  | .notWritable path fault => s!"Failed to save report {path}: {fault.message}"

/-- An argument that an operation does not accept. -/
inductive ArgumentFault
  | noSelectorResults
  | multiMatchTooSmall
  | multiMatchWithoutAttributes
  | verdictWithoutAttributes (reason : String)
  | emptyChain
  | intervalReversed
  | noBookingDate (label : String)
  | windowWithoutReported
  | emptiedWindow (bound : String)
  | noBookedReported
  | emptyBatch
  | notBooked (side : Side)
  | accountUnknown
  | sheetTitle (character : Char)
  | signalingNumber
  | template (text : String)
  | logFormat (format : String)
  | cell (fault : CellFault)
  deriving DecidableEq, Repr

namespace ArgumentFault

def message : ArgumentFault → String
  | .noSelectorResults =>
  "The list of attribute selector results cannot be empty."
  | .multiMatchTooSmall =>
  "A multi-match requires at least two stored transactions."
  | .multiMatchWithoutAttributes =>
  "A multi-match requires at least one attribute."
  | .verdictWithoutAttributes r =>
  s!"Unmatched transaction with reason {r} must carry attributes."
  | .emptyChain => "A match result chain needs an initial result."
  | .intervalReversed => "End must not be before start"
  | .noBookingDate label =>
    s!"{label} has no booking date, cannot truncate to a bounded window."
  | .windowWithoutReported => "Unable to select sync window, upstream is empty"
  | .emptiedWindow bound =>
  s!"Sync window {bound} left no upstream transactions."
  | .noBookedReported => "At least one booked upstream transaction is required."
  | .emptyBatch => "Upstream transactions must not be empty."
  | .notBooked side =>
  s!"Attribute matching only operates on booked {side.noun} transactions."
  | .accountUnknown =>
  "--user-id and --account-id are required when the stored file is empty."
  | .sheetTitle c => s!"Invalid character {c} found in sheet title"
  | .signalingNumber => "cannot convert signaling NaN to float"
  | .template text => text
  | .logFormat format => s!"Invalid format '{format}' for '%' style"
  | .cell f => f.message

end ArgumentFault

/-- Why an operation stopped. -/
inductive Failure where
  | amount (fault : AmountFault)
  | record (fault : RecordFault)
  | index (fault : IndexFault)
  | configuration (fault : ConfigurationFault)
  | unresolved (fault : UnresolvedFault)
  | unprocessed (side : Side) (count : Nat) (provider : String)
  | chain (matcher : Option String) (actual expected : Nat)
  | file (fault : FileFault)
  | report (fault : ReportFault)
  | disk (fault : DiskFault)
  | argument (fault : ArgumentFault)
  | storage (text : String)
  | shape (faults : List ShapeFault)
  | arithmetic (signal : Decimal.Signal)
  | beyondCalendar
  | incomparable
  | noSuchKey
  | noSuchPosition
  | noSuchAttribute
  | noSuchEncoding
  | notText
  /-- A text for a sheet holds a character that no sheet can hold. -/
  | refusedCharacter
  deriving DecidableEq, Repr

namespace Failure

/-- The wording shown to people, for the causes that have one. -/
def message? : Failure → Option String
  | .amount f => some f.message
  | .record f => some f.message
  | .index f => some f.message
  | .configuration f => some f.message
  | .unresolved f => some f.message
  | .unprocessed side n p =>
    some s!"Found {n} unprocessed {side.noun} transaction(s) for provider {p}."
  | .chain matcher actual expected =>
    let name := matcher.getD "<unknown>"
    some s!"Matcher {name} produced {actual} transactions, expected {expected}."
  | .file f => some f.message
  | .report f => some f.message
  | .argument f => some f.message
  | .storage text => some text
  | _ => none

/-- Whether the failure lies in the transactions, the configuration or the
files, as a run may tell its user. -/
def isReportable : Failure → Bool
  | .amount _ | .record _ | .index _ | .configuration _ | .unresolved
    _ | .unprocessed ..
  | .file _ | .report _ => true
  | _ => false

/-- Whether the failure is an argument that was not accepted. -/
def isArgument : Failure → Bool
  | .argument _ => true
  | _ => false

end Failure

end LedgerSync
