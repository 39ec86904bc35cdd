import LedgerSync.Config.Merge
import LedgerSync.Config.Settings
import LedgerSync.Yaml.Document
import LedgerSync.Yaml.Writer

/-!
# The configuration file

The configuration is a file laid over the standard values. A list in the file
replaces the standard one as a whole, so the chain of a provider is never added
to: whoever configures one lists all of its matchers.

The standard values are kept as plain values, like those of a file. They are
what `standardText` writes into a new file, and what a file is laid over.
-/

namespace LedgerSync

namespace ProviderSettings

def chain (window : String) (matchers : List Value) : Value :=
  .record [("window", .text window), ("matchers", .list matchers)]

def link (name : String) : Value := .record [("name", .text name)]

/-- The chain of providers whose external ids are reliable, so that nothing else
needs to be compared. -/
def byExternalId : Value := chain "unbounded" [link "external-id-amount-strict"]

/-- The chains of all providers. -/
def standardChains : List (String × Value) := [
  ("ASN_BANK", byExternalId),
  ("BUNQ", byExternalId),
  ("RABOBANK", byExternalId),
  ("REGIO_BANK", byExternalId),
  ("SNS_BANK", byExternalId),
  ("TRIODOS_BANK_NL", chain "unbounded"
    [link "external-id-amount-strict", link "booking-date-amount-strict"]),
  ("KNAB_BANK_NL", chain "booking-date"
    [link "external-id-amount-strict", link "booking-date-amount-strict"]),
  ("ABN_AMRO", chain "unbounded"
    [link "external-id-amount-strict", link "booking-date-amount-strict",
     link "date-amount-strict"]),
  ("ING_NL", chain "unbounded"
    [link "external-id-amount-strict", link "booking-date-amount-strict",
     .record [("name", .text "booking-date-amount-strict"),
       ("without", .text "timestamp"), ("postfix", .text "noTs")]])]

end ProviderSettings

namespace Settings

def standardEntries : List (Value × Value) := [
  (.text "sync", SyncSettings.standard.toValue),
  (.text "matching", .record [
    ("placeholders", .texts Matching.Restriction.defaultPlaceholders),
    ("matchers", .record []),
    ("providers", .record ProviderSettings.standardChains)]),
  (.text "input", InputSettings.standard.toValue),
  (.text "output", OutputSettings.standard.toValue),
  (.text "logging", LoggingSettings.standard.toValue)]

def headerLines : List String := [
  "# Transaction Sync Reconciliation Configuration",
  "#",
  "# sync: stored window lookup and instruction building",
  "# matching.providers: per provider sync window selector (\"unbounded\" or",
  "#   \"booking-date\") and ordered matcher chain; matching.matchers adds",
  "#   equality matchers built from attribute selectors",
  "# logging.modules: level overrides per module, e.g. matching.engine: WARNING",
  ""]

/-- What is written above the standard configuration. -/
def header : String := String.join (headerLines.map (· ++ "\n"))

/-- The text of a file with the standard configuration. -/
def standardText : String := header ++ Yaml.document (.map standardEntries)

/-- Gives the entries of a configuration their shape. -/
def ofEntries (entries : List (Value × Value)) :
    Except (List ShapeFault) Settings :=
  (shape [] (.map entries)).toExcept

def standard : Run Settings := do
  Run.log .info .config "Using default configuration"
  Run.ofExcept ((ofEntries standardEntries).mapError .shape)

/-- The entries of a file: an empty file, and any other value that counts as
empty, has none. -/
def entriesOf? : Value → Option (List (Value × Value))
  | .map entries => some entries
  | .null | .bool false | .integer 0 | .text "" | .list [] => some []
  | .float d => if d.integer? == some 0 then some [] else none
  | _ => none

/-- The configuration that the value of a file describes. -/
def ofValue (path : String) (value : Value) : Except Failure Settings := do
  let some entries :=
    entriesOf? value | throw (.configuration (.notMapping path))
  let merged := Value.put (Value.merge standardEntries entries)
    (.text "config_file_path") (.text path)
  if merged.any fun e => e.1.text?.isNone then throw .notText
  (ofEntries merged).mapError fun faults =>
    .configuration (.misshapen path faults)

/-- The configuration in the text of a file, read into a value. -/
def load (path : String) (value : Option Value) : Run Settings := do
  Run.log .info .config s!"Loading configuration from: {path}"
  let some v := value | throw (.configuration (.notYaml path))
  Run.ofExcept (ofValue path v)

/-- The configuration in a file, or the standard one when there is no file. -/
def read (file : Option (String × String)) : Run Settings :=
  match file with
  | some (path, text) => load path (Yaml.read? text)
  | none => standard

end Settings

end LedgerSync
