import LedgerSync.Config.Shape
import LedgerSync.Matching.Provider
import LedgerSync.Sync.Settings

/-!
# Settings

The sections of the configuration. Every section is a structure with three
companions: `shape` says how it is read, field by field with the values that
stand for missing ones; `standard` has the values that hold unless others are
given; and `toValue` writes it as a plain value.

The matching section describes a registry of providers, which
`MatchingSettings.registry` makes. Configured matchers add to the built-in ones,
and a chain refers to them by name. A mistake in a name is a failure and not an
empty chain, since a provider without a chain would be reconciled by another
method.
-/

namespace LedgerSync

namespace SyncSettings

def shape : Shape SyncSettings := .record fun place entries =>
  SyncSettings.mk
    <$> Shape.field "date_backoff_days" standard.dateBackoffDays .integer
      place entries
    <*> Shape.field "external_id_window_providers"
      standard.externalIdWindowProviders (.list .text) place entries
    <*> Shape.field "contiguous_external_id_providers"
      standard.contiguousExternalIdProviders (.list .text) place entries
    <*> Shape.field "backfill_window_days" standard.backfillWindowDays .integer
      place entries
    <*> Shape.field "attribute_matching_enabled"
      standard.attributeMatchingEnabled .bool place entries

def toValue (s : SyncSettings) : Value := .record [
  ("date_backoff_days", .integer s.dateBackoffDays),
  ("external_id_window_providers", .texts s.externalIdWindowProviders),
  ("contiguous_external_id_providers", .texts s.contiguousExternalIdProviders),
  ("backfill_window_days", .integer s.backfillWindowDays),
  ("attribute_matching_enabled", .bool s.attributeMatchingEnabled)]

end SyncSettings

def Value.ofText? : Option String → Value
  | some s => .text s
  | none => .null

/-- How files of transactions are read. -/
structure InputSettings where
  encoding : String
  delimiter : String
  /-- The zone of date-times that carry no offset. -/
  defaultTimeZone : String
  /-- Column headers that differ from the field names. -/
  reportedColumns : List (String × String)
  storedColumns : List (String × String)
  deriving DecidableEq, Repr

namespace InputSettings

def standard : InputSettings := ⟨"utf-8", ",", "UTC", [], []⟩

def shape : Shape InputSettings := .record fun place entries =>
  InputSettings.mk
    <$> Shape.field "encoding" standard.encoding .text place entries
    <*> Shape.field "delimiter" standard.delimiter .text place entries
    <*> Shape.field "default_time_zone" standard.defaultTimeZone .text
      place entries
    <*> Shape.field "upstream_columns" [] (.map .text) place entries
    <*> Shape.field "stored_columns" [] (.map .text) place entries

/-- A map of texts as a plain value. -/
def columnsValue (columns : List (String × String)) : Value :=
  .record (columns.map fun c => (c.1, .text c.2))

def toValue (s : InputSettings) : Value := .record [
  ("encoding", .text s.encoding),
  ("delimiter", .text s.delimiter),
  ("default_time_zone", .text s.defaultTimeZone),
  ("upstream_columns", columnsValue s.reportedColumns),
  ("stored_columns", columnsValue s.storedColumns)]

end InputSettings

/-- One attribute of a configured matcher. -/
structure SelectorSettings where
  field : String
  restrictions : List String
  deriving DecidableEq, Repr

namespace SelectorSettings

def shape : Shape SelectorSettings := .record fun place entries =>
  SelectorSettings.mk
    <$> Shape.required "attribute" .text place entries
    <*> Shape.field "restrictions" [] (.list .text) place entries

def toValue (s : SelectorSettings) : Value :=
  .record [("attribute", .text s.field),
    ("restrictions", .texts s.restrictions)]

end SelectorSettings

/-- A configured matcher. -/
structure MatcherSettings where
  selectors : List SelectorSettings
  deriving DecidableEq, Repr

namespace MatcherSettings

def shape : Shape MatcherSettings := .record fun place entries =>
  MatcherSettings.mk <$> Shape.field "selectors" []
    (.list SelectorSettings.shape) place entries

def toValue (s : MatcherSettings) : Value :=
  .record [("selectors", .list (s.selectors.map (·.toValue)))]

end MatcherSettings

/-- A reference to a matcher, perhaps without one of its fields. The suffix
tells the derived matcher from the one it comes from. -/
structure MatcherReference where
  name : String
  without : Option String
  suffix : Option String
  deriving DecidableEq, Repr

namespace MatcherReference

def shape : Shape MatcherReference := .record fun place entries =>
  MatcherReference.mk
    <$> Shape.required "name" .text place entries
    <*> Shape.field "without" none (.optional .text) place entries
    <*> Shape.field "postfix" none (.optional .text) place entries

def toValue (r : MatcherReference) : Value := .record [
  ("name", .text r.name), ("without", .ofText? r.without),
    ("postfix", .ofText? r.suffix)]

end MatcherReference

/-- The chain of matchers of a provider. -/
structure ProviderSettings where
  enabled : Bool
  window : String
  matchers : List MatcherReference
  deriving DecidableEq, Repr

namespace ProviderSettings

def shape : Shape ProviderSettings := .record fun place entries =>
  ProviderSettings.mk
    <$> Shape.field "enabled" true .bool place entries
    <*> Shape.field "window" "unbounded" .text place entries
    <*> Shape.field "matchers" [] (.list MatcherReference.shape) place entries

def toValue (s : ProviderSettings) : Value := .record [
  ("enabled", .bool s.enabled), ("window", .text s.window),
  ("matchers", .list (s.matchers.map (·.toValue)))]

end ProviderSettings

/-- What the matchers of all providers are made of. -/
structure MatchingSettings where
  placeholders : List String
  matchers : List (String × MatcherSettings)
  providers : List (String × ProviderSettings)
  deriving DecidableEq, Repr

namespace MatchingSettings

def shape : Shape MatchingSettings := .record fun place entries =>
  MatchingSettings.mk
    <$> Shape.field "placeholders" Matching.Restriction.defaultPlaceholders
      (.list .text) place entries
    <*> Shape.field "matchers" [] (.map MatcherSettings.shape) place entries
    <*> Shape.field "providers" [] (.map ProviderSettings.shape) place entries

def toValue (s : MatchingSettings) : Value := .record [
  ("placeholders", .texts s.placeholders),
  ("matchers", .record (s.matchers.map fun m => (m.1, m.2.toValue))),
  ("providers", .record (s.providers.map fun p => (p.1, p.2.toValue)))]

open Matching

/-- Adds a configured matcher to the known ones. A name that is taken is
refused, so no chain changes its meaning by a definition. -/
def define (placeholders : List String) (known : Catalogue)
    (m : String × MatcherSettings) : Except Failure Catalogue := do
  if (known.find? m.1).isSome then
    throw (.configuration (.matcherDefinedTwice m.1))
  let selectors ← m.2.selectors.mapM fun s =>
    Selector.build s.field s.restrictions placeholders
  return known ++ [← Matcher.make m.1 selectors]

/-- The configured provider, unless it is disabled. Its references are looked up
among the known matchers. -/
def provider (known : Catalogue) (p : String × ProviderSettings) :
    Run (Option Provider) := do
  if !p.2.enabled then
    Run.log .debug .providers s!"Attribute matching disabled for provider {p.1}"
    return none
  let some window := WindowSelector.ofName? p.2.window
    | throw (.configuration
      (.unknownWindow p.1 p.2.window WindowSelector.sortedNames))
  let matchers ← Run.ofExcept (p.2.matchers.mapM fun r =>
    known.derive r.name r.without r.suffix)
  let made ← Run.ofExcept (Provider.make p.1 (some window) matchers)
  Run.log .debug .providers s!"Loaded matcher chain for provider {p.1}"
  return some made

/-- The registry of the enabled providers. Configured matchers add to the
built-in ones. -/
def registry (s : MatchingSettings) : Run Registry := do
  let known ← Run.ofExcept
    (s.matchers.foldlM (define s.placeholders) Catalogue.builtIn)
  let made ← s.providers.mapM (provider known)
  Run.ofExcept (Registry.ofList (made.filterMap id))

end MatchingSettings

/-- One sheet of a report. -/
structure SheetSettings where
  enabled : Bool
  name : String
  deriving DecidableEq, Repr

namespace SheetSettings

def shape : Shape SheetSettings := .record fun place entries =>
  SheetSettings.mk
    <$> Shape.field "enabled" true .bool place entries
    <*> Shape.required "name" .text place entries

def toValue (s : SheetSettings) : Value :=
  .record [("enabled", .bool s.enabled), ("name", .text s.name)]

end SheetSettings

/-- The sheets of a report, by what they list. -/
structure SheetsSettings where
  summary : SheetSettings
  toDelete : SheetSettings
  toInsert : SheetSettings
  toUpdate : SheetSettings
  toIgnore : SheetSettings
  deriving DecidableEq, Repr

namespace SheetsSettings

def standard : SheetsSettings := {
  summary := ⟨true, "Summary"⟩
  toDelete := ⟨true, "To Delete"⟩
  toInsert := ⟨true, "To Insert"⟩
  toUpdate := ⟨true, "To Update"⟩
  toIgnore := ⟨true, "To Ignore"⟩ }

def shape : Shape SheetsSettings := .record fun place entries =>
  SheetsSettings.mk
    <$> Shape.field "summary" standard.summary SheetSettings.shape place entries
    <*> Shape.field "to_delete" standard.toDelete SheetSettings.shape
      place entries
    <*> Shape.field "to_insert" standard.toInsert SheetSettings.shape
      place entries
    <*> Shape.field "to_update" standard.toUpdate SheetSettings.shape
      place entries
    <*> Shape.field "to_ignore" standard.toIgnore SheetSettings.shape
      place entries

def toValue (s : SheetsSettings) : Value := .record [
  ("summary", s.summary.toValue), ("to_delete", s.toDelete.toValue),
  ("to_insert", s.toInsert.toValue), ("to_update", s.toUpdate.toValue),
  ("to_ignore", s.toIgnore.toValue)]

end SheetsSettings

/-- The report: the template of its file name, and its sheets. -/
structure OutputSettings where
  filenameTemplate : String
  sheets : SheetsSettings
  deriving DecidableEq, Repr

namespace OutputSettings

def standard : OutputSettings :=
  ⟨"sync_instruction_\x7bprovider\x7d_\x7bdate\x7d_\x7btime\x7d.xlsx",
    .standard⟩

/-- How the section about file names is read. -/
def filenameShape : Shape String := .record fun place entries =>
  Shape.field "filename_template" standard.filenameTemplate .text place entries

def shape : Shape OutputSettings := .record fun place entries =>
  OutputSettings.mk
    <$> Shape.field "excel" standard.filenameTemplate filenameShape
      place entries
    <*> Shape.field "sheets" .standard SheetsSettings.shape place entries

def toValue (s : OutputSettings) : Value := .record [
  ("excel", .record [("filename_template", .text s.filenameTemplate)]),
  ("sheets", s.sheets.toValue)]

end OutputSettings

/-- What is logged, and where. -/
structure LoggingSettings where
  level : String
  format : String
  file : Option String
  maxBytes : Int
  backupCount : Int
  /-- Levels of single modules. -/
  modules : List (String × String)
  deriving DecidableEq, Repr

namespace LoggingSettings

def standard : LoggingSettings := {
  level := "INFO"
  format := "%(asctime)s - %(name)s - %(levelname)s - %(message)s"
  file := none
  maxBytes := 10 * 1024 * 1024
  backupCount := 5
  modules := [] }

def shape : Shape LoggingSettings := .record fun place entries =>
  LoggingSettings.mk
    <$> Shape.field "level" standard.level .text place entries
    <*> Shape.field "format" standard.format .text place entries
    <*> Shape.field "file" none (.optional .text) place entries
    <*> Shape.field "max_bytes" standard.maxBytes .integer place entries
    <*> Shape.field "backup_count" standard.backupCount .integer place entries
    <*> Shape.field "modules" [] (.map .text) place entries

def toValue (s : LoggingSettings) : Value := .record [
  ("level", .text s.level), ("format", .text s.format),
  ("file", .ofText? s.file),
  ("max_bytes", .integer s.maxBytes), ("backup_count", .integer s.backupCount),
  ("modules", InputSettings.columnsValue s.modules)]

end LoggingSettings

structure Settings where
  sync : SyncSettings
  matching : MatchingSettings
  input : InputSettings
  output : OutputSettings
  logging : LoggingSettings
  /-- The file that the configuration comes from. -/
  configFile : Option String
  deriving DecidableEq, Repr

namespace Settings

def shape : Shape Settings := .record fun place entries =>
  Settings.mk
    <$> Shape.field "sync" .standard SyncSettings.shape place entries
    <*> Shape.field "matching" ⟨Matching.Restriction.defaultPlaceholders, [],
      []⟩ MatchingSettings.shape place entries
    <*> Shape.field "input" .standard InputSettings.shape place entries
    <*> Shape.field "output" .standard OutputSettings.shape place entries
    <*> Shape.field "logging" .standard LoggingSettings.shape place entries
    <*> Shape.field "config_file_path" none (.optional .text) place entries

def toValue (s : Settings) : Value := .record [
  ("sync", s.sync.toValue), ("matching", s.matching.toValue),
  ("input", s.input.toValue),
  ("output", s.output.toValue), ("logging", s.logging.toValue),
  ("config_file_path", .ofText? s.configFile)]

end Settings

end LedgerSync
