import LedgerSync.Disk.Path
import LedgerSync.Text.Blank
import LedgerSync.Uuid

/-!
# Arguments of the command line

A command takes a fixed number of plain arguments, and options anywhere between
them. An option with a value takes it from the rest of its own argument or from
the next one; of repeated options the last counts, and two dashes end the
options.

Arguments are read in two steps. The options are taken out first, which needs to
know no more than their names and whether they take a value; then the command
says what it makes of the rest. Only a command line that fits entirely is
carried out.
-/

namespace LedgerSync.CommandLine

/-- An option: its names without dashes, and whether it takes a value. -/
structure OptionName where
  short : Option Char
  long : String
  takesValue : Bool

/-- What is left of arguments when the options are taken out. Options keep their
order, because of repeated ones the last counts. -/
structure Arguments where
  plain : List String
  options : List (String × String)

namespace Arguments

def none : Arguments := ⟨[], []⟩

/-- The value of an option, by its long name. -/
def value? (a : Arguments) (long : String) : Option String :=
  ((a.options.filter fun o => o.1 == long).getLast?).map (·.2)

def has (a : Arguments) (long : String) : Bool := (a.value? long).isSome

def addPlain (a : Arguments) (s : String) : Arguments :=
  { a with plain := a.plain ++ [s] }

def addOption (a : Arguments) (o : OptionName) (value : String) : Arguments :=
  { a with options := a.options ++ [(o.long, value)] }

/-- Reads the letters after a single dash. A letter with a value takes the rest
of the argument or the next argument, which is then used up. -/
def readLetters (known : List OptionName) (a : Arguments) (rest : List String) :
    List Char → Option (Arguments × List String)
  | [] => some (a, rest)
  | c :: cs => do
    let o ← known.find? fun o => o.short == some c
    if !o.takesValue then readLetters known (a.addOption o "") rest cs
    else if !cs.isEmpty then return (a.addOption o (String.ofList cs), rest)
    else
      match rest with
      | v :: rest => return (a.addOption o v, rest)
      | [] => .none

/-- Reads a name after two dashes, perhaps with a value after an equals sign. -/
def readLong (known : List OptionName) (a : Arguments) (rest : List String)
    (body : List Char) : Option (Arguments × List String) := do
  let name := body.takeWhile (· ≠ '=')
  let o ← known.find? fun o => o.long == String.ofList name
  match body.drop name.length, o.takesValue, rest with
  | _ :: value, true, rest => return (a.addOption o (String.ofList value), rest)
  | [], true, v :: rest => return (a.addOption o v, rest)
  | [], false, rest => return (a.addOption o "", rest)
  | _, _, _ => .none

/-- Reads arguments; none if an option is unknown or lacks its value. -/
def read (known : List OptionName) (fuel : Nat) (a : Arguments)
    (args : List String) : Option Arguments :=
  match fuel, args with
  | _, [] => some a
  | 0, _ => .none
  | fuel + 1, arg :: rest =>
    match arg.toList with
    | ['-', '-'] => some { a with plain := a.plain ++ rest }
    | '-' :: '-' :: body => do
      let (a, rest) ← readLong known a rest body
      read known fuel a rest
    | '-' :: c :: cs => do
      let (a, rest) ← readLetters known a rest (c :: cs)
      read known fuel a rest
    | _ => read known fuel (a.addPlain arg) rest

def ofList? (known : List OptionName) (args : List String) : Option Arguments :=
  read known args.length none args

end Arguments

/-- What a reconciliation is asked to do: the two files, whose they are, and
where the report goes. -/
structure ReconcileRequest where
  reportedFile : Path
  storedFile : Path
  provider : String
  userId : Option Uuid
  accountId : Option Uuid
  config : Option Path
  output : Option Path
  withoutChains : Bool
  verbose : Bool
  dryRun : Bool

inductive Command
  | reconcile (r : ReconcileRequest)
  | providers (config : Option Path)
  | parseReported (file : Path) (config : Option Path)
  | initConfig (output : Path)
  | version
  /-- A request for help on a command, or on all of them. -/
  | help (command : Option String)

namespace Command

def helpOption : OptionName := ⟨none, "help", false⟩

def configOption : OptionName := ⟨some 'c', "config", true⟩

def outputOption : OptionName := ⟨some 'o', "output", true⟩

def optionsOf : String → List OptionName
  | "reconcile" => [
    ⟨some 'p', "provider", true⟩, ⟨none, "user-id", true⟩,
    ⟨none, "account-id", true⟩, configOption,
    outputOption, ⟨none, "no-attribute-matching", false⟩,
    ⟨some 'v', "verbose", false⟩, ⟨none, "dry-run", false⟩, helpOption]
  | "init-config" => [outputOption, helpOption]
  | _ => [configOption, helpOption]

def names : List String :=
  ["reconcile", "providers", "parse-upstream", "init-config"]

/-- An identifier given as an option; none inside when it is not given. -/
def uuid? (a : Arguments) (long : String) : Option (Option Uuid) :=
  match a.value? long with
  | none => some none
  | some s => (Uuid.ofText (Text.trim s)).toOption.map some

def path? (a : Arguments) (long : String) : Option Path :=
  (a.value? long).map .ofText

/-- The command that a name and arguments stand for; none if they do not fit. -/
def ofArguments? (name : String) (a : Arguments) : Option Command := do
  if a.has "help" then return .help (some name)
  let config := path? a "config"
  match name, a.plain with
  | "reconcile", [reported, stored] =>
    return .reconcile {
      config
      reportedFile := .ofText reported
      storedFile := .ofText stored
      provider := ← a.value? "provider"
      userId := ← uuid? a "user-id"
      accountId := ← uuid? a "account-id"
      output := path? a "output"
      withoutChains := a.has "no-attribute-matching"
      verbose := a.has "verbose"
      dryRun := a.has "dry-run" }
  | "providers", [] => return .providers config
  | "parse-upstream", [file] => return .parseReported (.ofText file) config
  | "init-config", [] =>
    return .initConfig ((path? a "output").getD (.ofText "config.yaml"))
  | _, _ => none

/-- Reads a command line; none if it does not fit. One without a command does
not. -/
def ofList? : List String → Option Command
  | [] => none
  | "--version" :: _ => some .version
  | "--help" :: _ => some (.help none)
  | name :: args =>
    if names.contains name then (Arguments.ofList? (optionsOf name) args).bind
      (ofArguments? name) else none

/-- The files that must be there. -/
def requiredFiles : Command → List Path
  | .reconcile r => [r.reportedFile, r.storedFile] ++ r.config.toList
  | .providers config => config.toList
  | .parseReported file config => file :: config.toList
  | _ => []

/-- All paths that a command names, so that what lies there can be found out
before the command is carried out. -/
def paths : Command → List Path
  | .reconcile r => [r.reportedFile, r.storedFile] ++ r.config.toList ++
  r.output.toList
  | .initConfig output => [output]
  | c => c.requiredFiles

end Command

end LedgerSync.CommandLine
