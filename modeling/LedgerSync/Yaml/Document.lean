import LedgerSync.Config.Merge
import LedgerSync.Yaml.Scalar
import LedgerSync.Yaml.Token

/-!
# Documents

The value that the tokens of a document build. A key that occurs twice keeps its
first place and its last value, and a collection is no key. The entries under
the key `<<` are merged into the map around them, whose own entries win. A
document is malformed as a whole or has one value.
-/

namespace LedgerSync.Yaml

/-- Where a node may be read: at the start of a block, after a key, or within
brackets. -/
inductive Context
  | block
  | underKey
  | flow
  deriving DecidableEq

/-- Whether an entry is left empty, by what follows it. -/
def isLeftEmpty : List Token → Bool
  | .key :: _ | .value :: _ | .item :: _ | .blockEnd :: _ | .comma ::
  _ | .flowListEnd :: _
  | .flowMapEnd :: _ | [] => true
  | _ => false

/-- Whether a value can be a key. -/
def isKey : Value → Bool
  | .list _ | .map _ => false
  | _ => true

/-- The entries of a map. -/
def entriesOf? : Value → Option (List (Value × Value))
  | .map entries => some entries
  | _ => none

/-- The entries that stand under a merge mark: those of a map, or of a list of
maps, the first of which wins. -/
def mergedEntries? : Value → Option (List (Value × Value))
  | .list items => (items.mapM entriesOf?).map fun maps => maps.reverse.flatten
  | v => entriesOf? v

/-- An entry of a map that is being read: its key, or none for the merge mark,
and its value. -/
abbrev Entry := Option Value × Value

/-- The map of some entries. -/
def mapOf? (entries : List Entry) : Option Value := do
  let merged ← (entries.filter (·.1.isNone)).mapM fun e => mergedEntries? e.2
  let own := entries.filterMap fun e => e.1.map (·, e.2)
  if own.all fun e => isKey e.1 then
    return .map ((merged.flatten ++ own).foldl (fun m e =>
      Value.put m e.1 e.2) [])
  else none

mutual

/-- Reads one value. -/
def node (fuel : Nat) (context : Context) (ts : List Token) :
    Option (Value × List Token) :=
  match fuel with
  | 0 => none
  | fuel + 1 =>
    match ts with
    | .plain s :: rest => (plainValue? s).map (·, rest)
    | .quoted s :: rest => some (.text s, rest)
    | .flowList :: rest => flowItems fuel true [] rest
    | .flowMap :: rest => flowEntries fuel true [] rest
    | .blockList :: rest => if context = .flow then none else items fuel [] rest
    | .blockMap :: rest => if context = .flow then none
    else entries fuel [] rest
    | .item :: rest => if context = .underKey then bareItems fuel []
      (.item :: rest) else none
    | _ => none

/-- Reads a key; the merge mark is none. -/
def keyNode (fuel : Nat) (context : Context) (ts : List Token) :
    Option (Option Value × List Token) :=
  match fuel with
  | 0 => none
  | fuel + 1 =>
    match ts with
    | .plain "<<" :: rest => some (none, rest)
    | .plain "=" :: rest => some (some (.text "="), rest)
    | ts => (node fuel context ts).map fun r => (some r.1, r.2)

/-- Reads the value after a key. -/
def valueNode (fuel : Nat) (context : Context) (ts : List Token) :
    Option (Value × List Token) :=
  match fuel with
  | 0 => none
  | fuel + 1 =>
    match ts with
    | .value :: .item :: rest => if context = .underKey then node fuel context
      (.item :: rest) else none
    | .value :: rest => if isLeftEmpty rest then some (.null, rest)
    else node fuel context rest
    | ts => some (.null, ts)

/-- Reads the items of a block list. -/
def items (fuel : Nat) (acc : List Value) (ts : List Token) :
    Option (Value × List Token) :=
  match fuel with
  | 0 => none
  | fuel + 1 =>
    match ts with
    | .blockEnd :: rest => some (.list acc.reverse, rest)
    | .item :: rest =>
      if isLeftEmpty rest then items fuel (.null :: acc) rest
      else do
        let (v, rest) ← node fuel .block rest
        items fuel (v :: acc) rest
    | _ => none

/-- Reads the items of a list that stands at the indentation of its key. -/
def bareItems (fuel : Nat) (acc : List Value) (ts : List Token) :
    Option (Value × List Token) :=
  match fuel with
  | 0 => none
  | fuel + 1 =>
    match ts with
    | .item :: rest =>
      if isLeftEmpty rest then bareItems fuel (.null :: acc) rest
      else do
        let (v, rest) ← node fuel .block rest
        bareItems fuel (v :: acc) rest
    | ts => some (.list acc.reverse, ts)

/-- Reads the entries of a block map. -/
def entries (fuel : Nat) (acc : List Entry) (ts : List Token) :
    Option (Value × List Token) :=
  match fuel with
  | 0 => none
  | fuel + 1 =>
    match ts with
    | .blockEnd :: rest => (mapOf? acc.reverse).map (·, rest)
    | .key :: rest => do
      let (k, rest) ← keyNode fuel .underKey rest
      let (v, rest) ← valueNode fuel .underKey rest
      entries fuel ((k, v) :: acc) rest
    | _ => none

/-- Reads the items of a list in brackets. A key makes an item a map of one
entry. -/
def flowItems (fuel : Nat) (first : Bool) (acc : List Value) (ts : List Token) :
    Option (Value × List Token) :=
  match fuel with
  | 0 => none
  | fuel + 1 => do
    match ts with
    | .flowListEnd :: rest => some (.list acc.reverse, rest)
    | ts =>
      let ts ← match first, ts with
        | true, ts => some ts
        | false, .comma :: rest => some rest
        | false, _ => none
      match ts with
      | .flowListEnd :: rest => some (.list acc.reverse, rest)
      | .key :: rest =>
        let (k, rest) ← keyNode fuel .flow rest
        let (v, rest) ← valueNode fuel .flow rest
        flowItems fuel false ((← mapOf? [(k, v)]) :: acc) rest
      | ts =>
        let (v, rest) ← node fuel .flow ts
        flowItems fuel false (v :: acc) rest

/-- Reads the entries of a map in braces. A value without key is a key without
value. -/
def flowEntries (fuel : Nat) (first : Bool) (acc : List Entry)
    (ts : List Token) : Option (Value × List Token) :=
  match fuel with
  | 0 => none
  | fuel + 1 => do
    match ts with
    | .flowMapEnd :: rest => (mapOf? acc.reverse).map (·, rest)
    | ts =>
      let ts ← match first, ts with
        | true, ts => some ts
        | false, .comma :: rest => some rest
        | false, _ => none
      match ts with
      | .flowMapEnd :: rest => (mapOf? acc.reverse).map (·, rest)
      | .key :: rest =>
        let (k, rest) ← keyNode fuel .flow rest
        let (v, rest) ← valueNode fuel .flow rest
        flowEntries fuel false ((k, v) :: acc) rest
      | ts =>
        let (k, rest) ← keyNode fuel .flow ts
        flowEntries fuel false ((k, .null) :: acc) rest

end

/-- The value of the only document of a stream; null when there is none. -/
def document? (ts : List Token) : Option Value := do
  let fuel := 4 * ts.length + 4
  let read : Option (Value × List Token) := match ts with
    | [] => some (.null, [])
    | .documentStart :: rest =>
      match rest with
      | [] | .documentEnd :: _ | .documentStart :: _ => some (.null, rest)
      | rest => node fuel .block rest
    | ts => node fuel .block ts
  let (v, rest) ← read
  if rest.all (· == .documentEnd) then some v else none

/-- A text in which every line ends with a line feed. -/
def withLineFeeds : List Char → List Char
  | '\r' :: '\n' :: rest => '\n' :: withLineFeeds rest
  | '\r' :: rest => '\n' :: withLineFeeds rest
  | c :: rest => c :: withLineFeeds rest
  | [] => []

/-- The value of a text; none if it is malformed. -/
def read? (text : String) : Option Value :=
  (tokens? (withLineFeeds text.toList)).bind document?

end LedgerSync.Yaml
