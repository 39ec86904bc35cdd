import LedgerSync.Yaml.Text

/-!
# The tokens of a YAML document

Indentation opens and closes block collections, brackets open and close flow
collections. A scalar or a flow collection turns out to be a key only when a
colon follows it on its line; the mark for the key is then set before it. So the
scanner remembers where a key may have started until it knows.

Anchors, tags, directives, explicit keys and block scalars are not read. A
configuration has no need of them, and a document that uses one is refused.
-/

namespace LedgerSync.Yaml

inductive Token
  | documentStart
  | documentEnd
  | blockList
  | blockMap
  | blockEnd
  | flowList
  | flowListEnd
  | flowMap
  | flowMapEnd
  | item
  | comma
  | key
  | value
  | plain (text : String)
  | quoted (text : String)
  deriving DecidableEq, Repr

/-- A place in the text of a document. -/
structure Cursor where
  rest : List Char
  index : Nat
  line : Nat
  column : Nat

namespace Cursor

/-- Passes over one character. -/
def step (c : Cursor) : Cursor :=
  match c.rest with
  | [] => c
  | x :: rest =>
    if isBreak x then ⟨rest, c.index + 1, c.line + 1, 0⟩
    else ⟨rest, c.index + 1, c.line, if x = '\ufeff' then c.column
    else c.column + 1⟩

/-- Passes over some characters. -/
def skip (c : Cursor) : Nat → Cursor
  | 0 => c
  | n + 1 => c.step.skip n

/-- Passes over the characters before a later rest. -/
def skipTo (c : Cursor) (rest : List Char) : Cursor :=
  c.skip (c.rest.length - rest.length)

end Cursor

/-- Something that is a key if a colon follows: its place among the tokens and
in the text. A key is required where the entries of a block map start. -/
structure Candidate where
  position : Nat
  required : Bool
  index : Nat
  line : Nat
  column : Nat

/-- How far a document is scanned. -/
structure Scanner where
  here : Cursor
  tokens : Array Token
  /-- The columns of the open block collections, innermost first. -/
  indents : List Nat
  /-- How many flow collections are open. -/
  depth : Nat
  /-- Whether a key may start here. -/
  keyAllowed : Bool
  /-- The candidates for keys, by the depth at which they stand. -/
  candidates : List (Nat × Candidate)

namespace Scanner

def start (text : List Char) : Scanner :=
  let text := match text with
    | '\ufeff' :: rest => rest
    | text => text
  ⟨⟨text, 0, 0, 0⟩, #[], [], 0, true, []⟩

/-- Whether the scanner is inside brackets. -/
def inFlow (s : Scanner) : Bool := s.depth ≠ 0

/-- Adds a token and passes over the characters it is written with. -/
def emit (s : Scanner) (t : Token) (length : Nat) : Scanner :=
  { s with tokens := s.tokens.push t, here := s.here.skip length }

/-- Passes over blanks, comments and empty lines. Outside brackets a new line
may start with a key. -/
def skipBlank (s : Scanner) : Nat → Scanner
  | 0 => s
  | fuel + 1 =>
    match s.here.rest with
    | ' ' :: _ => { s with here := s.here.step }.skipBlank fuel
    | '#' :: rest =>
      { s with here := s.here.skip ((rest.takeWhile (!isBreak ·)).length + 1) }.skipBlank fuel
    | c :: _ =>
      if isBreak c then
        { s with here := s.here.step, keyAllowed := s.keyAllowed || !s.inFlow }.skipBlank fuel
      else s
    | [] => s

/-- How far from its colon a key may start. -/
def longestKey : Nat := 1024

/-- Drops the candidates that no colon can follow any more; none if a required
one is among them. -/
def dropStale (s : Scanner) : Option Scanner :=
  let isStale := fun c : Nat × Candidate =>
    c.2.line ≠ s.here.line || c.2.index + longestKey < s.here.index
  if s.candidates.any fun c => isStale c && c.2.required then none
  else some { s with candidates := s.candidates.filter (!isStale ·) }

/-- Drops the candidate of the current depth; none if it is required. -/
def dropCandidate (s : Scanner) : Option Scanner :=
  if s.candidates.any fun c => c.1 = s.depth && c.2.required then none
  else some { s with candidates := s.candidates.filter (·.1 ≠ s.depth) }

/-- Whether the innermost block collection starts in a column. -/
def isIndent (s : Scanner) (column : Nat) : Bool :=
  s.indents.head? == some column

/-- Remembers that a key may start here. -/
def saveCandidate (s : Scanner) : Option Scanner := do
  let required := !s.inFlow && s.isIndent s.here.column
  if s.keyAllowed then
    let s ← s.dropCandidate
    let c : Candidate :=
      ⟨s.tokens.size, required, s.here.index, s.here.line, s.here.column⟩
    return { s with candidates := (s.depth, c) :: s.candidates }
  else if required then none
  else return s

/-- Closes the block collections that start to the right of a column. -/
def unwind (s : Scanner) (closes : Nat → Bool) : Scanner :=
  if s.inFlow then s
  else
    let closed := s.indents.takeWhile closes
    { s with
      indents := s.indents.drop closed.length
      tokens := s.tokens ++ Array.replicate closed.length Token.blockEnd }

/-- Opens a block collection unless the innermost one starts in the column or to
the right of it. -/
def openBlock (s : Scanner) (column position : Nat) (t : Token) : Scanner :=
  if s.indents.head?.all (· < column) then
    { s with indents := column :: s.indents, tokens := s.tokens.insertIdxIfInBounds position t }
  else s

/-- A mark that divides documents. -/
def divider (s : Scanner) (t : Token) : Option Scanner := do
  let s ← (s.unwind fun _ => true).dropCandidate
  return { s.emit t 3 with keyAllowed := false }

def openFlow (s : Scanner) (t : Token) : Option Scanner := do
  let s ← s.saveCandidate
  return { s.emit t 1 with depth := s.depth + 1, keyAllowed := true }

def closeFlow (s : Scanner) (t : Token) : Option Scanner := do
  let s ← s.dropCandidate
  if s.depth = 0 then none else return { s.emit t 1 with
    depth := s.depth - 1, keyAllowed := false }

def comma (s : Scanner) : Option Scanner := do
  let s ← s.dropCandidate
  return { s.emit .comma 1 with keyAllowed := true }

def item (s : Scanner) : Option Scanner := do
  if s.inFlow || !s.keyAllowed then none
  else
    let s ← (s.openBlock s.here.column s.tokens.size .blockList).dropCandidate
    return { s.emit .item 1 with keyAllowed := true }

/-- The colon after a key. -/
def value (s : Scanner) : Option Scanner := do
  match s.candidates.find? fun c => c.1 = s.depth with
  | some (_, c) =>
    let s := { s with
      candidates := s.candidates.filter (·.1 ≠ s.depth)
      tokens := s.tokens.insertIdxIfInBounds c.position .key
      keyAllowed := false }
    let s := if s.inFlow then s else s.openBlock c.column c.position .blockMap
    return s.emit .value 1
  | none =>
    if s.inFlow then return { s.emit .value 1 with
      keyAllowed := false } else none

/-- The blanks and line breaks after a word of a plain scalar: what they
contribute, the place after them, and whether they broke the line. -/
def plainGap (c : Cursor) : Gap × Cursor × Bool :=
  let blanks := c.rest.takeWhile (· = ' ')
  let c := c.skip blanks.length
  if c.rest.head?.any isBreak then
    let (gap, c) := go (.blanks blanks) c c.rest.length
    (gap, c, true)
  else (.blanks blanks, c, false)
where
  /-- Passes over empty lines, up to a divider. -/
  go (gap : Gap) (c : Cursor) : Nat → Gap × Cursor
    | 0 => (gap, c)
    | fuel + 1 =>
      match c.rest with
      | ' ' :: _ => go gap c.step fuel
      | x :: rest =>
        if isBreak x then
          if startsDivider rest then (.blanks [], c.step)
          else go (gap.addBreak x) c.step fuel
        else (gap, c)
      | [] => (gap, c)

/-- Reads a plain scalar that may go on in the lines after its first. -/
def plainText (inFlow : Bool) (indent : Nat) (acc : List Char) (gap : Gap)
    (broke : Bool) (c : Cursor) :
    Nat → List Char × Bool × Cursor
  | 0 => (acc, broke, c)
  | fuel + 1 =>
    let word := plainWord inFlow c.rest
    if c.rest.head? = some '#' || word.isEmpty then (acc, broke, c)
    else
      let acc := acc ++ gap.text ++ word
      let (gap, next, broke) := plainGap (c.skip word.length)
      if gap.text.isEmpty || next.rest.head? = some '#' ||
        (!inFlow && next.column < indent) then
        (acc, broke, next)
      else plainText inFlow indent acc gap broke next fuel

def plain (s : Scanner) : Option Scanner := do
  let s ← s.saveCandidate
  let indent := (s.indents.head?.map (· + 1)).getD 0
  let (text, broke, next) :=
    plainText s.inFlow indent [] (.blanks []) false s.here s.here.rest.length
  return { s with here := next, keyAllowed := broke
                  tokens := s.tokens.push (.plain (String.ofList text)) }

def quoted (s : Scanner) (read : List Char → Option (List Char × List Char)) :
    Option Scanner := do
  let s ← s.saveCandidate
  let (text, rest) ← read (s.here.rest.drop 1)
  return { s with here := s.here.skipTo rest, keyAllowed := false
                  tokens := s.tokens.push (.quoted (String.ofList text)) }

/-- Reads the next token. -/
def next (s : Scanner) : Option Scanner := do
  let s ← (s.skipBlank (s.here.rest.length + 1)).dropStale
  let column := s.here.column
  let s := s.unwind (column < ·)
  match s.here.rest with
  | [] => return s
  | c :: rest =>
    if column = 0 && startsDivider s.here.rest then
      s.divider (if c = '-' then .documentStart else .documentEnd)
    else if column = 0 && c = '%' then none
    else if c = '[' then s.openFlow .flowList
    else if c = '\x7b' then s.openFlow .flowMap
    else if c = ']' then s.closeFlow .flowListEnd
    else if c = '\x7d' then s.closeFlow .flowMapEnd
    else if c = ',' then s.comma
    else if c = '-' && startsBlank rest then s.item
    else if c = ':' && (s.inFlow || startsBlank rest) then s.value
    else if c = '\'' then s.quoted (singleQuoted [] (.blanks []))
    else if c = '"' then s.quoted (doubleQuoted [] (.blanks []))
    else if startsPlain s.inFlow s.here.rest then s.plain
    else none

/-- Reads all tokens. Every token takes at least one character. -/
def all (s : Scanner) : Nat → Option Scanner
  | 0 => none
  | fuel + 1 => do
    let s ← s.next
    if s.here.rest.isEmpty then (s.unwind fun _ => true).dropCandidate
    else s.all fuel

end Scanner

def tokens? (text : List Char) : Option (List Token) := do
  if !text.all isPrintable then none
  else return (← (Scanner.start text).all (text.length + 1)).tokens.toList

end LedgerSync.Yaml
