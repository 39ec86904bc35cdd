import LedgerSync.Csv.Table

/-!
# A reader of tables

Takes a text of comma-separated values apart, character by character, as
programs of this kind usually do. A cell may stand in quotes, and a doubled
quote in it is one quote; a quoted cell may hold line breaks. Lines without any
cell, or with blanks only, are skipped. Missing cells at the end of a row are
empty. A row is not longer than the header, unless the first row is: then its
surplus cells on the left number the rows.

It is what the program reads its files with when nothing else is given. Results
about files hold for whatever reads tables; of this reader it is shown that it
is one of those that they are about (`Reader.standard_readsLines`).
-/

namespace LedgerSync.Csv

/-- What the next character belongs to. -/
inductive Mode
  | lineStart
  /-- A line that has held nothing but blanks so far. -/
  | blankLine
  | cellStart
  | plain
  | quoted
  /-- After a quote within quotes, which ends the cell or is doubled. -/
  | quoteEnd
  /-- After a carriage return, to which a line feed belongs. -/
  | lineEnd
  deriving DecidableEq, Repr

/-- A reader of characters; all lists are last first. -/
structure Lexer where
  mode : Mode
  cell : List Char
  cells : List String
  lines : List (List String)

namespace Lexer

def start : Lexer := ⟨.lineStart, [], [], []⟩

def push (s : Lexer) (mode : Mode) (c : Char) : Lexer :=
  { s with mode, cell := c :: s.cell }

def endCell (s : Lexer) : Lexer :=
  { s with mode := .cellStart, cell := [], cells :=
    String.ofList s.cell.reverse :: s.cells }

/-- Ends the cell and the line; the next character belongs to the mode. -/
def endLine (s : Lexer) (mode : Mode) : Lexer :=
  let s := s.endCell
  { s with mode, cells := [], lines := s.cells.reverse :: s.lines }

/-- Drops a line of blanks. -/
def dropLine (s : Lexer) (mode : Mode) : Lexer := { s with mode, cell := [] }

/-- Reads a character at the start of a cell, within a plain one, or after a
quoted part. Only at the start of a cell a quote opens one. -/
def feedCell (delimiter : Char) (s : Lexer) (c : Char) : Lexer :=
  if c = '\n' then s.endLine .lineStart
  else if c = '\r' then s.endLine .lineEnd
  else if c = '"' && s.mode = .cellStart then { s with mode := .quoted }
  else if c = '"' && s.mode = .quoteEnd then s.push .quoted c
  else if c = delimiter then s.endCell
  else s.push .plain c

/-- Reads a character at the start of a line. -/
def feedLine (delimiter : Char) (s : Lexer) (c : Char) : Lexer :=
  if c = '\n' then { s with mode := .lineStart }
  else if c = '\r' then { s with mode := .lineEnd }
  else if (c = ' ' || c = '\t') && c ≠ delimiter then s.push .blankLine c
  else feedCell delimiter { s with mode := .cellStart } c

def feed (delimiter : Char) (s : Lexer) (c : Char) : Lexer :=
  match s.mode with
  | .lineStart => s.feedLine delimiter c
  | .lineEnd => if c = '\n' then { s with mode := .lineStart }
  else s.feedLine delimiter c
  | .blankLine =>
    if c = '\n' then s.dropLine .lineStart
    else if c = '\r' then s.dropLine .lineEnd
    else if (c = ' ' || c = '\t') && c ≠ delimiter then s.push .blankLine c
    else feedCell delimiter { s with mode := .plain } c
  | .quoted => if c = '"' then { s with mode := .quoteEnd }
  else s.push .quoted c
  | .cellStart | .plain | .quoteEnd => s.feedCell delimiter c

/-- The lines after the last character; none if a quote is open. -/
def finish? (s : Lexer) : Option (List (List String)) :=
  match s.mode with
  | .quoted => none
  | .lineStart | .lineEnd | .blankLine => some s.lines.reverse
  | .cellStart | .plain | .quoteEnd => some (s.endLine .lineStart).lines.reverse

end Lexer

/-- The lines of a text, each as its cells. A mark for the encoding in front is
dropped. -/
def lines? (delimiter : Char) (text : List Char) :
    Option (List (List String)) :=
  let text := if text.head? = some '\ufeff' then text.drop 1 else text
  (text.foldl (Lexer.feed delimiter) Lexer.start).finish?

namespace Table

/-- The name of a column that is already taken: the first of `name.1`, `name.2`,
… that is free. -/
def freeName (taken : List String) (name : String) (n : Nat) : Nat → String
  | 0 => name
  | fuel + 1 =>
    let candidate := s!"{name}.{Text.decimalText n}"
    if taken.contains candidate then freeName taken name (n + 1) fuel
    else candidate

/-- Names the columns: an empty header is numbered, and a repeated one gets a
number added. -/
def nameColumns (header : List String) : List String :=
  let named := header.zipIdx.map fun h =>
    if h.1.isEmpty then s!"Unnamed: {Text.decimalText h.2}" else h.1
  named.foldl (fun done name =>
    if done.contains name then
      done ++ [freeName (done ++ named) name 1 (2 * named.length + 1)]
    else done ++ [name]) []

/-- The cells of a row in a given number; missing ones are empty. -/
def padCells (width : Nat) (cells : List String) : List String :=
  cells ++ List.replicate (width - cells.length) ""

/-- The table of some lines; none without a header or with a line that is too
long. -/
def ofLines? : List (List String) → Option Table
  | [] => none
  | header :: lines =>
    let width := max header.length ((lines.head?.map List.length).getD 0)
    let surplus := width - header.length
    if lines.any fun l => width < l.length then none
    else some {
      columns := nameColumns header
      rows := lines.map fun l =>
        let cells := padCells width l
        ⟨cells.take surplus, cells.drop surplus⟩ }

def ofText? (delimiter : Char) (text : List Char) : Option Table :=
  (lines? delimiter text).bind ofLines?

end Table

end LedgerSync.Csv
