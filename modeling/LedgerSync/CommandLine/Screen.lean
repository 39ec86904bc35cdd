import LedgerSync.Text.Column

/-!
# What a command shows

A command shows lines and tables. The title of a table stands in the middle
above it, on as many lines as the width of the table makes necessary. In titles
and cells, words in brackets that begin with a small letter choose a style and
are not shown.

Cells may hold texts of the bank, so a bracket in one of them may be taken for a
style. A backslash in front of the bracket keeps it.
-/

namespace LedgerSync.CommandLine

namespace Markup

/-- Whether a style can begin with a character. -/
def beginsStyle (c : Char) : Bool := c.isLower || c = '#' || c = '/' || c = '@'

/-- What follows a style, for the characters after its opening bracket. -/
def afterStyle? (cs : List Char) : Option (List Char) :=
  let body := cs.takeWhile fun c => c ≠ '[' && c ≠ ']'
  match cs.drop body.length with
  | ']' :: rest => if body.head?.any beginsStyle then some rest else none
  | _ => none

/-- The text without its styles. A bracket behind an odd number of backslashes
is an ordinary one, and of those backslashes half are shown. -/
def shown (fuel : Nat) (cs : List Char) : List Char :=
  match fuel, cs with
  | 0, _ | _, [] => []
  | fuel + 1, cs =>
    let marks := cs.takeWhile (· = '\\')
    match cs.drop marks.length with
    | [] => marks
    | c :: rest =>
      match if c = '[' then afterStyle? rest else none with
      | none => marks ++ c :: shown fuel rest
      | some after =>
        let kept := List.replicate (marks.length / 2) '\\'
        if marks.length % 2 = 1 then kept ++ '[' :: shown fuel rest else kept ++
          shown fuel after

def text (s : String) : String :=
  let controls : List Char := ['\x07', '\x08', '\x0b', '\x0c', '\r']
  String.ofList ((shown (s.length + 1) s.toList).filter fun c =>
    !controls.contains c)

end Markup

structure Table where
  title : String
  columns : List String
  rows : List (List String)
  deriving DecidableEq, Repr

namespace Table

def linesOf (s : String) : List String := s.splitOn "\n"

/-- The lines of cells side by side, filled up with empty ones. -/
def sideBySide (cells : List (List String)) : List (List String) :=
  let height := max 1 ((cells.map List.length).foldl max 0)
  (List.range height).map fun i => cells.map fun lines => lines.getD i ""

/-- The lines between the borders: the columns, and the lines of every row. -/
def cellRows (t : Table) : List (List String) :=
  (t.columns :: t.rows).flatMap fun r =>
    sideBySide (r.map fun c => linesOf (Markup.text c))

def widths (t : Table) : List Nat :=
  (List.range t.columns.length).map fun i =>
    (t.cellRows.map fun r => (r.getD i "").length).foldl max 0

/-- The width of the table: each column has a blank on both sides and a border
after it. -/
def width (t : Table) : Nat := t.widths.foldl (fun sum w => sum + w + 3) 1

/-- The words of a text, each with the blanks after it. -/
def words (cs : List Char) : List (List Char) :=
  cs.foldr (fun c words =>
    match words with
    | [] => [[c]]
    | w :: rest =>
      if c ≠ ' ' || w.head? = some ' ' then (c :: w) :: rest
      else [c] :: w :: rest) []

/-- The lines of words that are at most so wide. A word that is wider than a
line begins one and is cut. -/
def wrap (width : Nat) (words : List (List Char)) : List (List Char) :=
  let step := fun (acc : List (List Char) × List Char) (word : List Char) =>
    let (done, line) := acc
    let bare := (word.reverse.dropWhile (· = ' ')).length
    if line.length + bare ≤ width then (done, line ++ word)
    else
      let done := if line.isEmpty then done else line :: done
      if bare ≤ width then (done, word)
      else
        match (Text.blocks (max 1 width) word).reverse with
        | last :: full => (full ++ done, last)
        | [] => (done, [])
  let (done, line) := words.foldl step ([], [])
  (line :: done).reverse

/-- The lines of the title, in the middle of the width of the table. -/
def titleLines (t : Table) : List String :=
  (linesOf (Markup.text t.title)).flatMap fun line =>
    (wrap t.width (words line.toList)).map fun cs =>
      let cs := (cs.reverse.dropWhile (· = ' ')).reverse
      String.ofList (List.replicate ((t.width - cs.length) / 2) ' ' ++ cs)

/-- A border, of a line and of the characters at its ends and where columns
meet. -/
def border (t : Table) (line left middle right : Char) : String :=
  let parts := t.widths.map fun w => String.ofList (List.replicate (w + 2) line)
  String.singleton left ++ (String.singleton middle).intercalate parts ++
    String.singleton right

/-- A line of cells between borders. -/
def cellLine (t : Table) (bar : Char) (cells : List String) : String :=
  let cell := fun (c : String × Nat) => s!" {Text.padRight c.2 c.1} "
  let bar := String.singleton bar
  bar ++ bar.intercalate ((cells.zip t.widths).map cell) ++ bar

def lines (t : Table) : List String :=
  let rows := t.cellRows
  t.titleLines ++ [t.border '━' '┏' '┳' '┓'] ++ (rows.take 1).map
    (t.cellLine '┃') ++
    [t.border '━' '┡' '╇' '┩'] ++ (rows.drop 1).map (t.cellLine '│') ++
    [t.border '─' '└' '┴' '┘']

end Table

inductive Shown
  | line (text : String)
  | table (t : Table)
  deriving DecidableEq, Repr

def Shown.lines : Shown → List String
  | .line text => Table.linesOf text
  | .table t => t.lines

end LedgerSync.CommandLine
