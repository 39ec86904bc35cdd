import LedgerSync.Binary.Fixed
import LedgerSync.Calendar.Date
import LedgerSync.Failure
import LedgerSync.Text.Case

/-!
# Workbooks

A workbook is a list of sheets with distinct titles, and a sheet is a table of
cells. What a workbook file keeps of a cell is a little less than what was put
into it: numbers to sixteen digits, and no empty texts.

Texts of a bank end up in cells, and may be longer than a cell or hold
characters that no sheet can hold. The former are cut; the latter make the
report fail. In the same way, a title that is taken gets a number, and one that
no sheet can have makes the report fail.
-/

namespace LedgerSync

inductive SheetCell
  | empty
  | text (s : String)
  | count (n : Int)
  | number (d : Double)
  | date (d : Date)
  deriving DecidableEq, Repr

namespace SheetCell

def ofText? : Option String → SheetCell
  | some s => .text s
  | none => .empty

def length : SheetCell → Nat
  | .empty => 0
  | .text s => s.length
  | .count n => (Text.integerText n).length
  | .number d => d.text.length
  | .date d => d.text.length

/-- The most characters that a cell holds. -/
def maxLength : Nat := 32767

/-- Whether no cell can hold a character: a control character other than a tab
or a line break. -/
def isRefused (c : Char) : Bool :=
  c.val < 32 && c ≠ '\t' && c ≠ '\n' && c ≠ '\r'

/-- The cell as a sheet takes it in: a text is cut to what a cell holds. -/
def entered : SheetCell → Except Failure SheetCell
  | .text s =>
    let held := s.toList.take maxLength
    if held.any isRefused then .error .refusedCharacter
    else .ok (.text (String.ofList held))
  | c => .ok c

/-- What a file keeps of the cell. -/
def kept : SheetCell → SheetCell
  | .text "" => .empty
  | .number d =>
    match d with
    | .finite .. => .number (d.rounded 16)
    | _ => .empty
  | c => c

end SheetCell

/-- The colours that tell operations apart. -/
inductive Fill
  | inserted
  | updated
  | deleted
  deriving DecidableEq, Repr

/-- The colour, with its opacity in front. -/
def Fill.color : Fill → String
  | .inserted => "00C6EFCE"
  | .updated => "00FFEB9C"
  | .deleted => "00FFC7CE"

/-- A sheet. All rows have one length, for a sheet is a grid. -/
structure Sheet where
  title : String
  rows : List (List SheetCell)
  /-- The widths of the first columns. -/
  widths : List Nat
  /-- The colour of the rows below the first. -/
  fill : Option Fill
  /-- Ranges of cells that are one. -/
  merged : List String
  deriving DecidableEq, Repr

namespace Sheet

/-- Rows made as long as the longest of them. -/
def squared (width : Nat) (rows : List (List SheetCell)) :
    List (List SheetCell) :=
  rows.map fun r => r ++ List.replicate (width - r.length) .empty

/-- The widths that fit the columns of some rows: two more than the longest
cell, at most fifty. -/
def fittedWidths (columns : Nat) (rows : List (List SheetCell)) : List Nat :=
  (List.range columns).map fun i =>
    min ((rows.map fun r => (r.getD i .empty).length).foldl max 0 + 2) 50

/-- The colour of the second row, where there is one. -/
def secondRowFill (s : Sheet) : Option Fill :=
  if 1 < s.rows.length then s.fill else none

end Sheet

namespace SheetTitle

/-- The characters that no title may hold. -/
def refused : List Char := ['\\', '*', '?', ':', '/', '[', ']']

/-- The rest after a beginning, compared without regard to case. -/
def dropStart? : List Char → List Char → Option (List Char)
  | [], cs => some cs
  | _ :: _, [] => none
  | t :: ts, c :: cs => if t = c then dropStart? ts cs else none

/-- The numbers that follow the occurrences of a title in a text; an occurrence
without number counts as zero. -/
def numbersAfter (title : List Char) (fuel : Nat) (cs : List Char) : List Nat :=
  match fuel, cs with
  | 0, _ | _, [] => []
  | fuel + 1, c :: rest =>
    match dropStart? title (c :: rest) with
    | some more =>
      let digits := more.takeWhile fun d => (Text.digitValue? d).isSome
      let number := Text.numberOf (digits.filterMap Text.digitValue?)
      let more := more.drop digits.length
      number :: numbersAfter title fuel
        (if more.head? = some ',' then more.drop 1 else more)
    | none => numbersAfter title fuel rest

/-- A title that is not taken yet: one that is, in any case, gets the next
number added. -/
def free (taken : List String) (title : String) : String :=
  let folded := Text.toLower title
  if taken.any fun t => Text.toLower t == folded then
    let text := (Text.toLower (",".intercalate taken)).toList
    let highest := (numbersAfter folded.toList (text.length + 1) text).foldl max
      0
    title ++ Text.decimalText (highest + 1)
  else title

/-- The title under which a new sheet goes. An empty one is `Sheet`. -/
def choose (taken : List String) (title : String) : Except Failure String :=
  match title.toList.find? refused.contains with
  | some c => .error (.argument (.sheetTitle c))
  | none => .ok (free taken (if title.isEmpty then "Sheet" else title))

end SheetTitle

end LedgerSync
