import LedgerSync.Report.Workbook

/-!
# Reports as plain text

The sheets of a report one after the other: the title in brackets, then a line
for every row, with tabs between its cells. An empty line ends a sheet.
-/

namespace LedgerSync

/-- The cell within a line. Tabs and line breaks, which would end the cell,
become blanks. -/
def SheetCell.inline (c : SheetCell) : String :=
  let text := match c with
    | .empty => ""
    | .text s => s
    | .count n => Text.integerText n
    | .number d => d.text
    | .date d => d.text
  String.ofList (text.toList.map fun c => if c = '\t' || c = '\n' || c =
    '\r' then ' ' else c)

/-- The lines of a sheet. -/
def Sheet.lines (s : Sheet) : List String :=
  s!"[{s.title}]" ::
    s.rows.map (fun row => "\t".intercalate (row.map SheetCell.inline)) ++ [""]

/-- The text of a report. -/
def Report.listingText (sheets : List Sheet) : String :=
  String.join ((sheets.flatMap Sheet.lines).map fun line => line ++ "\n")

end LedgerSync
