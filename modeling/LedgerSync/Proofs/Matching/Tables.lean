import LedgerSync.Proofs.Matching.Completion

/-!
# Tables of unmatched transactions

What a table shows is said of its text. A row is a bar, and then for every
column its cell, filled up with spaces to the width of the column, and another
bar (`Text.IsRow`). The cell under a title shows the part of the transaction, or
of the verdict on it, that the title names (`ShowsColumn`). So a row is told
column by column, and one with a cell missing, or with two of them exchanged,
shows something else.

Tables are long, so they come in blocks, with the row of titles before each. A
list is cut into blocks without loss, and all but the last one are full. Hence a
table has one row for each unmatched transaction, in order
(`isTable_of_unmatchedTable`).
-/

namespace LedgerSync

/-! ## Rows -/

namespace Text

/-- Cells in columns of some widths, one after the other, each with a bar behind
it. A cell that is too long for its column is not cut. -/
inductive InColumns : List Nat → List String → List Char → Prop
  | nil : InColumns [] [] []
  | cons {width spaces : Nat} {cell : String} {widths : List Nat}
      {cells : List String} {rest : List Char} :
      cell.length + spaces = max width cell.length →
      InColumns widths cells rest →
      InColumns (width :: widths) (cell :: cells)
        (cell.toList ++ List.replicate spaces ' ' ++ '|' :: rest)

/-- The text is a row of cells in columns of some widths. -/
def IsRow (widths : List Nat) (cells : List String) (row : String) : Prop :=
  ∃ rest, InColumns widths cells rest ∧ row.toList = '|' :: rest

theorem isRow_tableRow {widths : List Nat} {cells : List String}
    (h : widths.length = cells.length) :
    IsRow widths cells (tableRow widths cells) := by
  refine ⟨((widths.zip cells).map fun wc => padRight wc.1 wc.2 ++ "|").flatMap
    String.toList, ?_, ?_⟩
  · induction widths generalizing cells with
    | nil =>
      obtain rfl := List.eq_nil_of_length_eq_zero h.symm
      exact .nil
    | cons width widths ih =>
      cases cells with
      | nil => cases h
      | cons cell cells =>
        have hfill : cell.length + (width - cell.length) =
            max width cell.length := by
          omega
        have hrest := ih (Nat.succ.inj h)
        simpa [padRight] using InColumns.cons hfill hrest
  · rw [tableRow, String.toList_append, String.toList_join]
    rfl

end Text

/-! ## Blocks -/

namespace Text

variable {α : Type} {size : Nat} {xs : List α}

theorem blocks_cons (size : Nat) (x : α) (xs : List α) :
    blocks size (x :: xs) = (x :: xs.take (size - 1)) ::
    blocks size (xs.drop (size - 1)) := by
  rw [blocks]

theorem blocks_eq_nil_iff : blocks size xs = [] ↔ xs = [] := by
  cases xs with
  | nil => simp [blocks]
  | cons x xs => simp [blocks_cons]

/-- No item is lost or moved. -/
theorem flatten_blocks (size : Nat) (xs : List α) :
    (blocks size xs).flatten = xs := by
  induction xs using blocks.induct size with
  | case1 => simp [blocks]
  | case2 x xs ih =>
    rw [blocks_cons, List.flatten_cons, ih, List.cons_append,
      List.take_append_drop]

/-- A block holds an item, and no more than its size. -/
theorem length_of_mem_blocks (hsize : 0 < size) : ∀ block ∈ blocks size xs,
    0 < block.length ∧ block.length ≤ size := by
  induction xs using blocks.induct size with
  | case1 => simp [blocks]
  | case2 x xs ih =>
    rw [blocks_cons, List.forall_mem_cons]
    refine ⟨?_, ih⟩
    rw [List.length_cons, List.length_take]
    omega

/-- Only the last block may hold less than its size. -/
theorem length_of_mem_dropLast_blocks (hsize : 0 < size) :
    ∀ block ∈ (blocks size xs).dropLast, block.length = size := by
  induction xs using blocks.induct size with
  | case1 => simp [blocks]
  | case2 x xs ih =>
    rw [blocks_cons]
    by_cases hrest : blocks size (xs.drop (size - 1)) = []
    · rw [hrest]
      exact fun _ hblock => absurd hblock List.not_mem_nil
    · rw [List.dropLast_cons_of_ne_nil hrest, List.forall_mem_cons]
      refine ⟨?_, ih⟩
      rw [blocks_eq_nil_iff, List.drop_eq_nil_iff] at hrest
      rw [List.length_cons, List.length_take]
      omega

end Text

namespace Matching

/-! ## Columns -/

variable {α : Type} [Viewable α] {u : Unmatched α} {us : List (Unmatched α)}

/-- A text is shown as it is; `n/a` stands for one that is absent or empty. -/
inductive ShowsText : Option String → String → Prop
  | text {s : String} : s ≠ "" → ShowsText (some s) s
  | absent : ShowsText none "n/a"
  | empty : ShowsText (some "") "n/a"

theorem showsText_orNotAvailable (s : Option String) :
    ShowsText s (orNotAvailable s) := by
  cases s with
  | none => exact .absent
  | some s =>
    by_cases hs : s = ""
    · subst hs
      exact .empty
    · have hshown : orNotAvailable (some s) = s := by
        simp [orNotAvailable, Option.filter_some, hs]
      rw [hshown]
      exact .text hs

/-- The cell of an unmatched transaction under a title. There is none for an
amount, a name, an account number or a description. -/
inductive ShowsColumn (u : Unmatched α) : String → String → Prop
  | transactionId {cell : String} :
      ShowsText (view u.transaction).internalId cell →
      ShowsColumn u "transaction-id" cell
  | externalId {cell : String} :
      ShowsText (view u.transaction).externalId cell →
      ShowsColumn u "external-id" cell
  | date : ShowsColumn u "date" (view u.transaction).date.text
  | bookingDate {cell : String} :
      ShowsText ((view u.transaction).bookingDate.map (·.text)) cell →
      ShowsColumn u "booking-date" cell
  | timestamp {time : Option Moment} {cell : String} :
      (view u.transaction).timestamp = .ok time →
      ShowsText (time.map (·.text)) cell → ShowsColumn u "timestamp" cell
  | reason : ShowsColumn u "reason" u.reason.word
  | matcher : ShowsColumn u "matcher" u.matcher
  | attributes : ShowsColumn u "n-attr" (Text.decimalText u.attributes.length)

/-- The titles of the columns, in order. -/
def columnTitles : List String :=
  ["transaction-id", "external-id", "date", "booking-date", "timestamp",
    "reason", "matcher", "n-attr"]

/-- The row shows an unmatched transaction, a cell under each title. -/
def ShowsRow (u : Unmatched α) (row : String) : Prop :=
  ∃ cells, List.Forall₂ (ShowsColumn u) columnTitles cells ∧
    Text.IsRow columnWidths cells row

theorem showsRow_of_unmatchedRow {row : String} (h : unmatchedRow u = .ok row) :
    ShowsRow u row := by
  obtain ⟨time, htime, h⟩ := bind_eq_ok_iff.1 h
  obtain rfl := pure_eq_ok_iff.1 h
  refine ⟨_, ?_, Text.isRow_tableRow rfl⟩
  have htext := showsText_orNotAvailable
  exact .cons (.transactionId (htext _)) <| .cons (.externalId (htext _)) <|
    .cons .date <|
    .cons (.bookingDate (htext _)) <| .cons (.timestamp htime (htext _)) <|
    .cons .reason <| .cons .matcher <| .cons .attributes .nil

theorem isRow_tableHeader : Text.IsRow columnWidths columnTitles tableHeader :=
  Text.isRow_tableRow rfl

/-! ## Tables -/

/-- Rows in blocks: one for each transaction, in order, and as many to a block
as fit. -/
structure Tabulates (us : List (Unmatched α)) (blocks : List (List String)) :
    Prop where
  rows : List.Forall₂ ShowsRow us blocks.flatten
  filled : ∀ block ∈ blocks, 0 < block.length ∧ block.length ≤ 50
  full : ∀ block ∈ blocks.dropLast, block.length = 50

/-- The text is the table of unmatched transactions, with a row of the titles
before every block. -/
inductive IsTable (us : List (Unmatched α)) : String → Prop
  | none : us = [] → IsTable us "None"
  | blocks {header : String} {blocks : List (List String)} : us ≠ [] →
      Text.IsRow columnWidths columnTitles header → Tabulates us blocks →
      IsTable us ("\n".intercalate (blocks.map fun block =>
        "\n".intercalate (header :: block)))

theorem isTable_of_unmatchedTable {text : String}
    (h : unmatchedTable us = .ok text) :
    IsTable us text := by
  unfold unmatchedTable at h
  split at h
  · next hempty =>
    obtain rfl := pure_eq_ok_iff.1 h
    exact .none (List.isEmpty_iff.1 hempty)
  · next hne =>
    obtain ⟨rows, hrows, h⟩ := bind_eq_ok_iff.1 h
    obtain rfl := pure_eq_ok_iff.1 h
    refine .blocks (fun hnil => hne (List.isEmpty_iff.2 hnil))
      isRow_tableHeader {
      rows := ?_
      filled := Text.length_of_mem_blocks (by decide)
      full := Text.length_of_mem_dropLast_blocks (by decide) }
    rw [Text.flatten_blocks]
    exact (mapM_eq_ok_iff.1 hrows).imp fun _ _ hrow =>
      showsRow_of_unmatchedRow hrow

end Matching

end LedgerSync
