import DirectedMarkdown.Markdown.Event
import DirectedMarkdown.Markdown.Margin

/-!
This module contains the delimiter rows of tables, `|:--|--:|`, and the number of columns of the
line above them. A line is the head of a table if both have as many columns.
-/

namespace DirectedMarkdown.Markdown

/-- A delimiter row that is being read. -/
structure DelimiterRow where
  /-- The columns that were read, the last one first. -/
  columns : List ColumnAlignment
  /-- The alignment of the current column so far. -/
  current : ColumnAlignment
  /-- Whether the current column is empty so far. -/
  isEmpty : Bool
  /-- Whether there is a hyphen in the current column. -/
  hasHyphen : Bool
  sawPipe : Bool
  sawHyphen : Bool

namespace DelimiterRow

/-- The start of a row, behind its first pipe if there is one. -/
def start (sawPipe : Bool) : DelimiterRow where
  columns := []
  current := .none
  isEmpty := true
  hasHyphen := false
  sawPipe := sawPipe
  sawHyphen := false

/-- A colon before the hyphens of a column aligns it to the left, one behind them to the right. -/
def colon (row : DelimiterRow) : DelimiterRow :=
  let current := match row.isEmpty, row.current with
    | true, .none => .left
    | false, .left => .center
    | false, .none => .right
    | _, alignment => alignment
  { row with current, isEmpty := false }

/-- Adds a character to the row. -/
def push? (row : DelimiterRow) : Char → Option DelimiterRow
  | ' ' => some row
  | ':' => some row.colon
  | '-' => some { row with isEmpty := false, hasHyphen := true, sawHyphen := true }
  | '|' =>
    if row.hasHyphen then
      some { row with
        columns := row.current :: row.columns
        current := .none
        isEmpty := true
        hasHyphen := false
        sawPipe := true }
    else
      none
  | _ => none

/-- The columns of a row that was read to its end. -/
def finish? (row : DelimiterRow) : Option (List ColumnAlignment) :=
  if row.sawPipe && row.sawHyphen then
    some (if row.isEmpty then row.columns else row.current :: row.columns).reverse
  else
    none

end DelimiterRow

namespace Source

/-- The columns of the delimiter row at `i`, and the position behind it. -/
def delimiterRow? (src : Source) (i : Nat) : Option (List ColumnAlignment × Nat) :=
  let (missing, m) := (Margin.start i).read src 4
  if missing = 0 || src.size ≤ m.pos then
    none
  else
    let start := if src.has m.pos '|' then m.pos + 1 else m.pos
    let stop := src.runEnd (!isLineEnd ·) start
    match (src.sliceChars start stop).foldlM DelimiterRow.push?
        (DelimiterRow.start (src.has m.pos '|')), src.lineEnd? stop with
    | some row, some next => row.finish?.map (·, next)
    | _, _ => none

/--
The number of columns of a line that starts at `start`, has `pipes` pipes, and has the last of them
at `lastPipe`. A pipe at either end of the line separates no columns.
-/
def columnCount (src : Source) (start pipes lastPipe : Nat) : Nat :=
  let pipes := if src.has (src.skipSpace start) '|' then pipes - 1 else pipes
  if src.isBlankFrom (lastPipe + 1) then pipes else pipes + 1

end Source

end DirectedMarkdown.Markdown
