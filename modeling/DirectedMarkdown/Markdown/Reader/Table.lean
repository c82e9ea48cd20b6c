import DirectedMarkdown.Markdown.Block
import DirectedMarkdown.Markdown.Interrupt

/-!
This module contains the reader of tables. A row has as many cells as the table has columns: missing
ones are empty, and those that are too many are dropped.
-/

namespace DirectedMarkdown.Markdown.Reader

/-- The cells of the row at `i`, and the position behind the row. -/
def cells (src : Source) (read : Array Content) (i : Nat) : Array Content × Nat :=
  let start := src.skipSpace (if src.has i '|' then i + 1 else i)
  match src.lineEnd? start with
  | some next => (read, next)
  | none =>
    let line := scanLine src src .cell #[] start
    if _h : i < line.stop ∧ i < src.size then
      cells src (read.push { tokens := line.tokens.toList, stop := line.stop }) line.stop
    else
      (read, line.stop)
termination_by src.size - i
decreasing_by exact Nat.sub_lt_sub_left _h.2 _h.1

/-- The cells of a row in a table with `columns` columns. -/
def fitCells (columns : Nat) (cells : List Content) (stop : Nat) : List Content :=
  let missing : Content := { tokens := [], stop }
  (cells ++ List.replicate (columns - cells.length) missing).take columns

/-- The rows of a table from the line at `i` on, and the position behind them. -/
def tableRows (src : Source) (ground : Ground) (columns : Nat) (rows : Array (List Content))
    (i : Nat) : Array (List Content) × Nat :=
  let (n, m) := Container.enterAll src (Margin.start i) ground.path
  let m := m.readAll src
  if n = ground.path.length && !ground.interruptsAnyway src n m.pos then
    let (row, stop) := cells src #[] m.pos
    if _h : (i < stop ∧ i < src.size) ∧ 0 < row.size then
      tableRows src ground columns (rows.push (fitCells columns row.toList stop)) stop
    else
      (rows, i)
  else
    (rows, i)
termination_by src.size - i
decreasing_by exact Nat.sub_lt_sub_left _h.1.2 _h.1.1

/-- The table whose head is at `start`, and whose rows follow its delimiter row from `i` on. -/
def table (src : Source) (ground : Ground) (alignments : List ColumnAlignment) (start i : Nat)
    : Block × Nat :=
  let columns := alignments.length
  let (head, headStop) := cells src #[] start
  let (rows, stop) := tableRows src { ground with inTable := true, inParagraph := false } columns
    #[] i
  (.table alignments (fitCells columns head.toList headStop) rows.toList, stop)

end DirectedMarkdown.Markdown.Reader
