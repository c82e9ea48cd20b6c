import DirectedMarkdown.Markdown.Block
import DirectedMarkdown.Markdown.Interrupt

/-!
This module contains the readers of blocks whose lines are kept as they are: code blocks and HTML
blocks. A reader answers with the block and the position behind it.
-/

namespace DirectedMarkdown.Markdown.Reader

/-- A number of spaces. -/
def spaces (n : Nat) : String :=
  String.ofList (List.replicate n ' ')

/-- The lines of a code block, and the position behind them. -/
structure CodeLines where
  lines : Array String
  stop : Nat

/--
The lines of a code block from the one at `i` on, up to a fence of `length` characters `mark`. The
opening fence is indented by `indent` columns, which are no part of the code. The closing one may be
indented by three.
-/
def fencedLines (src : Source) (ground : Ground) (indent : Nat) (mark : Char) (length : Nat)
    (lines : Array String) (i : Nat) : CodeLines :=
  let (current, m) := ground.enterLine src i
  if current then
    let (missing, inner) := m.read src 4
    let fence? := if missing = 0 then none else src.fenceEnd? mark length inner.pos
    match fence? with
    | some stop => { lines, stop }
    | none =>
      let m := (m.read src indent).2
      let next := src.nextLine m.pos
      if _h : i < next ∧ i < src.size then
        fencedLines src ground indent mark length
          (lines.push (spaces m.pending ++ src.line m.pos next)) next
      else
        { lines, stop := i }
  else
    { lines, stop := i }
termination_by src.size - i
decreasing_by exact Nat.sub_lt_sub_left _h.2 _h.1

/-- The code block whose fence of `length` characters `mark` is at `i`. -/
def fencedCode (src : Source) (ground : Ground) (indent : Nat) (mark : Char) (length i : Nat)
    : Block × Nat :=
  let infoStart := src.skipSpace (i + length)
  let next := src.nextLine infoStart
  let infoEnd := src.runStart isSpace infoStart next
  let info := Link.unescape ground.inTable (src.slice infoStart infoEnd)
  let code := fencedLines src ground indent mark length #[] next
  (.code (.fenced info) (String.join code.lines.toList), code.stop)

/-- The lines of an indented code block that are being read. -/
structure IndentedLines where
  lines : Array String
  /-- The number of lines up to the last one that is not blank. -/
  kept : Nat
  stop : Nat
  lastLineBlank : Bool

/--
The lines of an indented code block from the content at `i` on, which `pending` spaces precede.
-/
def indentedLines (src : Source) (ground : Ground) (st : IndentedLines) (pending i : Nat)
    : IndentedLines :=
  let next := src.nextLine i
  let lines := st.lines.push (spaces pending ++ src.line i next)
  let st := { st with
    lines, stop := next, kept := if st.lastLineBlank then st.kept else lines.size }
  let (current, m) := ground.enterLine src next
  let (missing, m) := m.read src 4
  if current && (missing = 0 || m.atLineEnd src) && next < src.size then
    if src.size ≤ m.pos then
      { st with stop := m.pos }
    else if _h : i < m.pos ∧ i < src.size then
      indentedLines src ground { st with lastLineBlank := src.isBlankFrom m.pos } m.pending m.pos
    else
      st
  else
    st
termination_by src.size - i
decreasing_by exact Nat.sub_lt_sub_left _h.2 _h.1

/--
The indented code block whose content is at `i`, and whether a blank line follows it. The blank
lines at its end are no part of it.
-/
def indentedCode (src : Source) (ground : Ground) (pending i : Nat) : Block × Nat × Bool :=
  let code := indentedLines src ground
    { lines := #[], kept := 0, stop := i, lastLineBlank := false } pending i
  (.code .indented (String.join (code.lines.toList.take code.kept)), code.stop, code.lastLineBlank)

/--
The lines of an HTML block, from the content at `i` on, which `pending` spaces precede. The block
ends with the line that contains `endText?`, or before a blank line.
-/
def htmlLines (src : Source) (ground : Ground) (endText? : Option String)
    (lines : Array (String × String)) (pending i : Nat) : Array (String × String) × Nat :=
  let next := src.nextLine i
  let lines := lines.push (spaces pending, src.line i next)
  let (current, m) := ground.enterLine src next
  let isLast := match endText? with
    | some text => ((src.upTo next).find? text i).isSome
    | none => m.atLineEnd src
  if !current || isLast then
    (lines, next)
  else if src.size ≤ m.pos || (endText?.isNone && src.isBlankFrom m.pos) then
    (lines, next)
  else if _h : i < m.pos ∧ i < src.size then
    htmlLines src ground endText? lines m.pending m.pos
  else
    (lines, next)
termination_by src.size - i
decreasing_by exact Nat.sub_lt_sub_left _h.2 _h.1

/-- The HTML block whose content is at `i`. -/
def htmlBlock (src : Source) (ground : Ground) (endText? : Option String) (pending i : Nat)
    : Block × Nat :=
  let (lines, stop) := htmlLines src ground endText? #[] pending i
  (.html lines.toList, stop)

end DirectedMarkdown.Markdown.Reader
