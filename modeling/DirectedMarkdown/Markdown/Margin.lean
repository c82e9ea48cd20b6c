import DirectedMarkdown.Markdown.Source

/-!
This module contains places in the leading space of a line. Leading space is measured in columns: a
tab reaches to the next multiple of four, and may be read in part.
-/

namespace DirectedMarkdown.Markdown

/-- A place in the leading space of a line. -/
structure Margin where
  pos : Nat
  /-- The position from which tab stops are counted. -/
  tabStart : Nat
  /-- The columns of the tab before `pos` that are not read yet. -/
  pending : Nat

namespace Margin

/-- The start of a line. -/
def start (i : Nat) : Margin where
  pos := i
  tabStart := i
  pending := 0

/-- Reads up to `n` columns of space, and answers with the number of columns that are missing. -/
def read (src : Source) (n : Nat) (m : Margin) : Nat × Margin :=
  if n ≤ m.pending then (0, { m with pending := m.pending - n })
  else go (n - m.pending) { m with pending := 0 }
where
  go (n : Nat) (m : Margin) : Nat × Margin :=
    if n = 0 then
      (0, m)
    else if src.has m.pos ' ' then
      go (n - 1) { m with pos := m.pos + 1 }
    else if src.has m.pos '\t' then
      let width := 4 - (m.pos - m.tabStart) % 4
      go (n - min width n) { pos := m.pos + 1, tabStart := m.pos + 1, pending := width - n }
    else
      (n, m)
  termination_by n
  decreasing_by all_goals omega

/-- Reads up to `n` columns of space, and answers with the number of columns that were read. -/
def readUpTo (src : Source) (n : Nat) (m : Margin) : Nat × Margin :=
  let (missing, m) := m.read src n
  (n - missing, m)

/-- Reads `n` columns of space. -/
def read? (src : Source) (n : Nat) (m : Margin) : Option Margin :=
  let (missing, m) := m.read src n
  if missing = 0 then some m else none

/-- Reads all the space there is. -/
def readAll (src : Source) (m : Margin) : Margin :=
  { m with pos := src.runEnd (fun c => c = ' ' || c = '\t') m.pos, pending := 0 }

/-- Reads the character `c`. -/
def char? (src : Source) (c : Char) (m : Margin) : Option Margin :=
  if src.has m.pos c then some { m with pos := m.pos + 1 } else none

/-- Whether the line ends here. -/
def atLineEnd (src : Source) (m : Margin) : Bool :=
  src.atLineEnd m.pos

/-- Reads the space that has to stand behind a marker: one column, if the line does not end. -/
def afterMarker? (src : Source) (m : Margin) : Option Margin :=
  let (missing, m) := m.read src 1
  if missing = 0 || m.atLineEnd src then some m else none

end Margin

end DirectedMarkdown.Markdown
