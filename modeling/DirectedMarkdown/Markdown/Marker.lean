import DirectedMarkdown.Markdown.Margin
import DirectedMarkdown.Text.Digit

/-!
This module contains the marks by which a line starts a block: list markers, thematic breaks,
headings, code fences, and the boxes of tasks.
-/

namespace DirectedMarkdown.Markdown

/-- The mark of a list item. -/
structure ListMarker where
  /-- A bullet, or the character behind a number. -/
  mark : Char
  /-- The number, or zero for a bullet. -/
  number : Nat
  /-- The position behind the mark. -/
  stop : Nat
  deriving DecidableEq

namespace Source

/-- Whether `c` is a bullet. -/
def isBullet (c : Char) : Bool :=
  c = '-' || c = '+' || c = '*'

/--
The mark of a list item at `i`: a bullet, or at most nine digits before a point or parenthesis.
-/
def listMarker? (src : Source) (i : Nat) : Option ListMarker :=
  match src.get? i with
  | none => none
  | some c =>
    if isBullet c then
      some { mark := c, number := 0, stop := i + 1 }
    else
      let digitsEnd := src.runEnd Char.isDigit i
      match src.get? digitsEnd with
      | none => none
      | some d =>
        if (d = '.' || d = ')') && i < digitsEnd && digitsEnd ≤ i + 9 then
          let number := Text.ofDigits 10 (src.sliceChars i digitsEnd)
          some { mark := d, number, stop := digitsEnd + 1 }
        else
          none

/-- The position behind a thematic break: three or more of one mark on a line of its own. -/
def ruleEnd? (src : Source) (i : Nat) : Option Nat :=
  match src.get? i with
  | none => none
  | some c =>
    if c = '*' || c = '-' || c = '_' then
      let stop := src.runEnd (fun d => d = c || d = ' ' || d = '\t') i
      if 3 ≤ (src.sliceChars i stop).count c then src.lineEnd? stop else none
    else
      none

/-- The level of the heading that starts at `i`, by the number of its hash signs. -/
def headingLevel? (src : Source) (i : Nat) : Option Nat :=
  let stop := src.runEnd (· = '#') i
  let level := stop - i
  if 1 ≤ level && level ≤ 6 && (src.get? stop).all isSpace then some level else none

/-- The level of the heading that is underlined at `i`, and the position behind the underline. -/
def underline? (src : Source) (i : Nat) : Option (Nat × Nat) :=
  match src.get? i with
  | some '=' => (src.blankEnd? (src.runEnd (· = '=') i)).map fun stop => (1, stop)
  | some '-' => (src.blankEnd? (src.runEnd (· = '-') i)).map fun stop => (2, stop)
  | _ => none

/-- The character of the code fence that starts at `i`, and its length. -/
def fence? (src : Source) (i : Nat) : Option (Char × Nat) :=
  match src.get? i with
  | none => none
  | some c =>
    if c = '\x60' || c = '~' then
      let stop := src.runEnd (· = c) i
      let info := src.sliceChars stop (src.nextLine stop)
      if 3 ≤ stop - i && !(c = '\x60' && '\x60' ∈ info) then some (c, stop - i) else none
    else
      none

/--
The position behind the line of a fence at `i` that closes one of `length` characters `c`. There may
be nothing but spaces behind the fence.
-/
def fenceEnd? (src : Source) (c : Char) (length i : Nat) : Option Nat :=
  let stop := src.runEnd (· = c) i
  if src.size ≤ i then some i
  else if length ≤ stop - i then src.lineEnd? (src.runEnd (· = ' ') stop)
  else none

end Source

namespace Margin

/--
The column at which the content behind a marker starts, and the place of the content. The marker
starts at the column `columns` and is `width` wide. Content that is indented by four columns more is
code, and starts right behind the space of the marker.
-/
def content (src : Source) (columns width : Nat) (m : Margin) : Nat × Margin :=
  let indent := columns + width + 1
  if src.isBlankFrom m.pos then
    (indent, m)
  else
    let (extra, inner) := m.readUpTo src 4
    if extra < 4 then (indent + extra, inner) else (indent, m)

/-- Reads the mark of a list item, and answers with the column at which its content starts. -/
def listItem? (src : Source) (columns : Nat) (m : Margin) : Option (ListMarker × Nat × Margin) :=
  match src.listMarker? m.pos with
  | none => none
  | some marker =>
    if (src.ruleEnd? m.pos).isSome then
      none
    else
      ({ m with pos := marker.stop }.afterMarker? src).map fun (inner : Margin) =>
        (marker, inner.content src columns (marker.stop - m.pos))

/--
Reads the mark of a definition, and answers with the column at which its content starts. No space
has to stand behind the mark.
-/
def definition? (src : Source) (columns : Nat) (m : Margin) : Option (Nat × Margin) :=
  (m.char? src ':').map fun (behind : Margin) =>
    match behind.read? src 1 with
    | some inner => inner.content src columns 1
    | none => (columns + 1, behind)

/--
Reads the box of a task, and answers with whether it is checked. Blank space has to follow the box.
-/
def taskBox? (src : Source) (m : Margin) : Option (Bool × Margin) := do
  let (_, m) := m.readUpTo src 3
  let m ← m.char? src '['
  let checked ←
    if src.satisfies isLineSpace m.pos then some false
    else if src.has m.pos 'x' || src.has m.pos 'X' then some true
    else none
  let m ← { m with pos := m.pos + 1 }.char? src ']'
  if src.satisfies isSpace m.pos then some (checked, m) else none

end Margin

end DirectedMarkdown.Markdown
