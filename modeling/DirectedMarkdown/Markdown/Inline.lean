import DirectedMarkdown.Markdown.Event

/-!
This module contains running text: pieces, in which everything but emphasis has been found, and
parts, into which `Piece.emphasize` puts them.
-/

namespace DirectedMarkdown.Markdown

/-- A piece of running text in which emphasis has not been found yet. -/
inductive Piece where
  /-- An event without parts. -/
  | content (event : Event)
  /-- A run of `count` emphasis characters. -/
  | delimiters (mark : Char) (count : Nat) (canOpen canClose : Bool)
  /-- A hard line break by a backslash. -/
  | backslashBreak
  /-- A part with a start and an end. -/
  | part (tag : Tag) (children : List Piece)

/-- Running text. -/
inductive Inline where
  | content (event : Event)
  | part (tag : Tag) (children : List Inline)

namespace Inline

/-- Text that is repeated from a source. -/
def text (s : String) : Inline :=
  content (.text s)

mutual

/-- The events of running text. -/
def events : Inline → List Event
  | content event => [event]
  | part tag children => .enter tag :: allEvents children ++ [.leave tag.element]

def allEvents : List Inline → List Event
  | [] => []
  | inline :: rest => inline.events ++ allEvents rest

end

end Inline

/-- A run of emphasis characters that has been opened. -/
structure OpenRun where
  mark : Char
  /-- The number of characters that are not used yet. -/
  count : Nat
  /-- The number of characters of the whole run. -/
  length : Nat
  /-- Whether the run can both open and close emphasis. -/
  isBoth : Bool
  /-- What follows the run, the last part first. -/
  inner : List Inline

namespace OpenRun

/-- The characters that are not used, as text. -/
def text (run : OpenRun) : Inline :=
  .text (String.ofList (List.replicate run.count run.mark))

/--
Whether a closing run of `length` characters `mark` matches. Tildes match runs of their own length.
The lengths of other runs must not add up to a multiple of three if one of the runs can both open
and close, unless both are multiples of three.
-/
def isMatchFor (run : OpenRun) (mark : Char) (length : Nat) (isBoth : Bool) : Bool :=
  run.mark = mark
    && (mark != '~' || run.length = length)
    && ((!isBoth && !run.isBoth) || (length + run.length) % 3 != 0 || length % 3 = 0)

/--
Text between `count` emphasis characters on both sides. Strong emphasis is inside of emphasis.
-/
def wrap (mark : Char) (count : Nat) (children : List Inline) : List Inline :=
  match count with
  | 0 => children
  | 1 => [.part (if mark = '~' then .strikethrough else .emphasis) children]
  | count + 2 =>
    wrap mark count [.part (if mark = '~' then .strikethrough else .strong) children]

end OpenRun

/-- Running text in which emphasis is being found. -/
structure EmphasisState where
  /-- What is outside of all open runs, the last part first. -/
  base : List Inline
  /-- The open runs, from the innermost one on. -/
  runs : List OpenRun
  /-- The number of outermost runs that tildes are not matched with any more. -/
  tildeBound : Nat

namespace EmphasisState

/-- The start of running text. -/
def empty : EmphasisState where
  base := []
  runs := []
  tildeBound := 0

/-- Adds parts, the last one first. -/
def push (st : EmphasisState) (parts : List Inline) : EmphasisState :=
  match st.runs with
  | [] => { st with base := parts ++ st.base }
  | run :: rest => { st with runs := { run with inner := parts ++ run.inner } :: rest }

/-- Makes the innermost run text. -/
def dropRun (st : EmphasisState) : EmphasisState :=
  match st.runs with
  | [] => st
  | run :: rest => { st with runs := rest }.push (run.inner ++ [run.text])

/-- Makes the `n` innermost runs text. -/
def dropRuns (st : EmphasisState) (n : Nat) : EmphasisState :=
  (List.range n).foldl (fun st _ => st.dropRun) st

/-- How many runs are inside of the innermost one that matches a closing run. -/
def findMatch? (st : EmphasisState) (mark : Char) (length : Nat) (isBoth : Bool) : Option Nat :=
  let bound := if mark = '~' then min st.tildeBound st.runs.length else 0
  (st.runs.take (st.runs.length - bound)).findIdx? (·.isMatchFor mark length isBoth)

/-- Ends emphasis with up to `count` characters of the innermost run. -/
def closeInnermost (st : EmphasisState) (count : Nat) : EmphasisState × Nat :=
  match st.runs with
  | [] => (st, count)
  | run :: rest =>
    let used := min count run.count
    let parts := OpenRun.wrap run.mark used run.inner.reverse
    let st := { st with tildeBound := min st.tildeBound rest.length }
    if used < run.count then
      ({ st with runs := { run with count := run.count - used, inner := parts.reverse } :: rest },
        count - used)
    else
      ({ st with runs := rest }.push parts.reverse, count - used)

/--
Matches a closing run, of which `count` characters are left, and answers with what is left then.
-/
def close (st : EmphasisState) (mark : Char) (length : Nat) (isBoth : Bool) (count : Nat)
    : EmphasisState × Nat :=
  if count = 0 then
    (st, 0)
  else
    match st.findMatch? mark length isBoth with
    | none =>
      (if mark = '~' then { st with tildeBound := st.runs.length } else st, count)
    | some n =>
      let closed := (st.dropRuns n).closeInnermost count
      if _h : closed.2 < count then close closed.1 mark length isBoth closed.2
      else closed
termination_by count
decreasing_by exact _h

/-- Adds a run of emphasis characters. -/
def addRun (st : EmphasisState) (mark : Char) (length : Nat) (canOpen canClose : Bool)
    : EmphasisState :=
  let isBoth := canOpen && canClose
  let (st, count) := if canClose then st.close mark length isBoth length else (st, length)
  let run : OpenRun := { mark, count, length, isBoth, inner := [] }
  if count = 0 then st
  else if canOpen then { st with runs := run :: st.runs }
  else st.push [run.text]

/-- The running text that was read to its end. -/
def finish (st : EmphasisState) : List Inline :=
  (st.dropRuns st.runs.length).base.reverse

end EmphasisState

/-- A piece whose own content has been put into parts. -/
inductive Settled where
  | inline (part : Inline)
  | delimiters (mark : Char) (count : Nat) (canOpen canClose : Bool)

namespace Settled

/-- Adds a piece to running text. -/
def add (st : EmphasisState) : Settled → EmphasisState
  | inline part => st.push [part]
  | delimiters mark count canOpen canClose => st.addRun mark count canOpen canClose

/-- Finds emphasis. -/
def emphasize (pieces : List Settled) : List Inline :=
  (pieces.foldl add EmphasisState.empty).finish

end Settled

namespace Piece

/-- Whether the piece is a run of emphasis characters. -/
def isDelimiters : Piece → Bool
  | delimiters _ _ _ _ => true
  | _ => false

mutual

/-- Finds emphasis within a piece. -/
def settle : Piece → Settled
  | content event => .inline (.content event)
  | delimiters mark count canOpen canClose => .delimiters mark count canOpen canClose
  | backslashBreak => .inline (.content .hardBreak)
  | part tag children => .inline (.part tag (Settled.emphasize (settleAll children)))

def settleAll : List Piece → List Settled
  | [] => []
  | piece :: rest => piece.settle :: settleAll rest

end

/-- Finds emphasis. Each link has emphasis of its own. -/
def emphasize (pieces : List Piece) : List Inline :=
  Settled.emphasize (settleAll pieces)

end Piece

end DirectedMarkdown.Markdown
