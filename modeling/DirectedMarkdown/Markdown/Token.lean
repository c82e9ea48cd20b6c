import DirectedMarkdown.Html.Reference
import DirectedMarkdown.Markdown.Container
import DirectedMarkdown.Markdown.Link
import DirectedMarkdown.Markdown.TableHead
import DirectedMarkdown.Text.Blank

/-!
This module contains the tokens of running text, and how a line is cut into them. A token is a
stretch of text, or something that may turn out to have a meaning.
-/

namespace DirectedMarkdown.Markdown

/-- What a token may be. -/
inductive TokenKind where
  | text
  /-- A character reference with this meaning. -/
  | reference (content : String)
  /-- A run of one emphasis character, which may open or close emphasis. -/
  | delimiters (mark : Char) (canOpen canClose : Bool)
  /-- A run of backticks. The first of them may be escaped. -/
  | backticks (escaped : Bool)
  | angle
  | imageStart
  | linkStart
  /-- A closing bracket, which may end a shortcut reference or not. -/
  | linkEnd (mayRefer : Bool)
  | softBreak
  /-- A hard line break, by a backslash or by spaces. -/
  | hardBreak (backslash : Bool)
  | taskMarker (checked : Bool)
  deriving DecidableEq

namespace TokenKind

/-- Whether a token may turn out to have a meaning with others, or to be text. -/
def isTentative : TokenKind → Bool
  | delimiters _ _ _ | backticks _ | angle | imageStart | linkStart | linkEnd _ => true
  | _ => false

end TokenKind

/-- A token, from its first character to the position behind its last one. -/
structure Token where
  kind : TokenKind
  start : Nat
  stop : Nat
  deriving DecidableEq

/-- In what a line stands. -/
inductive LineMode where
  | plain
  /-- The first line of a paragraph, which can be the head of a table. -/
  | first (path : List Container)
  /-- A table cell, which a pipe ends. -/
  | cell
  deriving DecidableEq

/-- What is at the end of a line. -/
inductive LineBreak where
  /-- The text or the cell ends. -/
  | none
  /-- The line may go on. -/
  | token (token : Token)
  /-- The line is the head of a table with these columns. -/
  | table (alignments : List ColumnAlignment)

/-- A line that was cut into tokens. -/
structure ScannedLine where
  tokens : Array Token
  /-- The position behind the line. -/
  stop : Nat
  lineBreak : LineBreak

/-- Adds a stretch of text, if there is anything in it. It goes on the text before it. -/
def pushText (tokens : Array Token) (start stop : Nat) (goesOn : Bool) : Array Token :=
  if start < stop then
    match tokens.back? with
    | some last =>
      if last.kind = .text && last.stop = start && goesOn then
        tokens.pop.push { last with stop }
      else
        tokens.push { kind := .text, start, stop }
    | none => tokens.push { kind := .text, start, stop }
  else
    tokens

namespace Source

/-- Whether the character at a position is a pipe that has no backslash before it. -/
def isBarePipe (src : Source) (i : Nat) : Bool :=
  src.has i '|' && !(0 < i && src.has (i - 1) '\\')

/-- The character before `i` on the line that starts at `start`. -/
def before? (src : Source) (start i : Nat) : Option Char :=
  if start < i then src.get? (i - 1) else none

/--
Whether a run of `count` emphasis characters at `i` can open emphasis on the line that starts at
`start`.
-/
def canOpen (src : Source) (inCell : Bool) (mark : Char) (start count i : Nat) : Bool :=
  match src.get? (i + count), src.before? start i with
  | none, _ => false
  | some next, none => !Text.isBlank next
  | some next, some before =>
    if Text.isBlank next then false
    else if inCell && next = '|' then false
    else if mark = '*' && !Text.isPunctuation next then true
    else if mark = '~' && 1 < count then true
    else
      (mark = '~' && before = '~' && !Text.isPunctuation next)
        || Text.isBlank before || Text.isPunctuation before

/--
Whether a run of `count` emphasis characters at `i` can close emphasis on the line that starts at
`start`.
-/
def canClose (src : Source) (inCell : Bool) (mark : Char) (start count i : Nat) : Bool :=
  match src.before? start i, src.get? (i + count) with
  | none, _ => false
  | some before, none => !Text.isBlank before
  | some before, some next =>
    if Text.isBlank before then false
    else if inCell && next = '|' then true
    else
      ((mark = '*' || (mark = '~' && 1 < count)) && !Text.isPunctuation before)
        || (mark = '~' && before = '~')
        || Text.isBlank next || Text.isPunctuation next

end Source

/-- A line that is being cut into tokens. -/
structure LineState where
  tokens : Array Token
  /-- Where the current stretch of text starts. -/
  textStart : Nat
  /-- Whether the current stretch starts with an escaped character. -/
  escaped : Bool
  pipes : Nat
  lastPipe : Nat

namespace LineState

/-- Ends the current stretch of text. -/
def flush (st : LineState) (stop : Nat) : LineState :=
  { st with tokens := pushText st.tokens st.textStart stop !st.escaped, escaped := false }

/-- Adds a token, behind which the next stretch of text starts. -/
def push (st : LineState) (kind : TokenKind) (start stop : Nat) : LineState :=
  let st := st.flush start
  { st with tokens := st.tokens.push { kind, start, stop }, textStart := stop }

/-- Drops the text from the current stretch on up to `start`, from where it goes on. -/
def skipTo (st : LineState) (stop start : Nat) (escaped : Bool) : LineState :=
  { st.flush stop with textStart := start, escaped }

/-- The line as it is at its end. -/
def finish (st : LineState) (stop : Nat) (lineBreak : LineBreak) : ScannedLine where
  tokens := st.tokens
  stop := stop
  lineBreak := lineBreak

/-- The columns of the table whose head the line is, and the position behind its delimiter row. -/
def tableHead? (st : LineState) (src : Source) (start next : Nat) (mode : LineMode)
    : Option (List ColumnAlignment × Nat) :=
  match mode with
  | .first path =>
    if 0 < st.pipes then
      let (n, m) := Container.enterAll src (Margin.start next) path
      if n = path.length then
        match src.delimiterRow? m.pos with
        | some (alignments, stop) =>
          if alignments.length = src.columnCount start st.pipes st.lastPipe then
            some (alignments, stop)
          else
            none
        | none => none
      else
        none
    else
      none
  | _ => none

/-- The line at a line end at `i`, behind which the next line starts at `next`. -/
def atLineEnd (st : LineState) (src : Source) (start i next : Nat) (mode : LineMode)
    : ScannedLine :=
  let backslashes := i - src.runStart (· = '\\') 0 i
  let textEnd := src.runStart isLineSpace 0 i
  if backslashes % 2 = 1 && next < src.size then
    let st := st.flush (i - 1)
    st.finish next (.token { kind := .hardBreak true, start := i - 1, stop := next })
  else
    match st.tableHead? src start next mode with
    | some (alignments, stop) => st.finish stop (.table alignments)
    | none =>
      let kind := if 2 ≤ i - textEnd then .hardBreak false else .softBreak
      let st := st.flush textEnd
      st.finish next (.token { kind, start := textEnd, stop := next })

/-- The line at its end without a line end, at `i`. -/
def atEnd (st : LineState) (src : Source) (i : Nat) : ScannedLine :=
  (st.flush (src.runStart isLineSpace st.textStart i)).finish i .none

/-- The line behind an escape at `i`, and where to go on. -/
def escape (st : LineState) (src : Source) (inCell : Bool) (i : Nat) : LineState × Nat :=
  if src.has (i + 1) '\x60' then
    let stop := src.runEnd (· = '\x60') (i + 2)
    let st := st.flush i
    ({ st with
        tokens := st.tokens.push { kind := .backticks true, start := i + 1, stop }
        textStart := stop }, stop)
  else if inCell && src.has (i + 1) '|' then
    (st.skipTo i (i + 1) false, i + 2)
  else if inCell && src.has (i + 1) '\\' && src.has (i + 2) '|' then
    (st.skipTo i (i + 2) true, i + 3)
  else
    (st.skipTo i (i + 1) true, i + 2)

/-- The line behind a run of emphasis characters at `i`, and where to go on. -/
def emphasis (st : LineState) (whole : Source) (inCell : Bool) (mark : Char) (start i : Nat)
    : LineState × Nat :=
  let stop := whole.runEnd (· = mark) i
  let count := stop - i
  let canOpen := whole.canOpen inCell mark start count i
  let canClose := whole.canClose inCell mark start count i
  if (canOpen || canClose) && !(mark = '~' && 2 < count) then
    (st.push (.delimiters mark canOpen canClose) i stop, stop)
  else
    (st, stop)

/--
The line from `start` up to behind the character `c` at `i`, which is not a line end, and where to
go on.
-/
def char (st : LineState) (src whole : Source) (inCell : Bool) (c : Char) (start i : Nat)
    : LineState × Nat :=
  match c with
  | '\\' => if Link.isEscape src i then st.escape src inCell i else (st, i + 1)
  | '*' | '_' | '~' => st.emphasis whole inCell c start i
  | '\x60' =>
    let stop := src.runEnd (· = '\x60') i
    (st.push (.backticks false) i stop, stop)
  | '<' => if src.has (i + 1) '\\' then (st, i + 1) else (st.push .angle i (i + 1), i + 1)
  | '!' => if src.has (i + 1) '[' then (st.push .imageStart i (i + 2), i + 2) else (st, i + 1)
  | '[' => (st.push .linkStart i (i + 1), i + 1)
  | ']' => (st.push (.linkEnd true) i (i + 1), i + 1)
  | '&' =>
    match src.reference? i with
    | some (content, stop) => (st.push (.reference content) i stop, stop)
    | none => (st, i + 1)
  | '|' =>
    if src.isBarePipe i then ({ st with pipes := st.pipes + 1, lastPipe := i }, i + 1)
    else (st, i + 1)
  | _ => (st, i + 1)

end LineState

/--
Cuts the line that starts at `start` into tokens, which are added to `tokens`. The line is read from
`src`, which may end before it does in `whole`.
-/
def scanLine (src whole : Source) (mode : LineMode) (tokens : Array Token) (start : Nat)
    : ScannedLine :=
  go start { tokens, textStart := start, escaped := false, pipes := 0, lastPipe := start }
where
  go (i : Nat) (st : LineState) : ScannedLine :=
    match src.get? i with
    | none => st.atEnd src i
    | some c =>
      if mode = .cell && (isLineEnd c || src.isBarePipe i) then
        st.atEnd src i
      else if isLineEnd c then
        st.atLineEnd src start i ((src.lineEnd? i).getD (i + 1)) mode
      else
        let (st, next) := st.char src whole (mode = .cell) c start i
        if i < next ∧ i < src.size then go next st else st.atEnd src i
  termination_by src.size - i

end DirectedMarkdown.Markdown
