import DirectedMarkdown.Markdown.Interrupt

/-!
This module contains the definitions that links refer to, `[label]: /url "title"`. A definition may
reach over line ends, as long as no line interrupts it.
-/

namespace DirectedMarkdown.Markdown

/-- Where a link leads. -/
structure LinkTarget where
  url : String
  title : String
  deriving DecidableEq

/-- A definition, and the position behind it. -/
structure LinkDefinition where
  label : String
  target : LinkTarget
  stop : Nat

namespace LinkDefinition

/--
The position behind blank space, and the number of line ends in it, of which there may be one.
-/
def space? (src : Source) (ground : Ground) (i : Nat) : Option (Nat × Nat) :=
  let i := src.skipSpace i
  match src.lineEnd? i with
  | none => some (i, 0)
  | some next =>
    match (ground.nextLine? src next).map src.skipSpace with
    | none => none
    | some j => if src.atLineEnd j then none else some (j, 1)

/-- The character that ends a title. -/
def titleEnd? : Char → Option Char
  | '\'' => some '\''
  | '"' => some '"'
  | '(' => some ')'
  | _ => none

/--
The title at `i`, and the position behind it. No parenthesis is opened in a title in parentheses.
A line feed stands for each line end, and the space at the start of a line is dropped.
-/
def title? (src : Source) (ground : Ground) (i : Nat) : Option (String × Nat) :=
  match (src.get? i).bind titleEnd? with
  | none => none
  | some quote => go quote [] (i + 1)
where
  go (quote : Char) (read : List Char) (i : Nat) : Option (String × Nat) :=
    if i < src.size then
      match src.get? i with
      | none => none
      | some c =>
        if c = quote then
          some (String.ofList read.reverse, i + 1)
        else if c = '(' && quote = ')' then
          none
        else if Link.isEscape src i then
          go quote ((src.sliceChars i (i + 2)).reverse ++ read) (i + 2)
        else if isLineEnd c then
          match (src.lineEnd? i).bind (ground.nextLine? src) with
          | none => none
          | some j => if i < j then go quote ('\n' :: read) j else none
        else
          go quote (c :: read) (i + 1)
    else
      none
  termination_by src.size - i

/-- The destination and the title of a definition, from behind its colon on. -/
def target? (src : Source) (ground : Ground) (i : Nat) : Option (LinkTarget × Nat) := do
  let (start, _) ← space? src ground i
  let (url, stop) ← Link.destination? src start
  if stop = start then none
  let untitled : LinkTarget := { url := Link.unescape ground.inTable url, title := "" }
  match space? src ground stop with
  | none => some (untitled, stop)
  | some (titleStart, lineEnds) =>
    if titleStart = stop then
      none
    else
      match title? src ground titleStart with
      | some (title, titleStop) =>
        if src.isBlankFrom titleStop then
          some ({ untitled with title := Link.unescape ground.inTable title }, titleStop)
        else if lineEnds = 0 then
          none
        else
          some (untitled, stop)
      | none => if lineEnds = 0 then none else some (untitled, stop)

/-- The definition at `i`. -/
def read? (src : Source) (ground : Ground) (i : Nat) : Option LinkDefinition := do
  if src.has i '[' then
    let (label, labelStop) ← Link.label? src (ground.nextLine? src) ground.inTable (i + 1)
    if src.has labelStop ':' then
      let (target, stop) ← target? src ground (labelStop + 1)
      some { label, target, stop }
    else
      none
  else
    none

end LinkDefinition

end DirectedMarkdown.Markdown
