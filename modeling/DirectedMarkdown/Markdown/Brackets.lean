import DirectedMarkdown.Markdown.Autolink
import DirectedMarkdown.Markdown.Inline
import DirectedMarkdown.Markdown.LinkDefinition
import DirectedMarkdown.Markdown.Token

/-!
This module contains the step from tokens to pieces: code spans, raw HTML, links, images and
references to footnotes are found. Brackets that do not belong to any of these are text.
-/

namespace DirectedMarkdown.Markdown

/-- What a document knows of the targets of links and of footnotes. -/
structure Targets where
  /-- The targets of links under the keys of their labels. -/
  links : List (String × LinkTarget)
  /-- The keys of the labels of footnotes. -/
  footnotes : List String

/-- Where running text stands. -/
structure InlineContext where
  /-- The source up to the end of the block. -/
  src : Source
  path : List Container
  inTable : Bool
  targets : Targets

/-- A bracket that has been opened. -/
structure OpenBracket where
  isImage : Bool
  /-- Whether a link within the brackets has made it text. -/
  isDisabled : Bool
  /-- The position of the bracket. -/
  pos : Nat
  /-- What follows the bracket, the last piece first. -/
  inner : List Piece

namespace OpenBracket

/-- The bracket as text. -/
def text (bracket : OpenBracket) : Piece :=
  .content (.text (if bracket.isImage then "![" else "["))

end OpenBracket

/-- Running text in which brackets are being matched. -/
structure BracketState where
  /-- What is outside of all open brackets, the last piece first. -/
  base : List Piece
  /-- The open brackets, from the innermost one on. -/
  brackets : List OpenBracket
  /-- How much may still be written for references to link definitions. -/
  budget : Nat

namespace BracketState

/-- Adds pieces, the last one first. -/
def push (st : BracketState) (pieces : List Piece) : BracketState :=
  match st.brackets with
  | [] => { st with base := pieces ++ st.base }
  | bracket :: rest =>
    { st with brackets := { bracket with inner := pieces ++ bracket.inner } :: rest }

/-- Adds text, if there is any. -/
def pushText (st : BracketState) (text : String) : BracketState :=
  if text.isEmpty then st else st.push [.content (.text text)]

/-- Adds an event. -/
def pushEvent (st : BracketState) (event : Event) : BracketState :=
  st.push [.content event]

/-- Opens a bracket. -/
def «open» (st : BracketState) (isImage : Bool) (pos : Nat) : BracketState :=
  { st with brackets := { isImage, isDisabled := false, pos, inner := [] } :: st.brackets }

/-- Makes the innermost bracket text. -/
def dropBracket (st : BracketState) : BracketState :=
  match st.brackets with
  | [] => st
  | bracket :: rest => { st with brackets := rest }.push (bracket.inner ++ [bracket.text])

/-- Makes all brackets text. -/
def dropBrackets (st : BracketState) : BracketState :=
  st.brackets.foldl (fun st _ => st.dropBracket) st

/--
The pieces between brackets, the last one first. A backslash before a line end that comes last does
not break the line if there are emphasis characters before it.
-/
def closeBreak (inner : List Piece) : List Piece :=
  match inner with
  | .backslashBreak :: rest =>
    if rest.any Piece.isDelimiters then .content (.text "\\") :: rest else inner
  | _ => inner

/-- Closes the innermost bracket. No link may be around a link. -/
def closeLink (st : BracketState) (bracket : OpenBracket) (outer : List OpenBracket)
    (target : LinkTarget) : BracketState :=
  let tag : Tag :=
    if bracket.isImage then .image target.url target.title
    else .link .regular target.url target.title
  let outer :=
    if bracket.isImage then outer
    else outer.map fun b => if b.isImage then b else { b with isDisabled := true }
  { st with brackets := outer }.push [.part tag (closeBreak bracket.inner).reverse]

end BracketState

/-- Skips the tokens before `stop`. -/
def skipTokens (stop : Nat) : List Token → List Token
  | [] => []
  | token :: rest =>
    if token.stop ≤ stop then skipTokens stop rest
    else { token with start := max token.start stop } :: rest

namespace InlineContext

/-- The position behind a line end at `i` and what the containers take of the next line. -/
def nextLine (around : InlineContext) (i : Nat) : Nat :=
  Container.contentStart around.src around.path i

/-- The characters of a code span. Each character that ends a line counts as a space. -/
def codeChars (around : InlineContext) (stop i : Nat) : List Char :=
  if i < stop ∧ i < around.src.size then
    match around.src.get? i with
    | none => []
    | some c =>
      if isLineEnd c then
        let next := min stop (around.nextLine (i + 1))
        ' ' :: if _h : i < next ∧ i < around.src.size then codeChars around stop next else []
      else if c = '\\' && around.inTable && around.src.has (i + 1) '|' then
        '|' :: codeChars around stop (i + 2)
      else
        c :: codeChars around stop (i + 1)
  else
    []
termination_by around.src.size - i
decreasing_by
  . exact Nat.sub_lt_sub_left _h.2 _h.1
  . omega
  . omega

/-- Drops a space at both ends, unless there is nothing but spaces. -/
def trimCode (code : List Char) : List Char :=
  if code.head? == some ' ' && code.getLast? == some ' ' && code.any (· ≠ ' ') then
    (code.drop 1).dropLast
  else
    code

/-- The code between two positions. -/
def code (around : InlineContext) (start stop : Nat) : String :=
  String.ofList (trimCode (around.codeChars stop start))

/-- Whether a token is a run of `count` backticks. -/
def isCodeEnd (count : Nat) (token : Token) : Bool :=
  match token.kind with
  | .backticks _ => token.stop - token.start = count
  | _ => false

/-- Reads a run of backticks, and answers with the tokens behind the code span. -/
def readCode (around : InlineContext) (st : BracketState) (token : Token) (escaped : Bool)
    (rest : List Token) : BracketState × List Token :=
  let count := token.stop - token.start - (if escaped then 1 else 0)
  match if count = 0 then [] else rest.dropWhile (!isCodeEnd count ·) with
  | [] => (st.pushText (around.src.slice token.start token.stop), rest)
  | close :: behind =>
    let st := if escaped then st.pushText "\x60" else st
    (st.pushEvent (.code (around.code token.stop close.start)), behind)

/-- Reads an angle bracket, and answers with the tokens behind the link or the tag. -/
def readAngle (around : InlineContext) (st : BracketState) (token : Token) (rest : List Token)
    : BracketState × List Token :=
  let src := around.src
  let link (kind : LinkKind) (stop : Nat) : BracketState × List Token :=
    let url := src.slice token.stop stop
    (st.push [.part (.link kind url "") [.content (.text url)]], skipTokens (stop + 1) rest)
  if rest.isEmpty then
    (st.pushText "<", rest)
  else
    match src.urlEnd? token.stop with
    | some stop => link .regular stop
    | none =>
      match src.mailEnd? token.stop with
      | some stop => link .email stop
      | none =>
        match src.inlineHtml? around.path token.start with
        | some (html, stop) => (st.pushEvent (.inlineHtml html), skipTokens stop rest)
        | none => (st.pushText "<", rest)

/-- The position behind blank space with at most one line end. -/
def separatorEnd (around : InlineContext) (i : Nat) : Nat :=
  let i := around.src.skipSpace i
  match around.src.lineEnd? i with
  | none => i
  | some next => around.src.skipSpace (around.nextLine next)

/--
The title of a link at `i`, and the position behind it. In a table two backslashes before a pipe
vanish, and with them a pipe that punctuation follows.
-/
def title? (around : InlineContext) (tokens : List Token) (i : Nat) : Option (String × Nat) :=
  match (around.src.get? i).bind LinkDefinition.titleEnd? with
  | none => none
  | some quote => go (around.src.has i '(') quote [] (i + 1)
where
  /-- Where a line end at `i` leads to: the start of the token behind it. -/
  lineStart? (i : Nat) : Option Nat :=
    match tokens.find? (i + 1 < ·.stop) with
    | none => none
    | some token => if i < token.start then some token.start else none
  go (inParentheses : Bool) (quote : Char) (read : List Char) (i : Nat) : Option (String × Nat) :=
    if i < around.src.size then
      match around.src.get? i with
      | none => none
      | some c =>
        if c = quote then
          some (String.ofList read.reverse, i + 1)
        else if inParentheses && c = '(' then
          none
        else if around.inTable && around.src.startsWith i "\\\\|" then
          let behind := around.src.get? (i + 3)
          if behind.any Text.isAsciiPunctuation then
            go inParentheses quote (behind.toList ++ read) (i + 4)
          else
            go inParentheses quote ('|' :: read) (i + 3)
        else if Link.isEscape around.src i then
          go inParentheses quote ((around.src.get? (i + 1)).toList ++ read) (i + 2)
        else if isLineEnd c then
          match lineStart? i with
          | some next =>
            if _h : i < next ∧ i < around.src.size then go inParentheses quote ('\n' :: read) next
            else none
          | none => go inParentheses quote (c :: read) (i + 1)
        else
          match around.src.reference? i with
          | some (text, stop) =>
            if _h : i < stop ∧ i < around.src.size then
              go inParentheses quote (text.toList.reverse ++ read) stop
            else
              none
          | none => go inParentheses quote (c :: read) (i + 1)
    else
      none
  termination_by around.src.size - i
  decreasing_by
    . omega
    . omega
    . omega
    . exact Nat.sub_lt_sub_left _h.2 _h.1
    . omega
    . exact Nat.sub_lt_sub_left _h.2 _h.1
    . omega

/-- The target in parentheses at `i`, and the position behind it. -/
def inlineTarget? (around : InlineContext) (tokens : List Token) (i : Nat)
    : Option (LinkTarget × Nat) := do
  if around.src.has i '(' then
    let (url, stop) ← Link.destination? around.src (around.separatorEnd (i + 1))
    let url := Link.unescape around.inTable url
    let titleStart := around.separatorEnd stop
    let (title, stop) := match around.title? tokens titleStart with
      | some (title, stop) => (title, around.separatorEnd stop)
      | none => ("", titleStart)
    if around.src.has stop ')' then some ({ url, title }, stop + 1) else none
  else
    none

/-- A label in brackets. -/
inductive Label where
  | link (label : String)
  | footnote (label : String)

/-- The label in brackets at `i`, and the position behind it. -/
def label? (around : InlineContext) (i : Nat) : Option (Label × Nat) :=
  let src := around.src
  if src.has i '[' then
    let footnote? :=
      if src.has (i + 1) '^' && !src.has (i + 2) ']' then
        Link.label? src (fun _ => none) around.inTable (i + 2)
      else
        none
    match footnote? with
    | some (label, stop) => some (.footnote label, stop)
    | none =>
      (Link.label? src (fun j => some (around.nextLine j)) around.inTable (i + 1)).map
        fun (label, stop) => (.link label, stop)
  else
    none

/-- What follows a closing bracket. -/
inductive Follower where
  /-- A label, with the position behind it. -/
  | label (label : String) (stop : Nat)
  /-- Empty brackets. -/
  | empty
  | other

/--
What follows a closing bracket, where `tokens` come next. The bracket that opens a label may be
escaped.
-/
def follower (around : InlineContext) (tokens : List Token) : Follower :=
  match tokens with
  | [] => .other
  | token :: _ =>
    if around.src.startsWith token.start "[]" then
      .empty
    else
      match around.label? token.start with
      | some (.link label, stop) => .label label stop
      | _ => .other

/-- The target under a label, and the budget that is left then. -/
def target? (around : InlineContext) (budget : Nat) (label : String) : Option (LinkTarget × Nat) :=
  if budget = 0 then
    none
  else
    (around.targets.links.lookup (Link.labelKey label)).map fun target =>
      (target, budget - (target.url.utf8ByteSize + target.title.utf8ByteSize))

/-- Marks the closing bracket before `stop`, so that it ends no reference by itself. -/
def markUsed (stop : Nat) : List Token → List Token
  | [] => []
  | token :: rest =>
    if token.stop < stop then token :: markUsed stop rest
    else { token with kind := .linkEnd false } :: rest

/-- The brackets as a link to the target under `label`, with the tokens behind it. -/
def refer (around : InlineContext) (st : BracketState) (bracket : OpenBracket)
    (outer : List OpenBracket) (label : String) (behind rest : List Token)
    : BracketState × List Token :=
  match around.target? st.budget label with
  | some (target, budget) => ({ st with budget }.closeLink bracket outer target, behind)
  | none => (st.dropBracket.pushText "]", rest)

/-- The brackets as a reference by the label in themselves, with the tokens behind it. -/
def referShortcut (around : InlineContext) (st : BracketState) (bracket : OpenBracket)
    (outer : List OpenBracket) (stop : Nat) (behind rest : List Token)
    : BracketState × List Token :=
  let failed := (st.dropBracket.pushText "]", rest)
  match around.label? bracket.pos with
  | some (label, labelStop) =>
    if labelStop ≠ stop then
      failed
    else
      match label with
      | .link label => around.refer st bracket outer label behind rest
      | .footnote label =>
        if around.targets.footnotes.contains (Link.labelKey label) then
          let st := { st with brackets := outer }.dropBrackets
          let st := if bracket.isImage then st.pushText "!" else st
          (st.pushEvent (.footnoteReference label), rest)
        else
          failed
  | none => failed

/-- Reads a closing bracket, and answers with the tokens behind the link. -/
def readClose (around : InlineContext) (st : BracketState) (token : Token) (mayRefer : Bool)
    (rest : List Token) : BracketState × List Token :=
  let failed := (st.dropBracket.pushText "]", rest)
  match st.brackets with
  | [] => failed
  | bracket :: outer =>
    if bracket.isDisabled then
      failed
    else
      match around.inlineTarget? rest token.stop with
      | some (target, stop) => (st.closeLink bracket outer target, skipTokens stop rest)
      | none =>
        match around.follower rest with
        | .label label stop =>
          around.refer st bracket outer label (skipTokens stop rest) (markUsed stop rest)
        | .empty =>
          if mayRefer then
            around.referShortcut st bracket outer token.stop (rest.drop 2) rest
          else
            failed
        | .other =>
          if mayRefer then around.referShortcut st bracket outer token.stop rest rest else failed

/-- Reads a token, and answers with the tokens behind what it starts. -/
def readToken (around : InlineContext) (st : BracketState) (token : Token) (rest : List Token)
    : BracketState × List Token :=
  match token.kind with
  | .text => (st.pushText (around.src.slice token.start token.stop), rest)
  | .reference content => (st.pushText content, rest)
  | .delimiters mark canOpen canClose =>
    (st.push [.delimiters mark (token.stop - token.start) canOpen canClose], rest)
  | .backticks escaped => around.readCode st token escaped rest
  | .angle => around.readAngle st token rest
  | .imageStart => (st.open true (token.stop - 1), rest)
  | .linkStart => (st.open false (token.stop - 1), rest)
  | .linkEnd mayRefer => around.readClose st token mayRefer rest
  | .softBreak => (st.pushEvent .softBreak, rest)
  | .hardBreak true => (st.push [.backslashBreak], rest)
  | .hardBreak false => (st.pushEvent .hardBreak, rest)
  | .taskMarker checked => (st.pushEvent (.taskMarker checked), rest)

/-- Reads tokens. -/
def readTokens (around : InlineContext) (st : BracketState) (tokens : List Token) : BracketState :=
  match tokens with
  | [] => st.dropBrackets
  | token :: rest =>
    let next := around.readToken st token rest
    if _h : next.2.length < rest.length + 1 then readTokens around next.1 next.2
    else next.1.dropBrackets
termination_by tokens.length
decreasing_by exact _h

/--
The tokens, where a backslash before a line end that comes last does not break the line if there is
more than text before it.
-/
def settleBreak (tokens : List Token) : List Token :=
  match tokens.getLast? with
  | some last =>
    if last.kind = .hardBreak true && tokens.any (·.kind.isTentative) then
      tokens.dropLast ++ [{ kind := .text, start := last.start, stop := last.start + 1 }]
    else
      tokens
  | none => tokens

/-- The running text of tokens, and the budget that is left then. -/
def inlines (around : InlineContext) (budget : Nat) (tokens : List Token) : List Inline × Nat :=
  let st := around.readTokens { base := [], brackets := [], budget } (settleBreak tokens)
  (Piece.emphasize st.base.reverse, st.budget)

end InlineContext

end DirectedMarkdown.Markdown
