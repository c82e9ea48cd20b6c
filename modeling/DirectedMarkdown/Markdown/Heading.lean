import DirectedMarkdown.Markdown.Event
import DirectedMarkdown.Markdown.Token

/-!
This module contains headings: their attributes in braces, and where their text ends.
-/

namespace DirectedMarkdown.Markdown

namespace HeadingAttributes

/-- Adds a word of an attribute block. A word of one byte has no meaning. -/
def addWord (attributes : HeadingAttributes) (word : List Char) : HeadingAttributes :=
  if (String.ofList word).utf8ByteSize ≤ 1 then
    attributes
  else
    match word with
    | '#' :: id => { attributes with id := some (String.ofList id) }
    | '.' :: name => { attributes with classes := attributes.classes ++ [String.ofList name] }
    | word =>
      let name := String.ofList (word.takeWhile (· ≠ '='))
      let value? := match word.dropWhile (· ≠ '=') with
        | [] => none
        | _ :: value => some (String.ofList value)
      { attributes with others := attributes.others ++ [(name, value?)] }

/-- The words of an attribute block. -/
def words (block : List Char) : List (List Char) :=
  go [] block
where
  /-- The current word is read backwards. -/
  go (word : List Char) : List Char → List (List Char)
    | [] => if word.isEmpty then [] else [word.reverse]
    | c :: rest =>
      if c = ' ' || c = '\t' || c = '\n' || c = '\r' || c = '\x0c' then
        if word.isEmpty then go [] rest else word.reverse :: go [] rest
      else
        go (c :: word) rest

/-- The attributes in an attribute block. -/
def ofBlock (block : List Char) : HeadingAttributes :=
  (words block).foldl addWord empty

end HeadingAttributes

namespace Heading

/-- A character that may stand in an attribute block. -/
def isBlockChar (c : Char) : Bool :=
  !(c ∈ ['\x7b', '\x7d', '<', '>', '\\', '\n', '\r'])

/-- The end of the text of a heading, and the attributes in the braces behind it. -/
def attributes (src : Source) (start stop : Nat) : Nat × Option HeadingAttributes :=
  let close := src.runStart (fun c => isLineEnd c || c = ' ' || c = '\t') start stop
  if start < close && src.has (close - 1) '\x7d' then
    let inner := src.runStart isBlockChar start (close - 1)
    if start < inner && src.has (inner - 1) '\x7b' then
      (inner - 1, some (HeadingAttributes.ofBlock (src.sliceChars inner (close - 1))))
    else
      (stop, none)
  else
    (stop, none)

/--
The end of the text of a heading less the hash signs at its end, which a space has to precede.
-/
def textEnd (src : Source) (start stop : Nat) : Nat :=
  let limit := src.runStart (fun c => isLineEnd c || c = ' ') start stop
  let hashes := src.runStart (· = '#') start limit
  let spaces := src.runStart (· = ' ') start hashes
  if hashes = start then start
  else if spaces < hashes then spaces
  else limit

/-- Ends the last token at `stop`. -/
def endAt (tokens : Array Token) (stop : Nat) : Array Token :=
  match tokens.back? with
  | none => tokens
  | some last => tokens.pop.push { last with stop }

/-- The tokens before `stop`. A token that `stop` lies in is cut off there. -/
def truncate (src : Source) (stop : Nat) : List Token → List Token
  | [] => []
  | token :: rest =>
    if token.stop < stop then token :: truncate src stop rest
    else if token.stop = stop then [token]
    else if token.start = stop then
      if src.has (stop - 1) '\\' && 0 < stop then
        [{ token with kind := .text, start := stop - 1, stop }]
      else
        []
    else
      [{ token with stop }]

/-- A heading between its hash signs and the end of its line. -/
def ofLine (src : Source) (start stop : Nat) : Array Token × Option HeadingAttributes :=
  let (contentEnd, attributes?) := attributes src start stop
  let line := scanLine (src.upTo contentEnd) src .plain #[] start
  (endAt line.tokens (textEnd src start contentEnd), attributes?)

/--
A heading that is underlined, with the tokens of its lines. What stands behind its text is kept if
`keepEnd` is set.
-/
def ofTokens (src : Source) (start : Nat) (keepEnd : Bool) (tokens : Array Token)
    : Array Token × Option HeadingAttributes :=
  match tokens.back? with
  | none => (tokens, none)
  | some last =>
    let (contentEnd, attributes?) := attributes src start last.stop
    let stop := if keepEnd then contentEnd else src.runStart isLineSpace start contentEnd
    let tokens :=
      if attributes?.isSome then (truncate src stop tokens.toList).toArray else tokens
    (endAt tokens stop, attributes?)

end Heading

end DirectedMarkdown.Markdown
