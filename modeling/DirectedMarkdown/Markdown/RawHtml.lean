import DirectedMarkdown.Markdown.Container

/-!
This module contains raw HTML: the tags, comments, declarations and instructions that may stand in
running text, and the beginnings of HTML blocks. A tag in running text may reach over line ends.
What the open containers take of such a line is no part of the tag.
-/

namespace DirectedMarkdown.Markdown

/-- A place within a tag. -/
structure TagPlace where
  pos : Nat
  /-- The parts of lines that belong to containers, the last one first. -/
  cuts : List (Nat × Nat)

namespace TagPlace

/-- The text from `start` up to the place, without the cuts. -/
def textFrom (src : Source) (start : Nat) (place : TagPlace) : String :=
  go start place.cuts.reverse
where
  go (start : Nat) : List (Nat × Nat) → String
    | [] => src.slice start place.pos
    | (a, b) :: rest => src.slice start a ++ go b rest

/-- Goes to the content of the line that starts at `i`, where line ends are allowed. -/
def enterLine? (src : Source) (path? : Option (List Container)) (i : Nat) (cuts : List (Nat × Nat))
    : Option TagPlace :=
  path?.map fun path =>
    let j := Container.contentStart src path i
    { pos := j, cuts := if i = j then cuts else (i, j) :: cuts }

/-- Skips blank space. The end of the source is not blank. -/
def skipSpace? (src : Source) (path? : Option (List Container)) (place : TagPlace)
    : Option TagPlace :=
  if place.pos < src.size then
    if src.satisfies isLineSpace place.pos then
      skipSpace? src path? { place with pos := place.pos + 1 }
    else
      match src.lineEnd? place.pos with
      | none => some place
      | some i =>
        match enterLine? src path? i place.cuts with
        | none => none
        | some next => if place.pos < next.pos then skipSpace? src path? next else none
  else
    none
termination_by src.size - place.pos

/-- Goes behind a quoted value, up to the next `quote`. -/
def quoted? (src : Source) (path? : Option (List Container)) (quote : Char) (place : TagPlace)
    : Option TagPlace :=
  if place.pos < src.size then
    if src.has place.pos quote then
      some { place with pos := place.pos + 1 }
    else
      match src.lineEnd? place.pos with
      | none => quoted? src path? quote { place with pos := place.pos + 1 }
      | some i =>
        match enterLine? src path? i place.cuts with
        | none => none
        | some next => if place.pos < next.pos then quoted? src path? quote next else none
  else
    none
termination_by src.size - place.pos

/-- A character that may start the name of an attribute. -/
def isNameStart (c : Char) : Bool :=
  c.isAlpha || c = '_' || c = ':'

/-- A character of the name of an attribute. -/
def isNameChar (c : Char) : Bool :=
  c.isAlphanum || c = '_' || c = '.' || c = ':' || c = '-'

/-- A character of a value without quotes. -/
def isBareValueChar (c : Char) : Bool :=
  !(c ∈ ['\'', '"', ' ', '=', '>', '<', '\x60', '\n', '\r'])

/-- Goes behind the value of an attribute. -/
def value? (src : Source) (path? : Option (List Container)) (place : TagPlace) : Option TagPlace :=
  match src.get? place.pos with
  | none => none
  | some '"' => quoted? src path? '"' { place with pos := place.pos + 1 }
  | some '\'' => quoted? src path? '\'' { place with pos := place.pos + 1 }
  | some c =>
    if isBareValueChar c then some { place with pos := src.runEnd isBareValueChar place.pos }
    else none

/-- Goes behind an attribute. Blank space behind it is left to the next one. -/
def attribute? (src : Source) (path? : Option (List Container)) (place : TagPlace)
    : Option TagPlace := do
  if src.satisfies isNameStart place.pos then
    let named : TagPlace := { place with pos := src.runEnd isNameChar (place.pos + 1) }
    let sign ← named.skipSpace? src path?
    if src.has sign.pos '=' then
      let start ← { sign with pos := sign.pos + 1 }.skipSpace? src path?
      start.value? src path?
    else
      some named
  else
    none

/-- Goes behind the attributes of a start tag, to its end. -/
def attributes? (src : Source) (path? : Option (List Container)) (place : TagPlace)
    : Option TagPlace :=
  match place.skipSpace? src path? with
  | none => none
  | some next =>
    if src.has next.pos '/' || src.has next.pos '>' then
      some next
    else if next.pos = place.pos then
      none
    else
      match next.attribute? src path? with
      | none => none
      | some behind =>
        if _h : place.pos < behind.pos ∧ place.pos < src.size then attributes? src path? behind
        else none
termination_by src.size - place.pos

end TagPlace

namespace Source

/-- The place behind the tag whose `<` is at `i`. Without a path the tag has to end on its line. -/
def tag? (src : Source) (path? : Option (List Container)) (i : Nat) : Option TagPlace := do
  let closing := src.has (i + 1) '/'
  let nameStart := if closing then i + 2 else i + 1
  if src.satisfies Char.isAlpha nameStart then
    let named : TagPlace :=
      { pos := src.runEnd (fun c => c.isAlphanum || c = '-') nameStart, cuts := [] }
    let place ← if closing then some named else named.attributes? src path?
    let spaced := src.skipSpace place.pos
    let stop := if !closing && src.has spaced '/' then spaced + 1 else spaced
    if src.has stop '>' then some { place with pos := stop + 1 } else none
  else
    none

/-- The position behind the first `s` at or behind `i`. -/
def find? (src : Source) (s : String) (i : Nat) : Option Nat :=
  if i < src.size then
    if src.startsWith i s then some (i + s.length) else src.find? s (i + 1)
  else
    none
termination_by src.size - i

/-- The position behind a comment, a section or a declaration whose `<!` ends at `i`. -/
def declaration? (src : Source) (i : Nat) : Option Nat :=
  if src.startsWith i "--" then
    src.find? "-->" i
  else if src.startsWith i "[CDATA[" then
    let brackets := src.runEnd (· ≠ ']') (i + 7)
    let stop := src.runEnd (· = ']') brackets
    if brackets < stop && src.has stop '>' then some (stop + 1) else none
  else if src.satisfies Char.isAlpha i then
    let stop := src.runEnd (· ≠ '>') i
    if src.has stop '>' then some (stop + 1) else none
  else
    none

/-- The raw HTML whose `<` is at `i`: its text, and the position behind it. -/
def inlineHtml? (src : Source) (path : List Container) (i : Nat) : Option (String × Nat) :=
  if src.has (i + 1) '!' then
    (src.declaration? (i + 2)).map fun stop => (src.slice i stop, stop)
  else if src.has (i + 1) '?' then
    (src.find? "?>" (i + 2)).map fun stop => (src.slice i stop, stop)
  else
    (src.tag? (some path) i).map fun place => (place.textFrom src i, place.pos)

/-- Whether the text at a position starts with `s`, which is in lower case, in any case. -/
def startsWithWord (src : Source) (i : Nat) (s : String) : Bool :=
  (src.sliceChars i (i + s.length)).map Char.toLower == s.toList

/-- The texts that end the HTML block whose `<` is before `i`, if it has such an end. -/
def htmlBlockEnd? (src : Source) (i : Nat) : Option String :=
  let isElement (name : String) : Bool :=
    src.startsWithWord i name
      && (src.get? (i + name.length)).all fun c => isSpace c || c = '>'
  if isElement "pre" then some "</pre>"
  else if isElement "style" then some "</style>"
  else if isElement "script" then some "</script>"
  else if isElement "textarea" then some "</textarea>"
  else if src.startsWith i "!--" then some "-->"
  else if src.startsWith i "?" then some "?>"
  else if src.startsWith i "![CDATA[" then some "]]>"
  else if src.has i '!' && src.satisfies Char.isAlpha (i + 1) then some ">"
  else none

/-- The elements that start an HTML block wherever they stand. -/
def blockElements : List String := [
  "address", "article", "aside", "base", "basefont", "blockquote", "body", "caption", "center",
  "col", "colgroup", "dd", "details", "dialog", "dir", "div", "dl", "dt", "fieldset", "figcaption",
  "figure", "footer", "form", "frame", "frameset", "h1", "h2", "h3", "h4", "h5", "h6", "head",
  "header", "hr", "html", "iframe", "legend", "li", "link", "main", "menu", "menuitem", "nav",
  "noframes", "ol", "optgroup", "option", "p", "param", "search", "section", "summary", "table",
  "tbody", "td", "tfoot", "th", "thead", "title", "tr", "track", "ul"]

/-- Whether the tag whose `<` is before `i` starts an HTML block wherever it stands. -/
def isBlockTag (src : Source) (i : Nat) : Bool :=
  let start := if src.has i '/' then i + 1 else i
  let stop := src.runEnd Char.isAlphanum start
  let name := String.ofList ((src.sliceChars start stop).map Char.toLower)
  blockElements.contains name
    && match src.get? stop with
      | none => true
      | some '/' => src.has (stop + 1) '>'
      | some c => c = ' ' || c = '\t' || c = '\r' || c = '\n' || c = '>'

/-- Whether a single tag is all there is on the line, from its `<` at `i` on. -/
def isLoneTag (src : Source) (i : Nat) : Bool :=
  match src.tag? none i with
  | none => false
  | some place => src.isBlankFrom place.pos

end Source

end DirectedMarkdown.Markdown
