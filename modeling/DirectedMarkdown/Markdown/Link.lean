import DirectedMarkdown.Html.Reference
import DirectedMarkdown.Markdown.Container
import DirectedMarkdown.Text.CaseFold
import DirectedMarkdown.Text.Punctuation

/-!
This module contains the parts that links and their definitions are written with: labels and
destinations, and the meaning of escapes and character references in them.
-/

namespace DirectedMarkdown.Markdown

/-- The character reference at a position, and the position behind it. -/
def Source.reference? (src : Source) (i : Nat) : Option (String × Nat) :=
  (Html.reference? (src.sliceChars i (i + Html.referenceLimit))).map fun (text, length) =>
    (text, i + length)

namespace Link

/--
The meaning of a text with escapes and character references. Within a table, where a pipe has to be
escaped once more, two backslashes before a pipe vanish.
-/
def unescapeChars (inTable : Bool) (s : List Char) : List Char :=
  match s with
  | [] => []
  | '\\' :: '\\' :: '|' :: rest =>
    if inTable then '|' :: unescapeChars inTable rest
    else '\\' :: unescapeChars inTable ('|' :: rest)
  | '\\' :: c :: rest =>
    if Text.isAsciiPunctuation c then c :: unescapeChars inTable rest
    else '\\' :: unescapeChars inTable (c :: rest)
  | '\r' :: rest => unescapeChars inTable rest
  | c :: rest =>
    match Html.reference? (c :: rest) with
    | some (text, length) => text.toList ++ unescapeChars inTable (rest.drop (length - 1))
    | none => c :: unescapeChars inTable rest
termination_by s.length

/-- The meaning of a text with escapes and character references. -/
def unescape (inTable : Bool) (s : String) : String :=
  String.ofList (unescapeChars inTable s.toList)

/-- What a character adds to the length of a label. -/
def labelWeight (c : Char) : Nat :=
  if c.toNat < 0x80 then 0 else c.utf8Size

/-- Whether an escape starts at a position. -/
def isEscape (src : Source) (i : Nat) : Bool :=
  src.has i '\\' && src.satisfies Text.isAsciiPunctuation (i + 1)

/-- A label that is being read. -/
structure LabelState where
  pos : Nat
  /-- What was read, backwards. -/
  read : List Char
  weight : Nat
  isBlank : Bool

/--
Reads blank space in a label, which counts as one space. There may be one line end in it;
`nextLine?` says where the next line goes on.
-/
def labelSpace? (src : Source) (nextLine? : Nat → Option Nat) (sawLineEnd : Bool) (i : Nat)
    : Option Nat :=
  if src.satisfies isLineSpace i then
    if i < src.size then labelSpace? src nextLine? sawLineEnd (i + 1) else none
  else if src.satisfies isLineEnd i then
    if sawLineEnd then
      none
    else
      match (src.lineEnd? i).bind nextLine? with
      | none => none
      | some j => if i < j ∧ i < src.size then labelSpace? src nextLine? true j else none
  else
    some i
termination_by src.size - i

/--
What an escape at `i` adds to a label, backwards: it is kept with its backslash, but for a pipe in a
table.
-/
def labelEscape (src : Source) (inTable : Bool) (i : Nat) : List Char :=
  if inTable && src.has (i + 1) '|' then ['|'] else (src.sliceChars i (i + 2)).reverse

/-- Drops a space at both ends of a label. -/
def trimLabel (label : List Char) : List Char :=
  let label := if label.head? == some ' ' then label.drop 1 else label
  if label.getLast? == some ' ' then label.dropLast else label

/--
Reads a label, from behind its opening bracket on, and answers with the label and the position
behind its closing bracket. A label has something in it, and no brackets but escaped ones. Blank
space at its ends is no part of it.
-/
def label? (src : Source) (nextLine? : Nat → Option Nat) (inTable : Bool) (i : Nat)
    : Option (String × Nat) :=
  go { pos := i, read := [], weight := 0, isBlank := true }
where
  go (st : LabelState) : Option (String × Nat) :=
    if st.pos < src.size ∧ st.weight < 1000 then
      match src.get? st.pos with
      | none => none
      | some '[' => none
      | some ']' =>
        if st.isBlank then none
        else some (String.ofList (trimLabel st.read.reverse), st.pos + 1)
      | some c =>
        if isEscape src st.pos then
          go { pos := st.pos + 2, read := labelEscape src inTable st.pos ++ st.read
               weight := st.weight + 2, isBlank := false }
        else if isSpace c then
          match labelSpace? src nextLine? false st.pos with
          | none => none
          | some j =>
            if st.pos < j then
              go { st with
                pos := j, read := ' ' :: st.read, weight := st.weight + (j - st.pos) }
            else
              none
        else
          go { pos := st.pos + 1, read := c :: st.read, weight := st.weight + labelWeight c
               isBlank := false }
    else
      none
  termination_by src.size - st.pos

/-- Under which text a label is known: case does not matter. -/
def labelKey (label : String) : String :=
  Text.foldCase label

/-- The position of the bracket that ends a destination between angle brackets. -/
def angleEnd? (src : Source) (i : Nat) : Option Nat :=
  if i < src.size then
    if src.has i '>' then some i
    else if src.has i '<' || src.satisfies isLineEnd i then none
    else if isEscape src i then angleEnd? src (i + 2)
    else angleEnd? src (i + 1)
  else
    none
termination_by src.size - i

/-- The number of parentheses that may be open in a destination. -/
def maxDepth : Nat :=
  33

/--
The end of a destination without angle brackets. Of its parentheses, `depth` are open at `i`.
-/
def bareEnd? (src : Source) (depth i : Nat) : Option Nat :=
  if i < src.size then
    if src.satisfies (·.toNat ≤ 0x20) i then
      if depth = 0 then some i else none
    else if src.has i '(' then
      if depth < maxDepth then bareEnd? src (depth + 1) (i + 1) else none
    else if src.has i ')' then
      if depth = 0 then some i else bareEnd? src (depth - 1) (i + 1)
    else if isEscape src i then
      bareEnd? src depth (i + 2)
    else
      bareEnd? src depth (i + 1)
  else if depth = 0 then
    some i
  else
    none
termination_by src.size - i

/-- The destination at `i`, and the position behind it. -/
def destination? (src : Source) (i : Nat) : Option (String × Nat) :=
  if src.has i '<' then
    (angleEnd? src (i + 1)).map fun stop => (src.slice (i + 1) stop, stop + 1)
  else
    (bareEnd? src 0 i).map fun stop => (src.slice i stop, stop)

end Link

end DirectedMarkdown.Markdown
