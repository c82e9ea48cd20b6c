/-!
This module contains the escapes of written HTML: `escape` for attribute values and generated text,
`escapeText` for running text, which keeps quotes, `escapeHeading` for the attributes of headings,
and `escapeUrl` for the values of URL attributes. `unescape` undoes `escape`.
-/

namespace DirectedMarkdown.Html

/-- The escape of one character in an attribute value or in generated text. -/
def escapeChar : Char → List Char
  | '&' => ['&', 'a', 'm', 'p', ';']
  | '<' => ['&', 'l', 't', ';']
  | '>' => ['&', 'g', 't', ';']
  | '"' => ['&', 'q', 'u', 'o', 't', ';']
  | '\'' => ['&', '#', 'x', '2', '7', ';']
  | c => [c]

/-- Escapes the five characters with a meaning in HTML. -/
def escapeChars (s : List Char) : List Char :=
  s.flatMap escapeChar

/-- Escapes the five characters with a meaning in HTML. -/
def escape (s : String) : String :=
  String.ofList (escapeChars s.toList)

/-- Reads the five escapes of `escapeChars` from left to right and keeps all else. -/
def unescapeChars : List Char → List Char
  | [] => []
  | '&' :: 'a' :: 'm' :: 'p' :: ';' :: rest => '&' :: unescapeChars rest
  | '&' :: 'l' :: 't' :: ';' :: rest => '<' :: unescapeChars rest
  | '&' :: 'g' :: 't' :: ';' :: rest => '>' :: unescapeChars rest
  | '&' :: 'q' :: 'u' :: 'o' :: 't' :: ';' :: rest => '"' :: unescapeChars rest
  | '&' :: '#' :: 'x' :: '2' :: '7' :: ';' :: rest => '\'' :: unescapeChars rest
  | c :: rest => c :: unescapeChars rest

/-- Reads the five escapes of `escape` from left to right and keeps all else. -/
def unescape (s : String) : String :=
  String.ofList (unescapeChars s.toList)

/-- The escape of one character of running text, where quotes have no meaning. -/
def escapeTextChar : Char → List Char
  | '&' => ['&', 'a', 'm', 'p', ';']
  | '<' => ['&', 'l', 't', ';']
  | '>' => ['&', 'g', 't', ';']
  | c => [c]

/-- Escapes running text. -/
def escapeText (s : String) : String :=
  String.ofList (s.toList.flatMap escapeTextChar)

/-- The escape of one character in an attribute of a heading. -/
def escapeHeadingChar : Char → List Char
  | '\'' => ['&', '#', '3', '9', ';']
  | c => escapeChar c

/-- Escapes the name or the value of an attribute of a heading. -/
def escapeHeading (s : String) : String :=
  String.ofList (s.toList.flatMap escapeHeadingChar)

/-- Whether a character may stand in a URL attribute as it is. -/
def isUrlSafe (c : Char) : Bool :=
  c.isAlphanum || c ∈ ['!', '#', '$', '%', '(', ')', '*', '+', ',', '-', '.', '/', ':', ';', '=',
    '?', '@', '^', '_', '~']

/-- The upper-case hexadecimal digit of a value below 16. -/
def hexDigit (n : Nat) : Char :=
  if n < 10 then Char.ofNat (48 + n) else Char.ofNat (55 + n)

/-- One byte as `%` and two hexadecimal digits. -/
def percentEncode (b : UInt8) : List Char :=
  ['%', hexDigit (b.toNat / 16), hexDigit (b.toNat % 16)]

/-- The escape of one character in a URL attribute: its bytes, where it is not safe. -/
def escapeUrlChar (c : Char) : List Char :=
  if isUrlSafe c then [c]
  else if c = '&' then ['&', 'a', 'm', 'p', ';']
  else if c = '\'' then ['&', '#', 'x', '2', '7', ';']
  else (String.utf8EncodeChar c).flatMap percentEncode

/-- Escapes the value of a URL attribute. -/
def escapeUrl (s : String) : String :=
  String.ofList (s.toList.flatMap escapeUrlChar)

end DirectedMarkdown.Html
