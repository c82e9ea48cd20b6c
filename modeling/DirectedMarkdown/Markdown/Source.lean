/-!
This module contains source texts, whose characters are reached by their positions, and the scans
that everything in the Markdown reader is made of: runs of characters, line ends and blank lines.
Results of scans are positions, never lengths.
-/

namespace DirectedMarkdown.Markdown

/-- A text whose characters are reached by their positions. It may end before its last character. -/
structure Source where
  chars : Array Char
  /-- The position behind the last character that is read. -/
  size : Nat

/-- A blank character that does not end a line. -/
def isLineSpace (c : Char) : Bool :=
  c = ' ' || c = '\t' || c = '\x0b' || c = '\x0c'

/-- A character that ends a line. -/
def isLineEnd (c : Char) : Bool :=
  c = '\n' || c = '\r'

/-- A blank character of ASCII. -/
def isSpace (c : Char) : Bool :=
  isLineSpace c || isLineEnd c

namespace Source

/-- The source of a whole text. -/
def ofString (s : String) : Source where
  chars := s.toList.toArray
  size := s.toList.length

/-- The source up to the position `stop`. -/
def upTo (src : Source) (stop : Nat) : Source where
  chars := src.chars
  size := min stop src.size

/-- The character at a position. -/
def get? (src : Source) (i : Nat) : Option Char :=
  if i < src.size then src.chars[i]? else none

/-- Whether the character `c` is at a position. -/
def has (src : Source) (i : Nat) (c : Char) : Bool :=
  src.get? i == some c

/-- Whether a character at a position satisfies `p`. -/
def satisfies (src : Source) (p : Char → Bool) (i : Nat) : Bool :=
  (src.get? i).any p

/-- The characters between two positions. -/
def sliceChars (src : Source) (start stop : Nat) : List Char :=
  (src.chars.extract start (min stop src.size)).toList

/-- The text between two positions. -/
def slice (src : Source) (start stop : Nat) : String :=
  String.ofList (src.sliceChars start stop)

/-- Whether the text at a position starts with `s`. -/
def startsWith (src : Source) (i : Nat) (s : String) : Bool :=
  src.sliceChars i (i + s.length) == s.toList

/-- The end of the run of characters with `p` that starts at `i`. -/
def runEnd (src : Source) (p : Char → Bool) (i : Nat) : Nat :=
  if i < src.size then
    if src.satisfies p i then src.runEnd p (i + 1) else i
  else
    i
termination_by src.size - i

/-- The start of the run of characters with `p` that ends before `i`, but not before `low`. -/
def runStart (src : Source) (p : Char → Bool) (low : Nat) : Nat → Nat
  | 0 => 0
  | i + 1 => if low ≤ i && src.satisfies p i then src.runStart p low i else i + 1

/-- The position behind blank characters on the same line. -/
def skipSpace (src : Source) (i : Nat) : Nat :=
  src.runEnd isLineSpace i

/-- The position behind a line end at `i`. The end of the source ends a line, too. -/
def lineEnd? (src : Source) (i : Nat) : Option Nat :=
  match src.get? i with
  | none => some i
  | some '\n' => some (i + 1)
  | some '\r' => if src.has (i + 1) '\n' then some (i + 2) else some (i + 1)
  | some _ => none

/-- Whether a line ends at `i`. -/
def atLineEnd (src : Source) (i : Nat) : Bool :=
  (src.lineEnd? i).isSome

/-- The position behind the rest of a line, if that is blank. -/
def blankEnd? (src : Source) (i : Nat) : Option Nat :=
  src.lineEnd? (src.skipSpace i)

/-- Whether the rest of a line is blank. -/
def isBlankFrom (src : Source) (i : Nat) : Bool :=
  (src.blankEnd? i).isSome

/-- The start of the next line. Only a line feed ends a line here. -/
def nextLine (src : Source) (i : Nat) : Nat :=
  min (src.runEnd (· ≠ '\n') i + 1) src.size

/-- The line from `start` up to `stop`, where `\r\n` at its end becomes `\n`. -/
def line (src : Source) (start stop : Nat) : String :=
  if src.has (stop - 2) '\r' then src.slice start (stop - 2) ++ src.slice (stop - 1) stop
  else src.slice start stop

end Source

end DirectedMarkdown.Markdown
