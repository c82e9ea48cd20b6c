/-!
This module contains the search for non-overlapping hits in a text, from left to right. What a hit
is is given by a function that looks at one place of the text: it gets the character before the
place and the text after it, and answers with the length of the hit there, or with zero.
-/

namespace DirectedMarkdown.Text

/-- A piece of a searched text. -/
inductive Piece where
  /-- What lies between hits. -/
  | plain (content : List Char)
  | hit (content : List Char)
  deriving DecidableEq

namespace Piece

/-- The text of a piece. -/
def content : Piece → List Char
  | plain content | hit content => content

end Piece

/-- A piece without hits, read backwards, if there is anything in it. -/
def plainPiece (reversed : List Char) : List Piece :=
  if reversed.isEmpty then [] else [.plain reversed.reverse]

/-- Cuts the text `s` at its hits. The search goes on behind each hit. -/
def cut (hitLength : Option Char → List Char → Nat) (s : List Char) : List Piece :=
  go none [] s
where
  /-- `plain` is what was passed since the last hit, read backwards. -/
  go (before : Option Char) (plain : List Char) (s : List Char) : List Piece :=
    match s with
    | [] => plainPiece plain
    | c :: rest =>
      match hitLength before (c :: rest) with
      | 0 => go (some c) (c :: plain) rest
      | n + 1 =>
        plainPiece plain ++ .hit (c :: rest.take n)
          :: go (some ((rest.take n).getLastD c)) [] (rest.drop n)
  termination_by s.length

end DirectedMarkdown.Text
