/-!
This module contains the functions that cut a text into pieces: at a separator, and after every
line feed.
-/

namespace DirectedMarkdown.Text

/--
The pieces of `s` between the occurrences of `separator`, which are found from left to right and do
not overlap. An empty separator does not occur.
-/
def splitOn (separator s : List Char) : List (List Char) :=
  go 0 [] s
where
  /-- `skip` characters of an occurrence are still to be dropped, `piece` is read backwards. -/
  go (skip : Nat) (piece : List Char) : List Char → List (List Char)
    | [] => [piece.reverse]
    | c :: rest =>
      match skip with
      | skip + 1 => go skip piece rest
      | 0 =>
        if separator ≠ [] ∧ separator.isPrefixOf (c :: rest) then
          piece.reverse :: go (separator.length - 1) [] rest
        else
          go 0 (c :: piece) rest

/-- The lines of `s`, each with its line feed. -/
def lines (s : List Char) : List (List Char) :=
  go [] s
where
  go (line : List Char) : List Char → List (List Char)
    | [] => if line.isEmpty then [] else [line.reverse]
    | c :: rest => if c = '\n' then (c :: line).reverse :: go [] rest else go (c :: line) rest

end DirectedMarkdown.Text
