import DirectedMarkdown.Text.Cut
import DirectedMarkdown.Text.Word

/-!
This module contains the search for abbreviations in running text. An occurrence starts and ends at
word boundaries. Where several abbreviations occur at one place, the longest counts, so that the
order of the abbreviations does not matter.
-/

namespace DirectedMarkdown.Abbreviation

/-- Whether `key` occurs at the start of `s` and ends at a word boundary there. -/
def occursAt (key s : List Char) : Bool :=
  !key.isEmpty && key.isPrefixOf s && Text.isBoundary key.getLast? (s.drop key.length).head?

/-- The length of the longest of `keys` that occurs at a place of a text, or zero. -/
def occurrenceLength (keys : List (List Char)) (before : Option Char) (s : List Char) : Nat :=
  if Text.isBoundary before s.head? then
    (keys.filter (occursAt · s)).foldl (fun longest key => max longest key.length) 0
  else
    0

/-- Cuts a text at the occurrences of `keys`. -/
def cutAt (keys : List (List Char)) (s : List Char) : List Text.Piece :=
  Text.cut (occurrenceLength keys) s

end DirectedMarkdown.Abbreviation
