import DirectedMarkdown.Text.Blank
import DirectedMarkdown.Text.Cut
import DirectedMarkdown.Text.Word

/-!
This module contains the search for bare URLs in running text. A bare URL starts with `http://` or
`https://`, not within a word. It ends with the last word character before the next blank character
or `<`, and with the slashes that follow that character.
-/

namespace DirectedMarkdown.Url

/-- The length of the scheme and the slashes that `s` starts with. -/
def schemeLength (s : List Char) : Nat :=
  if "http://".toList.isPrefixOf s then 7
  else if "https://".toList.isPrefixOf s then 8
  else 0

/-- Whether a character can be part of a bare URL. -/
def isBareChar (c : Char) : Bool :=
  !Text.isBlank c && c != '<'

/-- The length of the longest beginning of `run` that ends in a word character. -/
def coreLength (run : List Char) : Nat :=
  (Text.dropEndWhile (!Text.isWord ·) run).length

/-- The length of the bare URL at a place of a text, or zero if there is none. -/
def bareLength (before : Option Char) (s : List Char) : Nat :=
  if Text.isWordAt before || schemeLength s = 0 then
    0
  else
    let run := (s.drop (schemeLength s)).takeWhile isBareChar
    let core := coreLength run
    if core = 0 then 0
    else schemeLength s + core + ((run.drop core).takeWhile (· = '/')).length

/-- Cuts a text at its bare URLs. -/
def cutBare (s : List Char) : List Text.Piece :=
  Text.cut bareLength s

end DirectedMarkdown.Url
