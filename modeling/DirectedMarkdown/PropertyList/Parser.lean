import DirectedMarkdown.PropertyList
import DirectedMarkdown.Text.Blank
import DirectedMarkdown.Text.Quoted
import DirectedMarkdown.Text.Split

/-!
This module contains the written form of property lists: entries `key=value` or `key:value`, with a
separator between them. Blank space around entries, keys and values does not count, and a blank
entry is no entry.
-/

namespace DirectedMarkdown

/-- An entry that has no value. -/
structure MalformedEntry where
  /-- The entry without the blank space around it. -/
  entry : String
  deriving DecidableEq

namespace MalformedEntry

def message (e : MalformedEntry) : String :=
  "malformed property entry " ++ Text.quoted e.entry ++ ": expected `key=value` or `key:value`"

end MalformedEntry

namespace PropertyList

/-- The characters that can end a key. -/
def isPairMark (c : Char) : Bool :=
  c = '=' || c = ':'

/-- The key and the value of an entry, which end and begin at its first pair mark. -/
def splitEntry (entry : List Char) : Option (List Char × List Char) :=
  match entry.dropWhile (!isPairMark ·) with
  | [] => none
  | _ :: value => some (Text.trimChars (entry.takeWhile (!isPairMark ·)), Text.trimChars value)

/-- Inserts one written entry, if it is not blank. -/
def insertEntry (list : PropertyList) (piece : List Char) : Except MalformedEntry PropertyList :=
  let entry := Text.trimChars piece
  if entry.isEmpty then
    .ok list
  else
    match splitEntry entry with
    | none => .error ⟨String.ofList entry⟩
    | some (key, value) => .ok (list.insert (String.ofList key) (String.ofList value))

/--
Reads the entries between the occurrences of `separator`. The first malformed one is reported.
-/
def parse (input separator : String) : Except MalformedEntry PropertyList :=
  (Text.splitOn separator.toList input.toList).foldlM insertEntry empty

end PropertyList

end DirectedMarkdown
