import DirectedMarkdown.Html.EntityTable

/-!
This module contains the lookup of named character references.
-/

namespace DirectedMarkdown.Html

/-- The code points under `name` in a table in ascending order of its names. -/
def findName (table : Array (String × List Nat)) (name : String) : Option (List Nat) :=
  go 0 table.size
where
  go (low high : Nat) : Option (List Nat) :=
    if _h : low < high then
      let middle := (low + high) / 2
      match table[middle]? with
      | none => none
      | some (key, points) =>
        if name < key then go low middle
        else if key < name then go (middle + 1) high
        else some points
    else
      none
  termination_by high - low

/-- The text that the character reference `&name;` stands for. -/
def entity? (name : String) : Option String :=
  (findName entityTable name).map fun points => String.ofList (points.map Char.ofNat)

end DirectedMarkdown.Html
