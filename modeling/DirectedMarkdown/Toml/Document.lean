import DirectedMarkdown.Toml.Error
import DirectedMarkdown.Toml.Value

/-!
This module contains the meaning of a TOML document as a sequence of statements: headers, which open
tables, and assignments, which go to the table opened last. No table is defined twice, and nothing
is assigned twice.
-/

namespace DirectedMarkdown.Toml

/-- How a table came to be. -/
inductive Origin where
  /-- It has a header of its own, or is the whole document. -/
  | header
  /-- It stands above a table with a header. -/
  | implied
  /-- It stands in front of a dot in a name that is assigned to. -/
  | dotted
  deriving DecidableEq

/-- A part of a document under construction. -/
inductive Node where
  /-- A value that is complete. -/
  | value (v : Value)
  | table (origin : Origin) (entries : List (String × Node))
  /-- Tables with the same header, the earlier ones in reverse order. -/
  | elements (earlier : List (List (String × Node))) (last : List (String × Node))

/-- The entries of a table under construction. -/
abbrev Node.Entries : Type :=
  List (String × Node)

namespace Node

mutual

/-- The value of a part that is complete now. -/
def toValue : Node → Value
  | value v => v
  | table _ entries => .table (entriesToTable entries)
  | elements earlier last =>
    .array ((.table (entriesToTable last) :: tablesToValues earlier).reverse)

def entriesToTable : List (String × Node) → Table
  | [] => []
  | entry :: rest => entryToValue entry :: entriesToTable rest

def entryToValue : String × Node → String × Value
  | (name, node) => (name, node.toValue)

def tablesToValues : List (List (String × Node)) → List Value
  | [] => []
  | entries :: rest => .table (entriesToTable entries) :: tablesToValues rest

end

/-- Changes the part with a name, or adds one, if `change` allows it. -/
def alter (name : String) (change : Option Node → Option Node) : Entries → Option Entries
  | [] => (change none).map fun node => [(name, node)]
  | entry :: rest =>
    if entry.1 = name then
      (change (some entry.2)).map fun node => (name, node) :: rest
    else
      (alter name change rest).map (entry :: ·)

/--
Changes the table that a path leads to, through the last one of tables with the same header.
Missing tables on the way are made with the origin `made`. Dots do not lead through a table with a
header, and after them no table on the way may get its own one.
-/
def within (made : Origin) (change : Origin → Entries → Option Entries)
    : List String → Origin → Entries → Option Entries
  | [], origin, entries => change origin entries
  | name :: path, _, entries =>
    entries |> alter name fun
      | none => (within made change path made []).map (table made)
      | some (value _) => none
      | some (table origin inner) =>
        if made = .dotted ∧ origin = .header then
          none
        else
          let origin := if made = .dotted then .dotted else origin
          (within made change path origin inner).map (table origin)
      | some (elements earlier last) =>
        (within made change path .header last).map (elements earlier)

/-- Opens the table of a header. A table above others may still get its own header. -/
def openTable (path : List String) (name : String) : Entries → Option Entries :=
  within .implied
    (fun _ => alter name fun
      | none => some (table .header [])
      | some (table .implied inner) => some (table .header inner)
      | some _ => none)
    path .header

/-- Opens one more table with the same header. -/
def openElement (path : List String) (name : String) : Entries → Option Entries :=
  within .implied
    (fun _ => alter name fun
      | none => some (elements [] [])
      | some (elements earlier last) => some (elements (last :: earlier) [])
      | some _ => none)
    path .header

/--
Assigns a value to a name with `path` in front of its last dot. The table that it goes to was made
by names with dots exactly if this is one.
-/
def assign (path : List String) (name : String) (v : Value)
    : Origin → Entries → Option Entries :=
  within .dotted
    (fun origin entries =>
      if origin = .dotted ↔ path = [] then none
      else entries |> alter name fun
        | none => some (value v)
        | some _ => none)
    path

end Node

/-- A name with dots: what stands in front of the last one, and what stands after it. -/
structure Key where
  path : List String
  name : String

/-- All names of a name with dots. -/
def Key.names (key : Key) : List String :=
  key.path ++ [key.name]

/-- A line of a document. -/
inductive Statement where
  | table (key : Key)
  | element (key : Key)
  | assign (key : Key) (value : Value)

/-- The table that the assignments of an inline table make. -/
def Table.ofAssignments? (assignments : List (Key × Value)) : Option Table :=
  (go [] assignments).map Node.entriesToTable
where
  go (entries : Node.Entries) : List (Key × Value) → Option Node.Entries
    | [] => some entries
    | (key, value) :: rest =>
      match Node.assign key.path key.name value .header entries with
      | none => none
      | some entries => go entries rest

/-- The table that the statements of a document make. -/
def Table.ofStatements (statements : List Statement) : Except Error Table :=
  go [] [] statements
where
  /-- `current` leads to the table that was opened last. -/
  go (current : List String) (entries : Node.Entries) : List Statement → Except Error Table
    | [] => .ok (Node.entriesToTable entries)
    | .table key :: rest =>
      match Node.openTable key.path key.name entries with
      | none => .error (.conflict key.names)
      | some entries => go key.names entries rest
    | .element key :: rest =>
      match Node.openElement key.path key.name entries with
      | none => .error (.conflict key.names)
      | some entries => go key.names entries rest
    | .assign key value :: rest =>
      match Node.within .implied (Node.assign key.path key.name value) current .header entries with
      | none => .error (.conflict (current ++ key.names))
      | some entries => go current entries rest

end DirectedMarkdown.Toml
