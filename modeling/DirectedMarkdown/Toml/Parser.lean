import DirectedMarkdown.Toml.Document
import DirectedMarkdown.Toml.Number
import DirectedMarkdown.Toml.Quoted

/-!
This module contains the reader of TOML documents. Inline tables may go over several lines, as
arrays may, and the two are nested up to a limit.
-/

namespace DirectedMarkdown.Toml

/-- The number of arrays and inline tables that may stand in one another. -/
def nestingLimit : Nat := 80

def isSpace (c : Char) : Bool :=
  c = ' ' || c = '\t'

def skipSpace (s : List Char) : List Char :=
  s.dropWhile isSpace

/-- What follows a comment, if there is one: the end of a line, or something that is an error. -/
def skipComment : List Char → List Char
  | '#' :: rest => rest.dropWhile Quoted.isPlain
  | s => s

theorem length_skipSpace_le (s : List Char) : (skipSpace s).length ≤ s.length :=
  (List.dropWhile_sublist isSpace).length_le

theorem length_skipComment_le (s : List Char) : (skipComment s).length ≤ s.length := by
  unfold skipComment
  split
  . exact Nat.le_succ_of_le (List.dropWhile_sublist _).length_le
  . exact Nat.le_refl _

/-- What follows blank space, line ends and comments. -/
def skipLines (s : List Char) : List Char :=
  match _h : skipComment (skipSpace s) with
  | '\n' :: rest => skipLines rest
  | '\r' :: '\n' :: rest => skipLines rest
  | rest => rest
termination_by s.length
decreasing_by
  all_goals
    have hle := Nat.le_trans (length_skipComment_le (skipSpace s)) (length_skipSpace_le s)
    rw [_h] at hle
    simp only [List.length_cons] at hle
    omega

/-- Whether a name has the character without quotes. -/
def isBare (c : Char) : Bool :=
  c.isAlphanum || c = '_' || c = '-'

/-- A part of a name. -/
def readPart? (s : List Char) : Option (String × List Char) :=
  let bare := s.takeWhile isBare
  if bare.isEmpty then Quoted.readLine? s
  else some (String.ofList bare, s.dropWhile isBare)

/-- The number of names that dots may join. -/
def keyLimit : Nat := 80

/--
A name with dots, and what follows it and its blank space. Up to `limit` more parts are read; `path`
is what was read, backwards.
-/
def readParts? (limit : Nat) (path : List String) (s : List Char) : Option (Key × List Char) :=
  match limit with
  | 0 => none
  | limit + 1 =>
    match readPart? s with
    | none => none
    | some (name, rest) =>
      match skipSpace rest with
      | '.' :: rest => readParts? limit (name :: path) (skipSpace rest)
      | rest => some ({ path := path.reverse, name }, rest)

/-- A name with dots, and what follows it and its blank space. -/
def readKey? (s : List Char) : Option (Key × List Char) :=
  readParts? keyLimit [] s

/-- The value that the characters of a word write down. -/
def Value.ofWord? (word : List Char) : Option Value :=
  match word with
  | ['t', 'r', 'u', 'e'] => some (.bool true)
  | ['f', 'a', 'l', 's', 'e'] => some (.bool false)
  | _ =>
    match integer? word, float? word, DateTime.ofChars? word with
    | some n, _, _ => some (.integer n)
    | none, some x, _ => some (.float x)
    | none, none, some t => some (.dateTime t)
    | none, none, none => none

/-- Whether a word without quotes ends before the character. -/
def isWordEnd (c : Char) : Bool :=
  isSpace c || c = '\n' || c = '\r' || c = '#' || c = ',' || c = ']' || c = '\x7d'

/-- A word, and what follows it. A date and a time may have one space between them. -/
def splitWord (s : List Char) : List Char × List Char :=
  let word := s.takeWhile (!isWordEnd ·)
  let rest := s.dropWhile (!isWordEnd ·)
  match DateTime.readDate word, rest with
  | some (_, []), ' ' :: c :: rest =>
    if c.isDigit then
      (word ++ ' ' :: (c :: rest).takeWhile (!isWordEnd ·), (c :: rest).dropWhile (!isWordEnd ·))
    else
      (word, ' ' :: c :: rest)
  | _, _ => (word, rest)

mutual

/--
A value, and what follows it. `fuel` bounds the number of values, and `depth` the arrays and inline
tables that are nested.
-/
def readValue? (fuel depth : Nat) (s : List Char) : Option (Value × List Char) :=
  match fuel with
  | 0 => none
  | fuel + 1 =>
    match s with
    | '"' :: _ | '\'' :: _ => (Quoted.read? s).map fun (content, rest) => (.text content, rest)
    | '[' :: rest =>
      match depth with
      | 0 => none
      | depth + 1 => readItems? fuel depth [] (skipLines rest)
    | '\x7b' :: rest =>
      match depth with
      | 0 => none
      | depth + 1 =>
        match readAssignments? fuel depth [] (skipLines rest) with
        | none => none
        | some (assignments, rest) =>
          (Table.ofAssignments? assignments).map fun table => (.table table, rest)
    | _ =>
      let (word, rest) := splitWord s
      (Value.ofWord? word).map fun value => (value, rest)

/-- The items of an array up to its end; `items` is read backwards. -/
def readItems? (fuel depth : Nat) (items : List Value) (s : List Char)
    : Option (Value × List Char) :=
  match fuel with
  | 0 => none
  | fuel + 1 =>
    match s with
    | ']' :: rest => some (.array items.reverse, rest)
    | _ =>
      match readValue? fuel depth s with
      | none => none
      | some (value, rest) =>
        match skipLines rest with
        | ',' :: rest => readItems? fuel depth (value :: items) (skipLines rest)
        | ']' :: rest => some (.array (value :: items).reverse, rest)
        | _ => none

/-- The assignments of an inline table up to its end; `assignments` is read backwards. -/
def readAssignments? (fuel depth : Nat) (assignments : List (Key × Value)) (s : List Char)
    : Option (List (Key × Value) × List Char) :=
  match fuel with
  | 0 => none
  | fuel + 1 =>
    match s with
    | '\x7d' :: rest => some (assignments.reverse, rest)
    | _ =>
      match readKey? s with
      | none => none
      | some (key, rest) =>
        match skipLines rest with
        | '=' :: rest =>
          match readValue? fuel depth (skipLines rest) with
          | none => none
          | some (value, rest) =>
            match skipLines rest with
            | ',' :: rest =>
              readAssignments? fuel depth ((key, value) :: assignments) (skipLines rest)
            | '\x7d' :: rest => some (((key, value) :: assignments).reverse, rest)
            | _ => none
        | _ => none

end

/-- A statement, and what follows it. -/
def readStatement? (s : List Char) : Option (Statement × List Char) :=
  match s with
  | '[' :: '[' :: rest =>
    match readKey? (skipSpace rest) with
    | some (key, ']' :: ']' :: rest) => some (.element key, rest)
    | _ => none
  | '[' :: rest =>
    match readKey? (skipSpace rest) with
    | some (key, ']' :: rest) => some (.table key, rest)
    | _ => none
  | _ =>
    match readKey? s with
    | some (key, '=' :: rest) =>
      (readValue? (2 * s.length + 2) nestingLimit (skipSpace rest)).map fun (value, rest) =>
        (.assign key value, rest)
    | _ => none

/-- The statements of a document, one a line, or else what starts with the first that is none. -/
def readStatements (fuel : Nat) (s : List Char) : Except (List Char) (List Statement) :=
  match fuel with
  | 0 => .error s
  | fuel + 1 =>
    match skipLines s with
    | [] => .ok []
    | s =>
      match readStatement? s with
      | none => .error s
      | some (statement, rest) =>
        match skipComment (skipSpace rest) with
        | [] => .ok [statement]
        | '\n' :: rest | '\r' :: '\n' :: rest =>
          (readStatements fuel rest).map (statement :: ·)
        | _ => .error s

/-- The number of the line in which the rest of a document starts. -/
def lineOf (document rest : List Char) : Nat :=
  document.count '\n' - rest.count '\n' + 1

/-- The table that a document holds. A mark of the byte order in front is not part of it. -/
def Table.ofText (document : String) : Except Error Table :=
  let s := match document.toList with
    | '\ufeff' :: rest => rest
    | s => s
  match readStatements (s.length + 1) s with
  | .error rest => .error (.unreadable (lineOf s rest))
  | .ok statements => Table.ofStatements statements

end DirectedMarkdown.Toml
