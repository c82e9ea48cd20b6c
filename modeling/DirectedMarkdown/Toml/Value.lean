import DirectedMarkdown.Binary64
import DirectedMarkdown.Toml.Time

/-!
This module contains the values of TOML.
-/

namespace DirectedMarkdown.Toml

/-- A value. The entries of a table have different names, and stand as they are written. -/
inductive Value where
  | text (value : String)
  | integer (value : Int)
  | float (value : Binary64)
  | bool (value : Bool)
  | dateTime (value : DateTime)
  | array (items : List Value)
  | table (entries : List (String × Value))
  deriving Inhabited

/-- A table: its entries have different names. -/
abbrev Table : Type :=
  List (String × Value)

/-- The decimal digits of an integer, with a sign if it is negative. -/
def integerText (n : Int) : String :=
  String.ofList ((if n < 0 then ['-'] else []) ++ Nat.toDigits 10 n.natAbs)

namespace Value

mutual

/-- Whether every integer in the value is representable with 64 bits. -/
def isNarrow : Value → Bool
  | integer n => -(Nat.pow 2 63 : Int) ≤ n && n < (Nat.pow 2 63 : Int)
  | array items => areNarrow items
  | table entries => areNarrowEntries entries
  | text _ | float _ | bool _ | dateTime _ => true

def areNarrow : List Value → Bool
  | [] => true
  | item :: rest => item.isNarrow && areNarrow rest

def areNarrowEntries : List (String × Value) → Bool
  | [] => true
  | entry :: rest => isNarrowEntry entry && areNarrowEntries rest

def isNarrowEntry : String × Value → Bool
  | (_, value) => value.isNarrow

end

end Value

end DirectedMarkdown.Toml
