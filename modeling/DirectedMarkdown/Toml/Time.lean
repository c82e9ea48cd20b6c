import DirectedMarkdown.Text.Digit

/-!
This module contains the dates and times of TOML: their written form is read, and written again with
capital letters between and after the parts and without needless digits. Seconds may be missing.
-/

namespace DirectedMarkdown.Toml

structure Date where
  year : Nat
  month : Nat
  day : Nat
  deriving DecidableEq

/-- A time of day. A fraction of a second is given by its digits. -/
structure Time where
  hour : Nat
  minute : Nat
  second : Option Nat
  fraction : Option (List Char)
  deriving DecidableEq

/-- A distance from universal time. -/
inductive Offset where
  | universal
  | distance (isBehind : Bool) (hours minutes : Nat)
  deriving DecidableEq

/-- A date, a time of day, or both, and then perhaps with an offset. -/
inductive DateTime where
  | date (d : Date)
  | time (t : Time)
  | both (d : Date) (t : Time) (offset : Option Offset)
  deriving DecidableEq

namespace DateTime

/-- The number that exactly `n` digits write down, and what follows them. -/
def readDigits (n : Nat) (s : List Char) : Option (Nat × List Char) :=
  let digits := s.takeWhile Char.isDigit
  if digits.length = n then some (Text.ofDigits 10 digits, s.drop n) else none

/-- The rest of a text that starts with `c`. -/
def skip (c : Char) : List Char → Option (List Char)
  | [] => none
  | d :: rest => if d = c then some rest else none

def isLeapYear (year : Nat) : Bool :=
  year % 4 = 0 && (year % 100 ≠ 0 || year % 400 = 0)

def daysOfMonth (year month : Nat) : Nat :=
  if month = 2 then if isLeapYear year then 29 else 28
  else if month = 4 ∨ month = 6 ∨ month = 9 ∨ month = 11 then 30
  else 31

def readDate (s : List Char) : Option (Date × List Char) := do
  let (year, s) ← readDigits 4 s
  let (month, s) ← readDigits 2 (← skip '-' s)
  let (day, s) ← readDigits 2 (← skip '-' s)
  guard (1 ≤ month ∧ month ≤ 12 ∧ 1 ≤ day ∧ day ≤ daysOfMonth year month)
  return ({ year, month, day }, s)

/-- The fraction of a second after its point. -/
def readFraction (s : List Char) : Option (Option (List Char) × List Char) :=
  match s with
  | '.' :: rest =>
    let digits := rest.takeWhile Char.isDigit
    if digits.isEmpty then none else some (some digits, rest.dropWhile Char.isDigit)
  | _ => some (none, s)

def readTime (s : List Char) : Option (Time × List Char) := do
  let (hour, s) ← readDigits 2 s
  let (minute, s) ← readDigits 2 (← skip ':' s)
  guard (hour ≤ 23 ∧ minute ≤ 59)
  match s with
  | ':' :: rest =>
    let (second, s) ← readDigits 2 rest
    guard (second ≤ 60)
    let (fraction, s) ← readFraction s
    return ({ hour, minute, second := some second, fraction }, s)
  | _ => return ({ hour, minute, second := none, fraction := none }, s)

def readOffset : List Char → Option (Option Offset)
  | [] => some none
  | ['Z'] | ['z'] => some (some .universal)
  | sign :: s => do
    guard (sign = '+' ∨ sign = '-')
    let (hours, s) ← readDigits 2 s
    let (minutes, s) ← readDigits 2 (← skip ':' s)
    guard (hours ≤ 23 ∧ minutes ≤ 59 ∧ s.isEmpty)
    return some (.distance (sign = '-') hours minutes)

/-- The date, time or both that a whole text writes down. -/
def ofChars? (s : List Char) : Option DateTime :=
  match readDate s with
  | none => do
    let (t, rest) ← readTime s
    guard rest.isEmpty
    return .time t
  | some (d, []) => some (.date d)
  | some (d, mark :: rest) => do
    guard (mark = 'T' ∨ mark = 't' ∨ mark = ' ')
    let (t, rest) ← readTime rest
    return .both d t (← readOffset rest)

/-- A number with at least `width` digits. -/
def padded (width n : Nat) : List Char :=
  let digits := Nat.toDigits 10 n
  List.replicate (width - digits.length) '0' ++ digits

def dateChars (d : Date) : List Char :=
  padded 4 d.year ++ '-' :: padded 2 d.month ++ '-' :: padded 2 d.day

/-- The fraction has at most nine digits, and no zeros at its end but for a lone one. -/
def fractionChars (digits : List Char) : List Char :=
  let significant := ((digits.take 9).reverse.dropWhile (· = '0')).reverse
  '.' :: if significant.isEmpty then ['0'] else significant

def timeChars (t : Time) : List Char :=
  padded 2 t.hour ++ ':' :: padded 2 t.minute
    ++ (t.second.map fun second => ':' :: padded 2 second).getD []
    ++ (t.fraction.map fractionChars).getD []

def offsetChars : Offset → List Char
  | .universal => ['Z']
  | .distance isBehind hours minutes =>
    (if isBehind ∧ 0 < hours + minutes then '-' else '+') :: padded 2 hours
      ++ ':' :: padded 2 minutes

def toText : DateTime → String
  | date d => String.ofList (dateChars d)
  | time t => String.ofList (timeChars t)
  | both d t offset =>
    String.ofList (dateChars d ++ 'T' :: timeChars t ++ (offset.map offsetChars).getD [])

end DateTime

end DirectedMarkdown.Toml
