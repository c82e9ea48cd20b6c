import DirectedMarkdown.Text.Word

/-!
This module contains patterns, as in regular expressions, and how they match at a place of a text.
The ways in which a pattern can match are tried one after the other, and the first one counts.
-/

namespace DirectedMarkdown.Text

inductive Pattern where
  | empty
  | never
  /-- A word boundary. -/
  | boundary
  | char (p : Char → Bool)
  /-- Any number of characters, as many as possible first. -/
  | many (p : Char → Bool)
  | seq (first second : Pattern)
  /-- The first alternative is tried before the second one. -/
  | either (first second : Pattern)

namespace Pattern

/-- The lengths of the matches at a place, in the order in which they are tried. -/
def ways : Pattern → Option Char → List Char → List Nat
  | empty, _, _ => [0]
  | never, _, _ => []
  | boundary, before, s => if isBoundary before s.head? then [0] else []
  | char p, _, s => if s.head?.any p then [1] else []
  | many p, _, s => (List.range ((s.takeWhile p).length + 1)).reverse
  | seq first second, before, s =>
    (first.ways before s).flatMap fun n =>
      (second.ways ((s.take n).getLast?.or before) (s.drop n)).map (n + ·)
  | either first second, before, s => first.ways before s ++ second.ways before s

/-- The length of the match at a place, or zero if there is none. -/
def matchLength (pattern : Pattern) (before : Option Char) (s : List Char) : Nat :=
  (pattern.ways before s).headD 0

/-- A text as it is. -/
def literal (word : List Char) : Pattern :=
  word.foldr (fun c rest => seq (char (· = c)) rest) empty

/-- One of several texts, in the order in which they are tried. -/
def oneOf (words : List (List Char)) : Pattern :=
  words.foldr (fun word rest => either (literal word) rest) never

/-- What may be there or not. -/
def optional (pattern : Pattern) : Pattern :=
  either pattern empty

theorem ways_boundary (before : Option Char) (s : List Char)
    : boundary.ways before s = if isBoundary before s.head? then [0] else [] := rfl

theorem ways_char (p : Char → Bool) (before : Option Char) (s : List Char)
    : (char p).ways before s = if s.head?.any p then [1] else [] := rfl

theorem ways_many (p : Char → Bool) (before : Option Char) (s : List Char)
    : (many p).ways before s = (List.range ((s.takeWhile p).length + 1)).reverse := rfl

theorem ways_seq (first second : Pattern) (before : Option Char) (s : List Char)
    : (seq first second).ways before s
        = (first.ways before s).flatMap fun n =>
          (second.ways ((s.take n).getLast?.or before) (s.drop n)).map (n + ·) := rfl

theorem ways_either (first second : Pattern) (before : Option Char) (s : List Char)
    : (either first second).ways before s = first.ways before s ++ second.ways before s := rfl

theorem ways_seq_boundary (second : Pattern) (before : Option Char) (s : List Char)
    : (seq boundary second).ways before s
        = if isBoundary before s.head? then second.ways before s else [] := by
  rw [ways_seq, ways_boundary]
  split
  . simp
  . rfl

theorem ways_seq_char_cons (p : Char → Bool) (second : Pattern) (before : Option Char) (c : Char)
    (rest : List Char)
    : (seq (char p) second).ways before (c :: rest)
        = if p c then (second.ways (some c) rest).map (1 + ·) else [] := by
  rw [ways_seq, ways_char]
  by_cases h : p c
  . simp [h]
  . simp [h]

theorem ways_literal (word : List Char) (before : Option Char) (s : List Char)
    : (literal word).ways before s = if word.isPrefixOf s then [word.length] else [] := by
  induction word generalizing before s with
  | nil => rfl
  | cons c rest ih =>
    show (seq (char (· = c)) (literal rest)).ways before s = _
    cases s with
    | nil => rfl
    | cons d s =>
      rw [ways_seq_char_cons, ih]
      by_cases h : d = c
      . subst h
        by_cases hrest : rest.isPrefixOf s
        . simp [hrest, Nat.add_comm]
        . simp [hrest]
      . have hne : ¬c = d := fun heq => h heq.symm
        simp [h, hne]

theorem ways_oneOf (words : List (List Char)) (before : Option Char) (s : List Char)
    : (oneOf words).ways before s = (words.filter (·.isPrefixOf s)).map List.length := by
  induction words with
  | nil => rfl
  | cons word rest ih =>
    show (either (literal word) (oneOf rest)).ways before s = _
    rw [ways_either, ways_literal, ih, List.filter_cons]
    split
    . rfl
    . rfl

theorem ways_seq_literal_append {word : List Char} (hne : word ≠ []) (second : Pattern)
    (before : Option Char) (rest : List Char)
    : (seq (literal word) second).ways before (word ++ rest)
        = (second.ways word.getLast? rest).map (word.length + ·) := by
  have hbegins : word.isPrefixOf (word ++ rest) := by simp
  rw [ways_seq, ways_literal, if_pos hbegins, List.flatMap_singleton, List.take_left, List.drop_left]
  rw [List.getLast?_eq_some_getLast hne]
  rfl

theorem ways_seq_literal_of_not_isPrefixOf {word s : List Char} (h : ¬word.isPrefixOf s)
    (second : Pattern) (before : Option Char)
    : (seq (literal word) second).ways before s = [] := by
  rw [ways_seq, ways_literal, if_neg h]
  rfl

/-- A pattern behind one that may be missing. -/
theorem ways_seq_optional (first second : Pattern) (before : Option Char) (s : List Char)
    : (seq (optional first) second).ways before s
        = (seq first second).ways before s ++ second.ways before s := by
  have hoptional : (optional first).ways before s = first.ways before s ++ [0] := rfl
  rw [ways_seq, hoptional, List.flatMap_append, ways_seq]
  simp

theorem head?_ways_many (p : Char → Bool) (before : Option Char) (s : List Char)
    : ((many p).ways before s).head? = some (s.takeWhile p).length := by
  rw [ways_many, List.range_succ]
  simp

/-- A match of many characters is given up one by one until the pattern behind it matches. -/
theorem head?_ways_seq_many {p : Char → Bool} {second : Pattern} {before : Option Char}
    {s : List Char} {n length : Nat} (hn : n ≤ (s.takeWhile p).length)
    (hlonger : ∀ k, n < k → k ≤ (s.takeWhile p).length →
      second.ways ((s.take k).getLast?.or before) (s.drop k) = [])
    (hfirst : (second.ways ((s.take n).getLast?.or before) (s.drop n)).head? = some length)
    : ((seq (many p) second).ways before s).head? = some (n + length) := by
  rw [ways_seq, ways_many]
  generalize (s.takeWhile p).length = most at hn hlonger
  induction most with
  | zero =>
    obtain rfl : n = 0 := by omega
    simpa using hfirst
  | succ most ih =>
    rw [List.range_succ, List.reverse_append, List.reverse_singleton, List.singleton_append,
      List.flatMap_cons]
    by_cases heq : n = most + 1
    . rw [← heq, List.head?_append, List.head?_map, hfirst]
      rfl
    . rw [hlonger (most + 1) (by omega) (Nat.le_refl _), List.map_nil, List.nil_append]
      apply ih
      . omega
      . intro k hk hmost
        exact hlonger k hk (by omega)

theorem ways_seq_many_eq_nil {p : Char → Bool} {second : Pattern} {before : Option Char}
    {s : List Char} (h : ∀ k ≤ (s.takeWhile p).length,
      second.ways ((s.take k).getLast?.or before) (s.drop k) = [])
    : (seq (many p) second).ways before s = [] := by
  rw [ways_seq, ways_many, List.flatMap_eq_nil_iff]
  intro k hmem
  rw [List.mem_reverse, List.mem_range] at hmem
  rw [h k (by omega)]
  rfl

end Pattern

end DirectedMarkdown.Text
