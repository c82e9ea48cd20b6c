import DirectedMarkdown.Text.Split

/-!
This module contains the laws of splitting: at a separator of one character a text is split as the
library splits lists, and no piece contains the separator. A line has its only line feed at its end,
so that lines that are put together can be told apart again.
-/

namespace DirectedMarkdown.Text

theorem splitOn_go_eq_splitOnPPrepend (separator : Char) (piece s : List Char)
    : splitOn.go [separator] 0 piece s = s.splitOnPPrepend (· == separator) piece := by
  induction s generalizing piece with
  | nil => rw [List.splitOnPPrepend_nil, splitOn.go]
  | cons c rest ih =>
    unfold splitOn.go
    by_cases h : c = separator
    . subst h
      rw [if_pos (by simp)]
      rw [List.splitOnPPrepend_cons_pos (by simp), List.splitOnP_eq_splitOnPPrepend]
      rw [← ih []]
      rfl
    . have hne : ¬separator = c := fun heq => h heq.symm
      rw [if_neg (by simp [hne]), ih]
      rw [List.splitOnPPrepend_cons_neg (by simpa using h)]

theorem splitOn_singleton (separator : Char) (s : List Char)
    : splitOn [separator] s = s.splitOn separator := by
  unfold splitOn
  rw [splitOn_go_eq_splitOnPPrepend, List.splitOn_eq_splitOnP, List.splitOnP_eq_splitOnPPrepend]

theorem splitOn_go_ne_nil (separator : List Char) (skip : Nat) (piece s : List Char)
    : splitOn.go separator skip piece s ≠ [] := by
  fun_induction splitOn.go separator skip piece s with
  | case1 => simp
  | case2 _ _ _ _ ih => exact ih
  | case3 => simp
  | case4 _ _ _ _ ih => exact ih

theorem splitOn_ne_nil (separator s : List Char) : splitOn separator s ≠ [] :=
  splitOn_go_ne_nil separator 0 [] s

theorem notMem_of_mem_splitOn {separator : Char} {s piece : List Char}
    (h : piece ∈ s.splitOn separator) : separator ∉ piece := by
  induction s generalizing piece with
  | nil => simp_all
  | cons c rest ih =>
    rw [List.splitOn_cons_eq_if_modifyHead] at h
    split at h
    . rw [List.mem_cons] at h
      cases h with
      | inl hnil => simp [hnil]
      | inr hmem => exact ih hmem
    . next hne =>
      -- The character belongs to the first piece of the rest.
      cases hpieces : rest.splitOn separator with
      | nil => exact absurd hpieces (List.splitOn_ne_nil separator rest)
      | cons first others =>
        rw [hpieces, List.modifyHead_cons, List.mem_cons] at h
        cases h with
        | inl heq =>
          have hfirst := ih (hpieces ▸ List.mem_cons_self : first ∈ rest.splitOn separator)
          rw [heq, List.mem_cons, not_or]
          exact ⟨fun heq => hne (by simp [heq]), hfirst⟩
        | inr hmem =>
          apply ih
          rw [hpieces]
          exact List.mem_cons_of_mem _ hmem

theorem flatten_lines_go (reversed s : List Char)
    : (lines.go reversed s).flatten = reversed.reverse ++ s := by
  induction s generalizing reversed with
  | nil =>
    unfold lines.go
    split
    . next hnil => simpa using hnil
    . simp
  | cons c rest ih =>
    unfold lines.go
    split
    . rw [List.flatten_cons, ih]
      simp
    . rw [ih]
      simp

theorem flatten_lines (s : List Char) : (lines s).flatten = s :=
  flatten_lines_go [] s

/-- Each line has a line feed at its end and nowhere else. The last one may have none. -/
inductive Lined : List (List Char) → Prop where
  | nil : Lined []
  | last {line : List Char} (hline : '\n' ∉ line) (hne : line ≠ []) : Lined [line]
  | cons {line : List Char} {rest : List (List Char)} (hline : '\n' ∉ line) (hrest : Lined rest)
    : Lined ((line ++ ['\n']) :: rest)

theorem lined_lines_go {reversed : List Char} (h : '\n' ∉ reversed) (s : List Char)
    : Lined (lines.go reversed s) := by
  induction s generalizing reversed with
  | nil =>
    unfold lines.go
    split
    . exact .nil
    . next hne => exact .last (by simpa using h) (by simpa using hne)
  | cons c rest ih =>
    unfold lines.go
    split
    . next heq =>
      rw [heq, List.reverse_cons]
      exact .cons (by simpa using h) (ih (by simp))
    . next hne =>
      apply ih
      rw [List.mem_cons, not_or]
      exact ⟨fun heq => hne heq.symm, h⟩

theorem lined_lines (s : List Char) : Lined (lines s) :=
  lined_lines_go (by simp) s

theorem lines_go_of_notMem {line : List Char} (h : '\n' ∉ line) {reversed : List Char}
    (hne : reversed.reverse ++ line ≠ [])
    : lines.go reversed line = [reversed.reverse ++ line] := by
  induction line generalizing reversed with
  | nil =>
    have hreversed : reversed ≠ [] := by simpa using hne
    simp [lines.go, hreversed]
  | cons c line ih =>
    rw [List.mem_cons, not_or] at h
    unfold lines.go
    rw [if_neg fun heq => h.1 heq.symm, ih h.2 (by simp)]
    simp

theorem lines_go_append_cons {line : List Char} (h : '\n' ∉ line) (reversed rest : List Char)
    : lines.go reversed (line ++ '\n' :: rest)
        = (reversed.reverse ++ line ++ ['\n']) :: lines rest := by
  induction line generalizing reversed with
  | nil => simp [lines.go, lines]
  | cons c line ih =>
    rw [List.mem_cons, not_or] at h
    rw [List.cons_append, lines.go, if_neg fun heq => h.1 heq.symm, ih h.2]
    simp

theorem Lined.lines_flatten {contents : List (List Char)} (h : Lined contents)
    : lines contents.flatten = contents := by
  induction h with
  | nil => rfl
  | last hline hne =>
    rw [List.flatten_singleton, lines, lines_go_of_notMem hline (by simpa using hne)]
    rfl
  | cons hline _ ih =>
    rw [List.flatten_cons, List.append_assoc, List.singleton_append, lines,
      lines_go_append_cons hline, ih]
    simp

theorem Lined.sublist {contents left : List (List Char)} (h : Lined contents)
    (hsub : left.Sublist contents) : Lined left := by
  induction h generalizing left with
  | nil =>
    rw [List.sublist_nil.mp hsub]
    exact .nil
  | last hline hne =>
    cases hsub with
    | cons _ hsub =>
      rw [List.sublist_nil.mp hsub]
      exact .nil
    | cons_cons _ hsub =>
      rw [List.sublist_nil.mp hsub]
      exact .last hline hne
  | cons hline _ ih =>
    cases hsub with
    | cons _ hsub => exact ih hsub
    | cons_cons _ hsub => exact .cons hline (ih hsub)

end DirectedMarkdown.Text
