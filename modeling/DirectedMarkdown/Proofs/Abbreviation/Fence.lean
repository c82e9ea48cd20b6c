import DirectedMarkdown.Abbreviation.Definition
import DirectedMarkdown.Proofs.List.Append
import DirectedMarkdown.Proofs.Text.Blank

/-!
This module contains the rules for code fences: the standard one of Markdown, and the wide one,
which also takes what is indented by any blank space or has other characters behind it. The search
for definitions goes by the wide rule. The two rules say the same of plain lines.
-/

namespace DirectedMarkdown.Abbreviation

/-- A line that is a run of fence characters, with blank space before it and `rest` behind it. -/
structure IsFenceLine (content blank : List Char) (fence : Fence) (rest : List Char) : Prop where
  eq_append : content = blank ++ (List.replicate fence.run fence.marker ++ rest)
  isBlank : ∀ c ∈ blank, Text.isBlank c
  marker : fence.marker = '\x60' ∨ fence.marker = '~'
  run : 3 ≤ fence.run
  head?_ne : rest.head? ≠ some fence.marker

namespace IsFenceLine

variable {content blank rest : List Char} {fence : Fence}

theorem head?_isBlank (h : IsFenceLine content blank fence rest)
    : ∀ c ∈ (List.replicate fence.run fence.marker ++ rest).head?, Text.isBlank c = false := by
  have hne : List.replicate fence.run fence.marker ≠ [] := by
    have := h.run
    simp only [ne_eq, List.replicate_eq_nil_iff]
    omega
  intro c hc
  rw [head?_append_of_ne_nil hne] at hc
  have hc : c = fence.marker := List.eq_of_mem_replicate (List.mem_of_mem_head? hc)
  rcases h.marker with hmarker | hmarker
  all_goals
    rw [hc, hmarker]
    decide

theorem head?_marker (h : IsFenceLine content blank fence rest)
    : ∀ c ∈ rest.head?, decide (c = fence.marker) = false := by
  intro c hc
  rw [decide_eq_false_iff_not]
  rintro rfl
  exact h.head?_ne hc

theorem takeWhile_isBlank (h : IsFenceLine content blank fence rest)
    : content.takeWhile Text.isBlank = blank := by
  rw [h.eq_append, takeWhile_append_of_head? h.isBlank h.head?_isBlank]

theorem dropWhile_isBlank (h : IsFenceLine content blank fence rest)
    : content.dropWhile Text.isBlank = List.replicate fence.run fence.marker ++ rest := by
  rw [h.eq_append, dropWhile_append_of_head? h.isBlank h.head?_isBlank]

theorem fence?_eq (h : IsFenceLine content blank fence rest)
    : fence? content = some (fence, Text.trimChars rest) := by
  obtain ⟨run, hrun⟩ := Nat.exists_eq_add_one_of_ne_zero (n := fence.run) (by have := h.run; omega)
  have hall : ∀ c ∈ List.replicate run fence.marker, decide (c = fence.marker) := by simp
  unfold fence?
  rw [h.dropWhile_isBlank, hrun, List.replicate_succ, List.cons_append]
  simp only [takeWhile_append_of_head? hall h.head?_marker,
    dropWhile_append_of_head? hall h.head?_marker]
  rw [if_pos h.marker, List.length_replicate, Nat.add_comm 1, ← hrun, if_pos h.run]

theorem unique {blank' rest' : List Char} {fence' : Fence}
    (h : IsFenceLine content blank fence rest) (h' : IsFenceLine content blank' fence' rest')
    : blank' = blank ∧ fence' = fence ∧ rest' = rest := by
  have hfence := h.fence?_eq
  rw [h'.fence?_eq, Option.some.injEq, Prod.mk.injEq] at hfence
  obtain ⟨rfl, -⟩ := hfence
  refine ⟨?_, rfl, ?_⟩
  . rw [← h.takeWhile_isBlank, h'.takeWhile_isBlank]
  . have hdrop := h.dropWhile_isBlank
    rw [h'.dropWhile_isBlank] at hdrop
    exact List.append_cancel_left hdrop

end IsFenceLine

theorem isFenceLine_append {blank : List Char} (hblank : ∀ c ∈ blank, Text.isBlank c)
    {marker : Char} (hmarker : marker = '\x60' ∨ marker = '~') {run : Nat} (hrun : 3 ≤ run)
    : IsFenceLine (blank ++ List.replicate run marker) blank ⟨marker, run⟩ [] where
  eq_append := by rw [List.append_nil]
  isBlank := hblank
  marker := hmarker
  run := hrun
  head?_ne := by simp

theorem fence?_eq_some_iff {content info : List Char} {fence : Fence}
    : fence? content = some (fence, info)
        ↔ ∃ blank rest, IsFenceLine content blank fence rest ∧ Text.trimChars rest = info := by
  constructor
  . intro h
    unfold fence? at h
    split at h
    . simp at h
    . next marker behind hdrop =>
      simp only [Option.ite_none_right_eq_some, Option.some.injEq, Prod.mk.injEq] at h
      obtain ⟨hmarker, hrun, rfl, rfl⟩ := h
      refine ⟨content.takeWhile Text.isBlank, behind.dropWhile (· = marker), ?_, rfl⟩
      refine ⟨?_, fun c hc => List.mem_takeWhile_imp hc, hmarker, hrun, ?_⟩
      . have hall : behind.takeWhile (· = marker)
            = List.replicate (behind.takeWhile (· = marker)).length marker := by
          rw [List.eq_replicate_iff]
          exact ⟨rfl, fun c hc => by simpa using List.mem_takeWhile_imp hc⟩
        rw [Nat.add_comm, List.replicate_succ, List.cons_append, ← hall,
          List.takeWhile_append_dropWhile, ← hdrop, List.takeWhile_append_dropWhile]
      . have hnot := List.head?_dropWhile_not (fun c => decide (c = marker)) behind
        intro hhead
        simp only at hhead
        rw [hhead] at hnot
        simp at hnot
  . rintro ⟨blank, rest, h, rfl⟩
    exact h.fence?_eq

/-- At most three spaces. -/
def IsMargin (blank : List Char) : Prop :=
  blank.length ≤ 3 ∧ ∀ c ∈ blank, c = ' '

/-- What opens a fenced code block, and what closes the one that a fence has opened. -/
structure FenceRule where
  opens (content : List Char) (fence : Fence) : Prop
  closes (content : List Char) (opened : Fence) : Prop
  isFenceLine_of_opens {content : List Char} {fence : Fence} (h : opens content fence)
    : ∃ blank rest, IsFenceLine content blank fence rest
  isFenceLine_of_closes {content : List Char} {opened : Fence} (h : closes content opened)
    : ∃ blank fence rest, IsFenceLine content blank fence rest

namespace FenceRule

/--
The rule of Markdown: fences are indented by at most three spaces. There is no backtick behind an
opening run of backticks, and nothing but spaces and tabs behind a closing run, which is at least as
long as the opening one.
-/
def standard : FenceRule where
  opens content fence := ∃ blank rest, IsFenceLine content blank fence rest ∧ IsMargin blank
    ∧ (fence.marker = '\x60' → '\x60' ∉ rest)
  closes content opened := ∃ blank run rest, IsFenceLine content blank ⟨opened.marker, run⟩ rest
    ∧ IsMargin blank ∧ opened.run ≤ run ∧ ∀ c ∈ rest, isSpace c
  isFenceLine_of_opens h := by
    obtain ⟨blank, rest, h, -⟩ := h
    exact ⟨blank, rest, h⟩
  isFenceLine_of_closes h := by
    obtain ⟨blank, run, rest, h, -⟩ := h
    exact ⟨blank, _, rest, h⟩

/-- The rule without a limit to the blank space around a fence. -/
def wide : FenceRule where
  opens content fence := ∃ blank rest, IsFenceLine content blank fence rest
  closes content opened := ∃ blank run rest, IsFenceLine content blank ⟨opened.marker, run⟩ rest
    ∧ opened.run ≤ run ∧ ∀ c ∈ rest, Text.isBlank c
  isFenceLine_of_opens h := h
  isFenceLine_of_closes h := by
    obtain ⟨blank, run, rest, h, -⟩ := h
    exact ⟨blank, _, rest, h⟩

theorem opens_unique (rule : FenceRule) {content : List Char} {fence fence' : Fence}
    (h : rule.opens content fence) (h' : rule.opens content fence') : fence' = fence := by
  obtain ⟨blank, rest, h⟩ := rule.isFenceLine_of_opens h
  obtain ⟨blank', rest', h'⟩ := rule.isFenceLine_of_opens h'
  exact (h.unique h').2.1

/-- The fence that `fence?` finds at the start of a line is the one that is there by the rule. -/
structure Reads (rule : FenceRule) (content : List Char) : Prop where
  opens_iff (fence : Fence) : rule.opens content fence ↔ ∃ info, fence? content = some (fence, info)
  closes_iff (opened : Fence) : rule.closes content opened
    ↔ ∃ fence info, fence? content = some (fence, info) ∧ fence.closes info opened

end FenceRule

theorem Fence.closes_iff {fence opened : Fence} {rest : List Char}
    : fence.closes (Text.trimChars rest) opened
        ↔ fence.marker = opened.marker ∧ opened.run ≤ fence.run ∧ ∀ c ∈ rest, Text.isBlank c := by
  unfold Fence.closes
  rw [Bool.and_eq_true, Bool.and_eq_true, decide_eq_true_eq, decide_eq_true_eq, List.isEmpty_iff,
    Text.trimChars_eq_nil_iff, and_assoc]

theorem reads_wide (content : List Char) : FenceRule.wide.Reads content := by
  constructor
  . intro fence
    simp only [FenceRule.wide, fence?_eq_some_iff]
    constructor
    . rintro ⟨blank, rest, h⟩
      exact ⟨_, blank, rest, h, rfl⟩
    . rintro ⟨_, blank, rest, h, _⟩
      exact ⟨blank, rest, h⟩
  . intro opened
    simp only [FenceRule.wide, fence?_eq_some_iff]
    constructor
    . rintro ⟨blank, run, rest, h, hrun, hblank⟩
      exact ⟨_, _, ⟨blank, rest, h, rfl⟩, Fence.closes_iff.mpr ⟨rfl, hrun, hblank⟩⟩
    . rintro ⟨⟨marker, run⟩, _, ⟨blank, rest, h, rfl⟩, hcloses⟩
      obtain ⟨rfl, hrun, hblank⟩ := Fence.closes_iff.mp hcloses
      exact ⟨blank, run, rest, h, hrun, hblank⟩

theorem isBlank_of_isSpace {c : Char} (h : isSpace c) : Text.isBlank c := by
  unfold isSpace at h
  rw [Bool.or_eq_true, decide_eq_true_eq, decide_eq_true_eq] at h
  rcases h with rfl | rfl
  all_goals decide

/-- If there is a fence at the start of the line, it looks as the standard asks. -/
def Plain (content : List Char) : Prop :=
  ∀ blank fence rest, IsFenceLine content blank fence rest →
    IsMargin blank ∧ (fence.marker = '\x60' → '\x60' ∉ rest)
      ∧ ((∀ c ∈ rest, Text.isBlank c) → ∀ c ∈ rest, isSpace c)

theorem IsFenceLine.plain {content blank : List Char} {fence : Fence}
    (h : IsFenceLine content blank fence []) (hmargin : IsMargin blank) : Plain content := by
  intro blank' fence' rest' h'
  obtain ⟨rfl, rfl, rfl⟩ := h.unique h'
  exact ⟨hmargin, by simp, by simp⟩

theorem reads_standard {content : List Char} (hplain : Plain content)
    : FenceRule.standard.Reads content := by
  have hwide := reads_wide content
  constructor
  . intro fence
    rw [← hwide.opens_iff]
    constructor
    . exact FenceRule.standard.isFenceLine_of_opens
    . rintro ⟨blank, rest, h⟩
      obtain ⟨hmargin, hrest, -⟩ := hplain _ _ _ h
      exact ⟨blank, rest, h, hmargin, hrest⟩
  . intro opened
    rw [← hwide.closes_iff]
    constructor
    . rintro ⟨blank, run, rest, h, -, hrun, hspace⟩
      exact ⟨blank, run, rest, h, hrun, fun c hc => isBlank_of_isSpace (hspace c hc)⟩
    . rintro ⟨blank, run, rest, h, hrun, hblank⟩
      obtain ⟨hmargin, -, hspace⟩ := hplain _ _ _ h
      exact ⟨blank, run, rest, h, hmargin, hrun, hspace hblank⟩

end DirectedMarkdown.Abbreviation
