import DirectedMarkdown.Proofs.List.Append
import DirectedMarkdown.Text.Blank
import Mathlib.Data.List.DropRight

/-!
This module contains the laws of trimming: a trimmed text has no blank character at its ends, it
does not change when it is trimmed again, and all that is dropped is blank.
-/

namespace DirectedMarkdown.Text

/-- There is no blank character at either end of the text. -/
def Trimmed (s : List Char) : Prop :=
  (∀ c ∈ s.head?, isBlank c = false) ∧ ∀ c ∈ s.getLast?, isBlank c = false

instance (s : List Char) : Decidable (Trimmed s) :=
  @instDecidableAnd _ _ (Option.decidableForallMem _) (Option.decidableForallMem _)

theorem dropEndWhile_eq_nil_iff {p : Char → Bool} {s : List Char}
    : dropEndWhile p s = [] ↔ ∀ c ∈ s, p c :=
  List.rdropWhile_eq_nil_iff

theorem dropEndWhile_append (p : Char → Bool) (s : List Char)
    : ∃ dropped, s = dropEndWhile p s ++ dropped ∧ ∀ c ∈ dropped, p c := by
  refine ⟨(s.reverse.takeWhile p).reverse, ?_, ?_⟩
  . unfold dropEndWhile
    rw [← List.reverse_append, List.takeWhile_append_dropWhile, List.reverse_reverse]
  . intro c hc
    rw [List.mem_reverse] at hc
    exact List.mem_takeWhile_imp hc

/-- What is left of a text when some characters are dropped at both of its ends. -/
structure IsStripped (p : Char → Bool) (s inner : List Char) : Prop where
  exists_eq_append : ∃ front back, s = front ++ inner ++ back
    ∧ (∀ c ∈ front, p c) ∧ ∀ c ∈ back, p c
  head? : ∀ c ∈ inner.head?, p c = false
  getLast? : ∀ c ∈ inner.getLast?, p c = false

theorem isStripped_dropEndWhile (p : Char → Bool) (s : List Char)
    : IsStripped p s (dropEndWhile p (s.dropWhile p)) := by
  obtain ⟨back, hback, hdropped⟩ := dropEndWhile_append p (s.dropWhile p)
  constructor
  . refine ⟨s.takeWhile p, back, ?_, fun c hc => List.mem_takeWhile_imp hc, hdropped⟩
    rw [List.append_assoc, ← hback, List.takeWhile_append_dropWhile]
  . intro c hc
    -- What is left after the end is dropped is a beginning of what was there before.
    apply head?_dropWhile_eq_false p s
    rw [Option.mem_def] at hc ⊢
    rw [hback, List.head?_append, hc]
    rfl
  . intro c hc
    have hne : dropEndWhile p (s.dropWhile p) ≠ [] := by
      intro hnil
      simp [hnil] at hc
    have hlast : ¬p ((dropEndWhile p (s.dropWhile p)).getLast hne) :=
      List.rdropWhile_last_not p (s.dropWhile p) hne
    rw [Option.mem_def, List.getLast?_eq_some_getLast hne, Option.some.injEq] at hc
    rw [hc] at hlast
    simpa using hlast

theorem trimmed_trimChars (s : List Char) : Trimmed (trimChars s) :=
  ⟨(isStripped_dropEndWhile isBlank s).head?, (isStripped_dropEndWhile isBlank s).getLast?⟩

theorem trimChars_eq_self {s : List Char} (h : Trimmed s) : trimChars s = s := by
  have hfront : s.dropWhile isBlank = s := by
    cases s with
    | nil => rfl
    | cons c rest =>
      have hc : isBlank c = false := h.1 c rfl
      simp [hc]
  unfold trimChars
  rw [hfront]
  apply List.rdropWhile_eq_self_iff.mpr
  intro hne
  have hlast := h.2 _ (List.getLast?_eq_some_getLast hne)
  simp [hlast]

theorem exists_eq_append_trimChars (s : List Char)
    : ∃ front back, s = front ++ trimChars s ++ back
        ∧ (∀ c ∈ front, isBlank c) ∧ ∀ c ∈ back, isBlank c :=
  (isStripped_dropEndWhile isBlank s).exists_eq_append

theorem mem_of_mem_trimChars {s : List Char} {c : Char} (h : c ∈ trimChars s) : c ∈ s := by
  obtain ⟨front, back, heq, _, _⟩ := exists_eq_append_trimChars s
  rw [heq]
  simp [h]

theorem mem_trimChars_iff {s : List Char} {c : Char} (h : isBlank c = false)
    : c ∈ trimChars s ↔ c ∈ s := by
  constructor
  . exact mem_of_mem_trimChars
  . intro hc
    obtain ⟨front, back, heq, hfront, hback⟩ := exists_eq_append_trimChars s
    rw [heq] at hc
    simp only [List.mem_append] at hc
    rcases hc with (hc | hc) | hc
    . simp [hfront c hc] at h
    . exact hc
    . simp [hback c hc] at h

theorem trimChars_eq_nil_iff {s : List Char} : trimChars s = [] ↔ ∀ c ∈ s, isBlank c := by
  constructor
  . intro hnil c hc
    by_contra hblank
    rw [Bool.not_eq_true] at hblank
    rw [← mem_trimChars_iff hblank, hnil] at hc
    simp at hc
  . intro h
    rw [List.eq_nil_iff_forall_not_mem]
    intro c hc
    -- The first character that is left would be blank.
    have hne := List.ne_nil_of_mem hc
    obtain ⟨d, rest, hd⟩ := List.exists_cons_of_ne_nil hne
    have hdblank := (trimmed_trimChars s).1 d (by rw [hd]; rfl)
    have hdmem : d ∈ s := mem_of_mem_trimChars (by rw [hd]; exact List.mem_cons_self)
    rw [h d hdmem] at hdblank
    simp at hdblank

end DirectedMarkdown.Text
