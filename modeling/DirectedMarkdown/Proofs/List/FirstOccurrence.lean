import Mathlib.Data.List.Induction
import Mathlib.Data.List.Nodup

/-!
This module contains lists less their repetitions: of equal elements the first one stays, so that
the order is that of first occurrences.
-/

namespace DirectedMarkdown

variable {α : Type} [BEq α] [LawfulBEq α]

theorem eraseDups_concat (xs : List α) (a : α) [Decidable (a ∈ xs)]
    : (xs ++ [a]).eraseDups = if a ∈ xs then xs.eraseDups else xs.eraseDups ++ [a] := by
  rw [List.eraseDups_append]
  by_cases h : a ∈ xs <;> simp [List.removeAll, List.eraseDups_cons, h]

theorem nodup_eraseDups (xs : List α) : xs.eraseDups.Nodup := by
  induction xs using List.reverseRecOn with
  | nil => simp
  | append_singleton xs a ih =>
    classical
    rw [eraseDups_concat]
    split
    . exact ih
    . next h =>
      rw [List.nodup_append]
      refine ⟨ih, by simp, ?_⟩
      intro b hb last hlast
      rw [List.mem_singleton] at hlast
      rw [List.mem_eraseDups] at hb
      intro heq
      rw [heq, hlast] at hb
      exact h hb

end DirectedMarkdown
