/-!
This module contains lists that are put together in two ways.
-/

namespace DirectedMarkdown

variable {α : Type}

/-- An element that is not in the first part of a list comes behind it. -/
theorem exists_of_append_eq_append_cons {xs ys front back : List α} {a : α} (ha : a ∉ xs)
    (h : xs ++ ys = front ++ a :: back)
    : ∃ between, front = xs ++ between ∧ ys = between ++ a :: back := by
  rw [List.append_eq_append_iff] at h
  rcases h with h | ⟨between, rfl, h⟩
  . exact h
  . cases between with
    | nil => exact ⟨[], by simp, by simpa using h.symm⟩
    | cons first between =>
      rw [List.cons_append, List.cons.injEq] at h
      rw [h.1] at ha
      simp at ha

/-- What stands before the first `a` of a list is determined by the list. -/
theorem append_cons_inj {xs ys xs' ys' : List α} {a : α} (h : a ∉ xs) (h' : a ∉ xs')
    (heq : xs ++ a :: ys = xs' ++ a :: ys') : xs = xs' ∧ ys = ys' := by
  obtain ⟨between, rfl, hbehind⟩ := exists_of_append_eq_append_cons h heq
  cases between with
  | nil => simpa using hbehind
  | cons first between =>
    rw [List.cons_append, List.cons.injEq] at hbehind
    rw [← hbehind.1] at h'
    simp at h'

theorem getLast?_cons_or (a : α) (xs : List α) (before : Option α)
    : (a :: xs).getLast?.or before = xs.getLast?.or (some a) := by
  rw [List.getLast?_cons]
  cases xs.getLast? <;> rfl

theorem head?_append_of_ne_nil {xs : List α} (h : xs ≠ []) (ys : List α)
    : (xs ++ ys).head? = xs.head? := by
  obtain ⟨a, rest, rfl⟩ := List.exists_cons_of_ne_nil h
  rfl

theorem intercalate_append {separator : List α} {xs ys : List (List α)} (hxs : xs ≠ [])
    (hys : ys ≠ [])
    : separator.intercalate (xs ++ ys)
        = separator.intercalate xs ++ (separator ++ separator.intercalate ys) := by
  induction xs with
  | nil => simp at hxs
  | cons x xs ih =>
    cases xs with
    | nil =>
      rw [List.singleton_append, List.intercalate_cons_of_ne_nil hys, List.intercalate_singleton]
      simp
    | cons other xs =>
      rw [List.cons_append, List.intercalate_cons_of_ne_nil (by simp), ih (by simp)]
      rw [List.intercalate_cons_cons]
      simp

theorem head?_dropWhile_eq_false (p : α → Bool) (xs : List α)
    : ∀ a ∈ (xs.dropWhile p).head?, p a = false := by
  intro a hmem
  have hnot := List.head?_dropWhile_not p xs
  rw [Option.mem_def] at hmem
  rw [hmem] at hnot
  simpa using hnot

theorem takeWhile_append_of_head? {p : α → Bool} {xs ys : List α} (hxs : ∀ a ∈ xs, p a)
    (hys : ∀ a ∈ ys.head?, p a = false) : (xs ++ ys).takeWhile p = xs := by
  rw [List.takeWhile_append_of_pos hxs]
  cases ys with
  | nil => simp
  | cons a ys => simp [hys a rfl]

theorem dropWhile_append_of_head? {p : α → Bool} {xs ys : List α} (hxs : ∀ a ∈ xs, p a)
    (hys : ∀ a ∈ ys.head?, p a = false) : (xs ++ ys).dropWhile p = ys := by
  rw [List.dropWhile_append_of_pos hxs]
  cases ys with
  | nil => rfl
  | cons a ys => simp [hys a rfl]

end DirectedMarkdown
