import DirectedMarkdown.Output.Basic

/-!
This module contains the brackets of an output: the parts of the document that are kept, and the
elements that are written, each of which is opened and closed. `run` reads sides of brackets with
the open ones on a stack.
-/

namespace DirectedMarkdown

/-- What an output opens and closes. -/
inductive Bracket where
  | part (element : Markdown.Element)
  | element (name : String)
  deriving DecidableEq

inductive Side where
  | opens (bracket : Bracket)
  | closes (bracket : Bracket)
  deriving DecidableEq

namespace Side

/-- The brackets that are open behind a side, the innermost first. Only that one can be closed. -/
def step (stack : List Bracket) : Side → Option (List Bracket)
  | opens bracket => some (bracket :: stack)
  | closes bracket =>
    match stack with
    | [] => none
    | top :: rest => if top = bracket then some rest else none

def run (stack : List Bracket) : List Side → Option (List Bracket)
  | [] => some stack
  | side :: rest => (step stack side).bind fun next => run next rest

/-- The number of brackets that a side adds to the open ones. -/
def weight : Side → Int
  | opens _ => 1
  | closes _ => -1

def weights : List Side → Int
  | [] => 0
  | side :: rest => weight side + weights rest

/-- Brackets are closed in the reverse order in which they are opened, and none is left open. -/
def Balanced (sides : List Side) : Prop :=
  run [] sides = some []

instance (sides : List Side) : Decidable (Balanced sides) :=
  inferInstanceAs (Decidable (_ = _))

theorem run_append (stack : List Bracket) (xs ys : List Side)
    : run stack (xs ++ ys) = (run stack xs).bind fun next => run next ys := by
  induction xs generalizing stack with
  | nil => rfl
  | cons x xs ih =>
    rw [List.cons_append, run, run]
    cases step stack x with
    | none => rfl
    | some next => exact ih next

theorem run_append_of_eq {stack next : List Bracket} {xs : List Side}
    (h : run stack xs = some next) (ys : List Side) : run stack (xs ++ ys) = run next ys := by
  rw [run_append, h]
  rfl

theorem run_append_stack {stack next : List Bracket} {sides : List Side}
    (h : run stack sides = some next) (below : List Bracket)
    : run (stack ++ below) sides = some (next ++ below) := by
  induction sides generalizing stack with
  | nil =>
    simp only [run, Option.some.injEq] at h ⊢
    rw [h]
  | cons side rest ih =>
    rw [run, Option.bind_eq_some_iff] at h
    obtain ⟨after, hstep, hrest⟩ := h
    rw [run]
    have : step (stack ++ below) side = some (after ++ below) := by
      cases side with
      | opens bracket =>
        simp only [step, Option.some.injEq] at hstep ⊢
        rw [← hstep]
        rfl
      | closes bracket =>
        cases stack with
        | nil => simp [step] at hstep
        | cons top stack =>
          simp only [step, List.cons_append] at hstep ⊢
          split at hstep
          . next heq => simp_all
          . simp at hstep
    rw [this]
    exact ih hrest

theorem Balanced.run_eq {sides : List Side} (h : Balanced sides) (stack : List Bracket)
    : run stack sides = some stack := by
  exact run_append_stack h stack

theorem balanced_nil : Balanced [] := rfl

theorem Balanced.append {xs ys : List Side} (hx : Balanced xs) (hy : Balanced ys)
    : Balanced (xs ++ ys) := by
  unfold Balanced
  rw [run_append_of_eq hx]
  exact hy

theorem Balanced.wrap {sides : List Side} (h : Balanced sides) (bracket : Bracket)
    : Balanced (.opens bracket :: sides ++ [.closes bracket]) := by
  unfold Balanced
  rw [List.cons_append, run, step, Option.bind_some]
  rw [run_append_of_eq (h.run_eq _)]
  simp [run, step]

theorem balanced_flatMap {α : Type} {f : α → List Side} {items : List α}
    (h : ∀ item ∈ items, Balanced (f item)) : Balanced (items.flatMap f) := by
  induction items with
  | nil => rfl
  | cons item rest ih =>
    rw [List.forall_mem_cons] at h
    rw [List.flatMap_cons]
    exact h.1.append (ih h.2)

theorem Balanced.insert {front back middle : List Side} (h : Balanced (front ++ back))
    (hmiddle : Balanced middle) : Balanced (front ++ middle ++ back) := by
  unfold Balanced at h ⊢
  rw [run_append, Option.bind_eq_some_iff] at h
  obtain ⟨next, hfront, hback⟩ := h
  rw [List.append_assoc, run_append_of_eq hfront, run_append_of_eq (hmiddle.run_eq next)]
  exact hback

theorem weights_append (xs ys : List Side) : weights (xs ++ ys) = weights xs + weights ys := by
  induction xs with
  | nil => simp [weights]
  | cons side rest ih =>
    simp only [List.cons_append, weights, ih]
    omega

theorem length_of_run {stack next : List Bracket} {sides : List Side}
    (h : run stack sides = some next) : (next.length : Int) = stack.length + weights sides := by
  induction sides generalizing stack with
  | nil =>
    simp only [run, Option.some.injEq] at h
    simp [weights, h]
  | cons side rest ih =>
    rw [run, Option.bind_eq_some_iff] at h
    obtain ⟨after, hstep, hrest⟩ := h
    have hafter : (after.length : Int) = stack.length + weight side := by
      cases side with
      | opens bracket =>
        simp only [step, Option.some.injEq] at hstep
        simp [← hstep, weight]
      | closes bracket =>
        cases stack with
        | nil => simp [step] at hstep
        | cons top stack =>
          simp only [step] at hstep
          split at hstep
          . simp only [Option.some.injEq] at hstep
            simp only [← hstep, List.length_cons, weight]
            omega
          . simp at hstep
    have := ih hrest
    rw [weights]
    omega

theorem Balanced.weights_eq_zero {sides : List Side} (h : Balanced sides) : weights sides = 0 := by
  have := length_of_run h
  simp only [List.length_nil, Int.natCast_zero] at this
  omega

end Side

end DirectedMarkdown
