/-!
This module contains results that are a value or an error: what is known of a result from what
becomes of it when its value or its error is changed, or when it is put together with another one.
-/

namespace DirectedMarkdown

variable {α β γ ε ε' : Type}

theorem except_map_eq_ok {f : α → β} {result : Except ε α} {b : β} (h : result.map f = .ok b)
    : ∃ a, result = .ok a ∧ f a = b := by
  cases result with
  | error e => nomatch h
  | ok a => exact ⟨a, rfl, Except.ok.inj h⟩

theorem except_map_eq_error {f : α → β} {result : Except ε α} {e : ε}
    (h : result.map f = .error e) : result = .error e := by
  cases result with
  | error other => exact congrArg Except.error (Except.error.inj h)
  | ok a => nomatch h

theorem except_mapError_eq_ok {f : ε → ε'} {result : Except ε α} {a : α}
    (h : result.mapError f = .ok a) : result = .ok a := by
  cases result with
  | error e => nomatch h
  | ok other => exact congrArg Except.ok (Except.ok.inj h)

theorem except_mapError_eq_error {f : ε → ε'} {result : Except ε α} {e' : ε'}
    (h : result.mapError f = .error e') : ∃ e, result = .error e ∧ f e = e' := by
  cases result with
  | error e => exact ⟨e, rfl, Except.error.inj h⟩
  | ok a => nomatch h

theorem except_eq_ok_get {result : Except ε α} (h : result.toOption.isSome)
    : result = .ok (result.toOption.get h) := by
  cases result with
  | error e => nomatch h
  | ok a => rfl

section Both

variable {f : α → β → γ} {first : Except ε α} {second : Except ε β}

theorem except_both_eq_ok_iff {c : γ}
    : (first.bind fun a => second.map (f a)) = .ok c
        ↔ ∃ a b, first = .ok a ∧ second = .ok b ∧ c = f a b := by
  cases first with
  | error e => simp [Except.bind]
  | ok a =>
    cases second with
    | error e => simp [Except.bind, Except.map]
    | ok b => simp [Except.bind, Except.map, eq_comm]

/-- Of two errors, the first one is reported. -/
theorem except_both_eq_error_iff {e : ε}
    : (first.bind fun a => second.map (f a)) = .error e
        ↔ first = .error e ∨ (∃ a, first = .ok a) ∧ second = .error e := by
  cases first with
  | error e => simp [Except.bind]
  | ok a => cases second <;> simp [Except.bind, Except.map]

end Both

end DirectedMarkdown
