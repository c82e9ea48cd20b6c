import DirectedMarkdown.Proofs.List.Append
import DirectedMarkdown.Proofs.Text.Split
import DirectedMarkdown.Template
import Mathlib.Data.List.Basic

/-!
This module contains the law of filling a template: the first argument takes the place of the first
placeholder, and the rest of the template is filled with the other ones. A filled template gives its
arguments away if it has a placeholder for each of them, and if a number among them is set off.
-/

namespace DirectedMarkdown.Template

/-- The first placeholder of a text stands between `first` and `rest`. -/
structure Cuts (s first rest : List Char) : Prop where
  eq : s = first ++ '%' :: 's' :: rest
  notInfix : ¬['%', 's'] <:+: first

/-- The placeholders of a text are filled in order, or dropped if there is no argument left. -/
inductive Fills : List Char → List String → List Char → Prop where
  | plain {s : List Char} {args : List String} : ¬['%', 's'] <:+: s → Fills s args s
  | drop {s first rest filled : List Char}
    : Cuts s first rest → Fills rest [] filled → Fills s [] (first ++ filled)
  | put {s first rest filled : List Char} {arg : String} {args : List String}
    : Cuts s first rest → Fills rest args filled →
      Fills s (arg :: args) (first ++ arg.toList ++ filled)

theorem Cuts.length_lt {s first rest : List Char} (h : Cuts s first rest)
    : rest.length < s.length := by
  rw [h.eq, List.length_append, List.length_cons, List.length_cons]
  omega

theorem exists_cuts {s : List Char} (h : ['%', 's'] <:+: s) : ∃ first rest, Cuts s first rest := by
  induction s with
  | nil => simp at h
  | cons c s ih =>
    by_cases hhere : ['%', 's'] <+: c :: s
    . obtain ⟨rest, hrest⟩ := hhere
      exact ⟨[], rest, hrest.symm, by simp⟩
    . have htail : ['%', 's'] <:+: s := (List.infix_cons_iff.mp h).resolve_left hhere
      obtain ⟨first, rest, rfl, hfirst⟩ := ih htail
      refine ⟨c :: first, rest, rfl, ?_⟩
      rw [List.infix_cons_iff, not_or]
      refine ⟨?_, hfirst⟩
      intro hprefix
      apply hhere
      exact hprefix.trans (List.prefix_append (c :: first) _)

theorem splitOn_go_of_cuts {s first rest : List Char} (h : Cuts s first rest) (piece : List Char)
    : Text.splitOn.go ['%', 's'] 0 piece s
        = (piece.reverse ++ first) :: Text.splitOn ['%', 's'] rest := by
  obtain ⟨rfl, hinfix⟩ := h
  induction first generalizing piece with
  | nil =>
    rw [List.append_nil]
    rfl
  | cons c first ih =>
    rw [List.infix_cons_iff, not_or] at hinfix
    -- No placeholder starts in `first`, not even one that ends behind it.
    have hnone : ¬['%', 's'] <+: c :: (first ++ '%' :: 's' :: rest) := by
      rw [List.cons_prefix_cons]
      rintro ⟨rfl, hprefix⟩
      cases first with
      | nil => simp at hprefix
      | cons d first =>
        rw [List.cons_append, List.cons_prefix_cons] at hprefix
        obtain ⟨rfl, _⟩ := hprefix
        exact hinfix.1 (by simp)
    rw [List.cons_append, Text.splitOn.go]
    rw [if_neg (by simpa using hnone)]
    rw [ih _ hinfix.2]
    simp

theorem splitOn_of_cuts {s first rest : List Char} (h : Cuts s first rest)
    : Text.splitOn ['%', 's'] s = first :: Text.splitOn ['%', 's'] rest :=
  splitOn_go_of_cuts h []

theorem splitOn_go_of_notInfix {s : List Char} (h : ¬['%', 's'] <:+: s) (piece : List Char)
    : Text.splitOn.go ['%', 's'] 0 piece s = [piece.reverse ++ s] := by
  induction s generalizing piece with
  | nil => simp [Text.splitOn.go]
  | cons c s ih =>
    rw [List.infix_cons_iff, not_or] at h
    rw [Text.splitOn.go, if_neg (by simpa using h.1), ih h.2]
    simp

theorem toList_fill_of_notInfix {template : String} (h : ¬['%', 's'] <:+: template.toList)
    (args : List String) : (fill template args).toList = template.toList := by
  have hparts : Text.splitOn ['%', 's'] template.toList = [template.toList] :=
    splitOn_go_of_notInfix h []
  unfold fill
  rw [hparts, String.toList_ofList]
  exact List.append_nil _

theorem toList_fill_nil {template : String} {first rest : List Char}
    (h : Cuts template.toList first rest)
    : (fill template []).toList = first ++ (fill (String.ofList rest) []).toList := by
  unfold fill
  rw [splitOn_of_cuts h, String.toList_ofList]
  cases hrest : Text.splitOn ['%', 's'] rest with
  | nil => exact absurd hrest (Text.splitOn_ne_nil _ rest)
  | cons part parts =>
    rw [String.toList_ofList, hrest]
    simp [join]

/-- The first argument is put between what is before the first placeholder and the filled rest. -/
theorem toList_fill_cons {template : String} {first rest : List Char}
    (h : Cuts template.toList first rest) (arg : String) (args : List String)
    : (fill template (arg :: args)).toList
        = first ++ arg.toList ++ (fill (String.ofList rest) args).toList := by
  unfold fill
  rw [splitOn_of_cuts h, String.toList_ofList]
  cases hrest : Text.splitOn ['%', 's'] rest with
  | nil => exact absurd hrest (Text.splitOn_ne_nil _ rest)
  | cons part parts =>
    rw [String.toList_ofList, hrest]
    simp [join]

theorem fills_fill (template : String) (args : List String)
    : Fills template.toList args (fill template args).toList := by
  induction hlength : template.toList.length using Nat.strongRecOn generalizing template args with
  | ind length ih =>
    by_cases hinfix : ['%', 's'] <:+: template.toList
    . obtain ⟨first, rest, hcuts⟩ := exists_cuts hinfix
      have hrest : ∀ args, Fills rest args (fill (String.ofList rest) args).toList := by
        intro args
        have hlt : rest.length < length := hlength ▸ hcuts.length_lt
        simpa using ih rest.length hlt (String.ofList rest) args (by simp)
      cases args with
      | nil =>
        rw [toList_fill_nil hcuts]
        exact .drop hcuts (hrest [])
      | cons arg args =>
        rw [toList_fill_cons hcuts]
        exact .put hcuts (hrest args)
    . rw [toList_fill_of_notInfix hinfix]
      exact .plain hinfix

theorem fill_injective {template : String} (h : ['%', 's'] <:+: template.toList)
    : Function.Injective fun arg => fill template [arg] := by
  obtain ⟨first, rest, hcuts⟩ := exists_cuts h
  intro arg other heq
  have hchars := congrArg String.toList heq
  dsimp only at hchars
  rw [toList_fill_cons hcuts, toList_fill_cons hcuts] at hchars
  rw [List.append_cancel_right_eq, List.append_cancel_left_eq] at hchars
  exact String.toList_inj.mp hchars

/-- What stands between the first two placeholders is not empty and does not start with a digit. -/
def SetsNumberOff (template : String) : Prop :=
  ∃ first c between last,
    template.toList = first ++ ['%', 's'] ++ c :: between ++ ['%', 's'] ++ last
      ∧ ¬['%', 's'] <:+: first ∧ ¬['%', 's'] <:+: c :: between ∧ c.isDigit = false

theorem toList_fill_number {template : String} (h : SetsNumberOff template)
    : ∃ first last, ∃ c : Char, ∃ between, c.isDigit = false
        ∧ ∀ (number : Nat) (arg : String),
          (fill template [toString number, arg]).toList
            = first ++ ((toString number).toList ++ c :: (between ++ arg.toList ++ last)) := by
  obtain ⟨first, c, between, last, htemplate, hfirst, hbetween, hdigit⟩ := h
  have houter : Cuts template.toList first (c :: between ++ '%' :: 's' :: last) :=
    ⟨by simpa using htemplate, hfirst⟩
  have hinner : Cuts (String.ofList (c :: between ++ '%' :: 's' :: last)).toList (c :: between)
      last :=
    ⟨by simp, hbetween⟩
  refine ⟨first, (fill (String.ofList last) []).toList, c, between, hdigit, ?_⟩
  intro number arg
  rw [toList_fill_cons houter, toList_fill_cons hinner]
  simp

/-- The digits of the number end at the text behind it, whatever the argument holds. -/
theorem fill_number_injective {template : String} (h : SetsNumberOff template) {n m : Nat}
    {arg other : String}
    (heq : fill template [toString n, arg] = fill template [toString m, other])
    : n = m ∧ arg = other := by
  obtain ⟨first, last, c, between, hdigit, hfill⟩ := toList_fill_number h
  have hdigits : ∀ (k : Nat) (rest : List Char),
      ((toString k).toList ++ c :: rest).takeWhile Char.isDigit = (toString k).toList := by
    intro k rest
    apply takeWhile_append_of_head?
    . intro d hd
      have hmem : d ∈ Nat.toDigits 10 k := by simpa using hd
      exact Nat.isDigit_of_mem_toDigits (by omega) (by omega) hmem
    . simpa using hdigit
  have hchars := congrArg String.toList heq
  rw [hfill, hfill, List.append_cancel_left_eq] at hchars
  have hnumber : (toString n).toList = (toString m).toList := by
    rw [← hdigits n, hchars, hdigits]
  rw [hnumber, List.append_cancel_left_eq, List.cons.injEq] at hchars
  rw [List.append_cancel_right_eq, List.append_cancel_left_eq] at hchars
  refine ⟨?_, String.toList_inj.mp hchars.2⟩
  have hread : ∀ k : Nat, Nat.ofDigitChars 10 (toString k).toList 0 = k := by
    intro k
    simp
  rw [← hread n, hnumber, hread]

end DirectedMarkdown.Template
