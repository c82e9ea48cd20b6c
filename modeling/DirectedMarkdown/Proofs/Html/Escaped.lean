import DirectedMarkdown.Proofs.Html.Escape

/-!
This module contains the texts that `escape` gives. They are told by a look at them: of the
characters with a meaning in HTML they hold ampersands only, and each of these starts an entity.
-/

namespace DirectedMarkdown.Html

/-- The characters with a meaning in HTML. -/
def special : List Char :=
  ['&', '<', '>', '"', '\'']

/-- The entities that stand for the characters with a meaning in HTML. -/
def entities : List String :=
  ["&amp;", "&lt;", "&gt;", "&quot;", "&#x27;"]

/-- Text without a meaning in HTML but that of its entities. -/
structure IsEscaped (s : List Char) : Prop where
  plain : ∀ c ∈ ['<', '>', '"', '\''], c ∉ s
  entity : ∀ before after, s = before ++ '&' :: after →
    ∃ entity ∈ entities, entity.toList <+: '&' :: after

/-- A character with a meaning in HTML has an entity, and any other one stands for itself. -/
theorem escapeChar_cases (c : Char)
    : (c ∈ special ∧ ∃ entity ∈ entities, escapeChar c = entity.toList)
        ∨ c ∉ special ∧ escapeChar c = [c] := by
  unfold escapeChar
  split
  . exact .inl ⟨by simp [special], "&amp;", by simp [entities], rfl⟩
  . exact .inl ⟨by simp [special], "&lt;", by simp [entities], rfl⟩
  . exact .inl ⟨by simp [special], "&gt;", by simp [entities], rfl⟩
  . exact .inl ⟨by simp [special], "&quot;", by simp [entities], rfl⟩
  . exact .inl ⟨by simp [special], "&#x27;", by simp [entities], rfl⟩
  . right
    simp_all [special]

section

variable {entity : String} (h : entity ∈ entities)

include h

theorem exists_escapeChar_of_mem_entities : ∃ c, entity.toList = escapeChar c := by
  simp only [entities, List.mem_cons, List.not_mem_nil, or_false] at h
  rcases h with rfl | rfl | rfl | rfl | rfl
  . exact ⟨'&', rfl⟩
  . exact ⟨'<', rfl⟩
  . exact ⟨'>', rfl⟩
  . exact ⟨'"', rfl⟩
  . exact ⟨'\'', rfl⟩

theorem plain_of_mem_entities : ∀ c ∈ ['<', '>', '"', '\''], c ∉ entity.toList := by
  simp only [entities, List.mem_cons, List.not_mem_nil, or_false] at h
  rcases h with rfl | rfl | rfl | rfl | rfl <;> simp

/-- An entity has no ampersand but the one that it starts with. -/
theorem ampersand_of_mem_entities : ∃ rest, entity.toList = '&' :: rest ∧ '&' ∉ rest := by
  simp only [entities, List.mem_cons, List.not_mem_nil, or_false] at h
  rcases h with rfl | rfl | rfl | rfl | rfl <;> exact ⟨_, rfl, by decide⟩

end

theorem plain_escapeChar (c : Char) : ∀ d ∈ ['<', '>', '"', '\''], d ∉ escapeChar c := by
  rcases escapeChar_cases c with ⟨_, entity, hentity, heq⟩ | ⟨hc, heq⟩
  . rw [heq]
    exact plain_of_mem_entities hentity
  . rw [heq]
    intro d hd hmem
    rw [List.mem_singleton] at hmem
    subst hmem
    exact hc (List.mem_cons_of_mem '&' hd)

theorem exists_entity_of_escapeChar {c : Char} {before after : List Char}
    (h : escapeChar c = before ++ '&' :: after)
    : ∃ entity ∈ entities, entity.toList = '&' :: after := by
  rcases escapeChar_cases c with ⟨_, entity, hentity, heq⟩ | ⟨hc, heq⟩
  . obtain ⟨rest, hrest, hnot⟩ := ampersand_of_mem_entities hentity
    rw [heq, hrest] at h
    cases before with
    | nil => exact ⟨entity, hentity, hrest.trans h⟩
    | cons first before =>
      rw [List.cons_append, List.cons.injEq] at h
      rw [h.2] at hnot
      simp at hnot
  . rw [heq] at h
    have hmem : '&' ∈ [c] := by
      rw [h]
      simp
    rw [List.mem_singleton] at hmem
    subst hmem
    exact absurd List.mem_cons_self hc

theorem isEscaped_escapeChars (s : List Char) : IsEscaped (escapeChars s) := by
  constructor
  . intro d hd hmem
    obtain ⟨c, _, hc⟩ := List.mem_flatMap.mp hmem
    exact plain_escapeChar c d hd hc
  . induction s with
    | nil =>
      intro before after h
      simp [escapeChars] at h
    | cons c s ih =>
      intro before after h
      rw [escapeChars_cons] at h
      -- The ampersand stands in the escape of the first character, or behind it.
      rcases List.append_eq_append_iff.mp h with ⟨middle, _, hrest⟩ | ⟨middle, hchar, hrest⟩
      . exact ih middle after hrest
      . cases middle with
        | nil => exact ih [] after hrest.symm
        | cons first middle =>
          obtain ⟨rfl, rfl⟩ := List.cons.inj hrest
          obtain ⟨entity, hentity, heq⟩ := exists_entity_of_escapeChar hchar
          refine ⟨entity, hentity, ?_⟩
          rw [heq]
          exact List.prefix_append _ _

namespace IsEscaped

theorem of_append {front rest : List Char} (h : IsEscaped (front ++ rest)) : IsEscaped rest := by
  refine ⟨fun c hc hmem => h.plain c hc (List.mem_append_right front hmem), ?_⟩
  intro before after heq
  apply h.entity (front ++ before)
  rw [heq, List.append_assoc]

theorem exists_escapeChar {c : Char} {rest : List Char} (h : IsEscaped (c :: rest))
    : ∃ d after, c :: rest = escapeChar d ++ after := by
  by_cases hc : c = '&'
  . subst hc
    obtain ⟨entity, hentity, after, hafter⟩ := h.entity [] rest rfl
    obtain ⟨d, hd⟩ := exists_escapeChar_of_mem_entities hentity
    exact ⟨d, after, by rw [← hd, hafter]⟩
  . have hnot : c ∉ special := by
      intro hmem
      rcases List.mem_cons.mp hmem with hamp | hplain
      . exact hc hamp
      . exact h.plain c hplain List.mem_cons_self
    rcases escapeChar_cases c with ⟨hmem, _⟩ | ⟨_, heq⟩
    . exact absurd hmem hnot
    . refine ⟨c, rest, ?_⟩
      rw [heq, List.singleton_append]

/-- Nothing is lost when escaped text is read. -/
theorem escapeChars_unescapeChars {s : List Char} (h : IsEscaped s)
    : escapeChars (unescapeChars s) = s := by
  match s with
  | [] => rfl
  | c :: rest =>
    obtain ⟨d, after, heq⟩ := h.exists_escapeChar
    have hshorter : after.length < (c :: rest).length := by
      have := List.length_pos_iff.mpr (escapeChar_ne_nil d)
      rw [heq, List.length_append]
      omega
    rw [heq] at h
    rw [heq, unescapeChars_escapeChar_append, escapeChars_cons]
    rw [h.of_append.escapeChars_unescapeChars]
termination_by s.length
decreasing_by exact hshorter

end IsEscaped

theorem isEscaped_iff {s : List Char} : IsEscaped s ↔ escapeChars (unescapeChars s) = s := by
  constructor
  . exact IsEscaped.escapeChars_unescapeChars
  . intro h
    rw [← h]
    exact isEscaped_escapeChars _

/--
An escape is a reversible encoding, character by character: reading its entities from left to right
gives back what was escaped, and all text without a meaning in HTML but that of its entities is the
escape of what is read from it.
-/
theorem escape_reversible (s t : String)
    : escape (s ++ t) = escape s ++ escape t
      ∧ unescape (escape s) = s
      ∧ (escape s = escape t ↔ s = t)
      ∧ IsEscaped (escape s).toList
      ∧ (IsEscaped s.toList ↔ escape (unescape s) = s) := by
  refine ⟨escape_append s t, unescape_escape s, ?_, ?_, ?_⟩
  . exact ⟨escape_injective, congrArg escape⟩
  . unfold escape
    rw [String.toList_ofList]
    exact isEscaped_escapeChars s.toList
  . unfold escape unescape
    rw [isEscaped_iff, String.toList_ofList, ← String.toList_inj, String.toList_ofList]

/-- Text that looks as if it were escaped already is escaped again. -/
example : escape "&amp;lt; & <" = "&amp;amp;lt; &amp; &lt;" ∧ unescape "&amp;lt;" = "&lt;" := by
  decide +kernel

end DirectedMarkdown.Html
