import DirectedMarkdown.Html.Reference
import DirectedMarkdown.Proofs.Html.Escape
import DirectedMarkdown.Proofs.Html.UrlEscape

/-!
This module contains the character references in the value of an attribute, read as in any HTML:
they give back what was escaped, and in a URL all but its percent signs.
-/

namespace DirectedMarkdown.Html

/-- The meaning of a text with character references. -/
def decodeReferences (s : List Char) : List Char :=
  match s with
  | [] => []
  | c :: rest =>
    match reference? (c :: rest) with
    | some (text, length) => text.toList ++ decodeReferences (rest.drop (length - 1))
    | none => c :: decodeReferences rest
termination_by s.length

theorem decodeReferences_nil : decodeReferences [] = [] := by
  rw [decodeReferences]

theorem decodeReferences_of_reference? {s : List Char} {text : String} {length : Nat}
    (h : reference? s = some (text, length)) (hlength : 0 < length)
    : decodeReferences s = text.toList ++ decodeReferences (s.drop length) := by
  cases s with
  | nil => contradiction
  | cons c rest =>
    obtain ⟨length, rfl⟩ := Nat.exists_eq_add_one_of_ne_zero (Nat.ne_of_gt hlength)
    rw [decodeReferences, h]
    rfl

theorem decodeReferences_cons {c : Char} (h : c ≠ '&') (rest : List Char)
    : decodeReferences (c :: rest) = c :: decodeReferences rest := by
  have hnone : reference? (c :: rest) = none := by
    unfold reference?
    split
    all_goals simp_all
  rw [decodeReferences, hnone]

theorem decodeReferences_append {text : List Char} (h : '&' ∉ text) (rest : List Char)
    : decodeReferences (text ++ rest) = text ++ decodeReferences rest := by
  induction text with
  | nil => rfl
  | cons c text ih =>
    rw [List.mem_cons, not_or] at h
    rw [List.cons_append, decodeReferences_cons (fun heq => h.1 heq.symm), ih h.2]
    rfl

theorem entity?_names
    : entity? "amp" = some "&" ∧ entity? "lt" = some "<" ∧ entity? "gt" = some ">"
      ∧ entity? "quot" = some "\"" := by
  decide +kernel

/-- What is escaped is written as a reference to it. -/
theorem reference?_escapeChar {c : Char} (h : escapeChar c ≠ [c]) (rest : List Char)
    : reference? (escapeChar c ++ rest)
        = some (String.singleton c, (escapeChar c).length) := by
  obtain ⟨hamp, hlt, hgt, hquot⟩ := entity?_names
  have hsemicolon : ';'.isAlphanum = false := rfl
  unfold escapeChar at h ⊢
  split
  . simp [reference?, hsemicolon, hamp]
  . simp [reference?, hsemicolon, hlt]
  . simp [reference?, hsemicolon, hgt]
  . simp [reference?, hsemicolon, hquot]
  . have hdigits : Text.isHexDigit '2' ∧ Text.isHexDigit '7' ∧ Text.isHexDigit ';' = false := by
      decide
    have hcode : codePoint (Text.ofDigits 16 ['2', '7']) = '\'' := by decide +kernel
    simp [reference?, numericReference?, hdigits, hcode]
  . simp at h

theorem decodeReferences_escapeChar_append (c : Char) (rest : List Char)
    : decodeReferences (escapeChar c ++ rest) = c :: decodeReferences rest := by
  by_cases h : escapeChar c = [c]
  . have hc : c ≠ '&' := by
      rintro rfl
      contradiction
    rw [h, List.singleton_append, decodeReferences_cons hc]
  . have hlength := List.length_pos_iff.mpr (escapeChar_ne_nil c)
    rw [decodeReferences_of_reference? (reference?_escapeChar h rest) hlength, List.drop_left]
    simp

theorem decodeReferences_escapeChars (s : List Char)
    : decodeReferences (escapeChars s) = s := by
  induction s with
  | nil => exact decodeReferences_nil
  | cons c s ih =>
    rw [escapeChars_cons, decodeReferences_escapeChar_append, ih]

theorem ampersand_notMem_percentEncode (b : UInt8) : '&' ∉ percentEncode b := by
  have hdigit : ∀ n < 16, hexDigit n ≠ '&' := by decide
  have hb := b.toNat_lt
  unfold percentEncode
  simp only [List.mem_cons, List.not_mem_nil, or_false, not_or]
  refine ⟨by decide, ?_, ?_⟩
  . exact (hdigit _ (by omega)).symm
  . exact (hdigit _ (by omega)).symm

theorem decodeReferences_escapeUrlChar_append (c : Char) (rest : List Char)
    : decodeReferences (escapeUrlChar c ++ rest) = encodeUrlChar c ++ decodeReferences rest := by
  unfold escapeUrlChar encodeUrlChar
  split
  . next hsafe =>
    have hc : c ≠ '&' := by
      rintro rfl
      contradiction
    simp [hsafe, decodeReferences_cons hc]
  . split
    . next hamp =>
      subst hamp
      exact decodeReferences_escapeChar_append '&' rest
    . split
      . next hquote =>
        subst hquote
        exact decodeReferences_escapeChar_append '\'' rest
      . next hsafe hamp hquote =>
        rw [decodeReferences_append]
        . simp [hsafe, hamp, hquote]
        . rw [List.mem_flatMap]
          rintro ⟨b, _, hmem⟩
          exact ampersand_notMem_percentEncode b hmem

theorem decodeReferences_flatMap_escapeUrlChar (s : List Char)
    : decodeReferences (s.flatMap escapeUrlChar) = encodeUrl s := by
  induction s with
  | nil => exact decodeReferences_nil
  | cons c s ih =>
    rw [List.flatMap_cons, decodeReferences_escapeUrlChar_append, ih, encodeUrl_cons]

end DirectedMarkdown.Html
