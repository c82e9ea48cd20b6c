import DirectedMarkdown.Html.Escape
import DirectedMarkdown.Text.Digit

/-!
This module contains the bytes that a URL stands for once its percent signs have been read. They are
those of the URL that was escaped.
-/

namespace DirectedMarkdown.Html

/-- The bytes of a URL, where `%` and two hexadecimal digits are one byte. -/
def percentDecode : List Char → List UInt8
  | [] => []
  | '%' :: first :: second :: rest =>
    match Text.hexValue first, Text.hexValue second with
    | some high, some low => UInt8.ofNat (16 * high + low) :: percentDecode rest
    | _, _ => String.utf8EncodeChar '%' ++ percentDecode (first :: second :: rest)
  | c :: rest => String.utf8EncodeChar c ++ percentDecode rest

/-- A character of a URL without regard to HTML: its bytes, where it may not stand as it is. -/
def encodeUrlChar (c : Char) : List Char :=
  if isUrlSafe c || c = '&' || c = '\'' then [c]
  else (String.utf8EncodeChar c).flatMap percentEncode

/-- A URL with percent signs where a character may not stand as it is. -/
def encodeUrl (s : List Char) : List Char :=
  s.flatMap encodeUrlChar

theorem encodeUrl_cons (c : Char) (rest : List Char)
    : encodeUrl (c :: rest) = encodeUrlChar c ++ encodeUrl rest :=
  rfl

/-- Two hexadecimal digits at the start of a text. -/
def StartsWithByte (s : List Char) : Prop :=
  ∃ first second rest, s = first :: second :: rest
    ∧ Text.isHexDigit first ∧ Text.isHexDigit second

theorem percentDecode_byte {first second : Char} {high low : Nat}
    (hfirst : Text.hexValue first = some high) (hsecond : Text.hexValue second = some low)
    (rest : List Char)
    : percentDecode ('%' :: first :: second :: rest)
        = UInt8.ofNat (16 * high + low) :: percentDecode rest := by
  simp [percentDecode, hfirst, hsecond]

theorem percentDecode_percent {s : List Char} (h : ¬StartsWithByte s)
    : percentDecode ('%' :: s) = String.utf8EncodeChar '%' ++ percentDecode s := by
  cases s with
  | nil => rfl
  | cons first s =>
    cases s with
    | nil => rfl
    | cons second rest =>
      cases hfirst : Text.hexValue first with
      | none => simp [percentDecode, hfirst]
      | some high =>
        cases hsecond : Text.hexValue second with
        | none => simp [percentDecode, hsecond]
        | some low =>
          refine absurd ⟨first, second, rest, rfl, ?_, ?_⟩ h
          . simp [Text.isHexDigit, hfirst]
          . simp [Text.isHexDigit, hsecond]

theorem percentDecode_cons {c : Char} (h : c ≠ '%') (rest : List Char)
    : percentDecode (c :: rest) = String.utf8EncodeChar c ++ percentDecode rest := by
  rw [percentDecode.eq_def]
  split
  . contradiction
  . next heq =>
    rw [List.cons.injEq] at heq
    exact absurd heq.1 h
  . next heq =>
    rw [List.cons.injEq] at heq
    rw [heq.1, heq.2]

theorem hexValue_hexDigit : ∀ n < 16, Text.hexValue (hexDigit n) = some n := by
  decide

theorem percentDecode_percentEncode_append (b : UInt8) (rest : List Char)
    : percentDecode (percentEncode b ++ rest) = b :: percentDecode rest := by
  have hb := b.toNat_lt
  have hvalue : 16 * (b.toNat / 16) + b.toNat % 16 = b.toNat := by omega
  unfold percentEncode
  show percentDecode ('%' :: _ :: _ :: rest) = _
  rw [percentDecode_byte (hexValue_hexDigit _ (by omega)) (hexValue_hexDigit _ (by omega)), hvalue]
  simp

theorem percentDecode_flatMap_percentEncode_append (bytes : List UInt8) (rest : List Char)
    : percentDecode (bytes.flatMap percentEncode ++ rest) = bytes ++ percentDecode rest := by
  induction bytes with
  | nil => rfl
  | cons b bytes ih =>
    rw [List.flatMap_cons, List.append_assoc, percentDecode_percentEncode_append, ih]
    rfl

theorem isAlphanum_of_isHexDigit {c : Char} (h : Text.isHexDigit c) : c.isAlphanum := by
  unfold Text.isHexDigit Text.hexValue at h
  show ((c.isUpper || c.isLower) || c.isDigit) = true
  rw [Bool.or_eq_true, Bool.or_eq_true]
  split at h
  . next hdigit =>
    right
    exact (Bool.and_eq_true _ _).mpr ⟨decide_eq_true hdigit.1, decide_eq_true hdigit.2⟩
  . split at h
    . next hlower =>
      left; right
      have hlast : c.val ≤ 'z'.val := UInt32.le_trans hlower.2 (by decide)
      exact (Bool.and_eq_true _ _).mpr ⟨decide_eq_true hlower.1, decide_eq_true hlast⟩
    . split at h
      . next hupper =>
        left; left
        have hlast : c.val ≤ 'Z'.val := UInt32.le_trans hupper.2 (by decide)
        exact decide_eq_true ⟨hupper.1, hlast⟩
      . contradiction

theorem isUrlSafe_of_isHexDigit {c : Char} (h : Text.isHexDigit c) : isUrlSafe c := by
  unfold isUrlSafe
  rw [isAlphanum_of_isHexDigit h]
  rfl

theorem exists_of_encodeUrl_eq_cons {s rest : List Char} {digit : Char}
    (hdigit : Text.isHexDigit digit) (h : encodeUrl s = digit :: rest)
    : ∃ s', s = digit :: s' ∧ rest = encodeUrl s' := by
  cases s with
  | nil => contradiction
  | cons c s =>
    rw [encodeUrl_cons] at h
    unfold encodeUrlChar at h
    split at h
    . rw [List.singleton_append, List.cons.injEq] at h
      exact ⟨s, by rw [h.1], h.2.symm⟩
    . -- What is encoded starts with a percent sign, which is no digit.
      cases hbytes : String.utf8EncodeChar c with
      | nil =>
        have hlength := String.length_utf8EncodeChar c
        rw [hbytes] at hlength
        have := c.utf8Size_pos
        simp only [List.length_nil] at hlength
        omega
      | cons b bytes =>
        rw [hbytes, List.flatMap_cons] at h
        have hpercent : '%' = digit := by
          simp only [percentEncode, List.cons_append, List.cons.injEq] at h
          exact h.1
        rw [← hpercent] at hdigit
        contradiction

theorem StartsWithByte.of_encodeUrl {s : List Char} (h : StartsWithByte (encodeUrl s))
    : StartsWithByte s := by
  obtain ⟨first, second, rest, heq, hfirst, hsecond⟩ := h
  obtain ⟨s, rfl, hs⟩ := exists_of_encodeUrl_eq_cons hfirst heq
  obtain ⟨s, rfl, -⟩ := exists_of_encodeUrl_eq_cons hsecond hs.symm
  exact ⟨first, second, s, rfl, hfirst, hsecond⟩

theorem encodeUrlChar_of_isUrlSafe {c : Char} (h : isUrlSafe c) : encodeUrlChar c = [c] := by
  unfold encodeUrlChar
  rw [h]
  rfl

theorem percentDecode_encodeUrlChar_append {c : Char} (h : c ≠ '%') (rest : List Char)
    : percentDecode (encodeUrlChar c ++ rest) = String.utf8EncodeChar c ++ percentDecode rest := by
  unfold encodeUrlChar
  split
  . exact percentDecode_cons h rest
  . exact percentDecode_flatMap_percentEncode_append _ _

/-- Whatever is encoded stands for the same bytes. -/
theorem percentDecode_encodeUrl (s : List Char)
    : percentDecode (encodeUrl s) = percentDecode s := by
  fun_induction percentDecode s with
  | case1 => rfl
  | case2 first second rest high low hlow hhigh ih =>
    have hfirst : isUrlSafe first := isUrlSafe_of_isHexDigit (by simp [Text.isHexDigit, hhigh])
    have hsecond : isUrlSafe second := isUrlSafe_of_isHexDigit (by simp [Text.isHexDigit, hlow])
    rw [encodeUrl_cons, encodeUrl_cons, encodeUrl_cons, encodeUrlChar_of_isUrlSafe hfirst,
      encodeUrlChar_of_isUrlSafe hsecond, ← ih, ← percentDecode_byte hhigh hlow]
    rfl
  | case3 first second rest hnone ih =>
    rw [encodeUrl_cons, encodeUrlChar_of_isUrlSafe (by decide), List.singleton_append, ← ih]
    apply percentDecode_percent
    intro hstarts
    obtain ⟨_, _, _, heq, hfirst, hsecond⟩ := hstarts.of_encodeUrl
    obtain ⟨rfl, rfl, rfl⟩ : _ = _ ∧ _ = _ ∧ _ = _ := by simpa using heq
    obtain ⟨high, hhigh⟩ := Option.isSome_iff_exists.mp hfirst
    obtain ⟨low, hlow⟩ := Option.isSome_iff_exists.mp hsecond
    exact hnone high low hhigh hlow
  | case4 c rest hnone ih =>
    rw [encodeUrl_cons, ← ih]
    by_cases hc : c = '%'
    . subst hc
      rw [encodeUrlChar_of_isUrlSafe (by decide), List.singleton_append]
      apply percentDecode_percent
      intro hstarts
      obtain ⟨first, second, others, rfl, -⟩ := hstarts.of_encodeUrl
      exact hnone first second others rfl rfl
    . exact percentDecode_encodeUrlChar_append hc _

end DirectedMarkdown.Html
