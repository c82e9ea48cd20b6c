import DirectedMarkdown.Json.Parser

/-!
This module contains the round trip of JSON values through their compact form: what is written is a
JSON text, and it is read as the value that was written. Numbers are left aside.
-/

namespace DirectedMarkdown.Json

/-- Values that hold no numbers. -/
inductive Numberless : Json → Prop where
  | null : Numberless .null
  | bool (value : Bool) : Numberless (.bool value)
  | text (value : String) : Numberless (.text value)
  | array {items : List Json} : (∀ item ∈ items, Numberless item) → Numberless (.array items)
  | object {members : List (String × Json)}
    : (∀ member ∈ members, Numberless member.2) → Numberless (.object members)

section Quote

theorem hexValue_digitChar : ∀ n < 16, Text.hexValue (Nat.digitChar n) = some n := by
  decide

/-- Control characters are escaped by their numbers, which are below 32. -/
theorem readUnicode_hexPair (c : Char) (hc : c.toNat < 0x20) (rest : List Char)
    : readUnicode ('0' :: '0' :: hexPair c.toNat ++ rest) = some (c, rest) := by
  have hzero : Text.hexValue '0' = some 0 := by decide
  have hhigh := hexValue_digitChar (c.toNat / 16) (by omega)
  have hlow := hexValue_digitChar (c.toNat % 16) (by omega)
  have hnumber : ((0 * 16 + 0) * 16 + c.toNat / 16) * 16 + c.toNat % 16 = c.toNat := by omega
  have hread : readHex4 ('0' :: '0' :: hexPair c.toNat ++ rest) = some (c.toNat, rest) := by
    simp only [hexPair, List.cons_append, List.nil_append, readHex4, hzero, hhigh, hlow,
      Option.bind_eq_bind, Option.bind_some, hnumber]
    rfl
  unfold readUnicode
  rw [hread, Option.bind_eq_bind, Option.bind_some]
  dsimp only
  rw [if_neg (by omega), if_neg (by omega), Char.ofNat_toNat]
  rfl

/-- A character is read back from its escape, whatever follows it. -/
theorem readString_quoteChar (fuel : Nat) (acc : List Char) (c : Char) (rest : List Char)
    : readString (fuel + 1) acc (quoteChar c ++ rest) = readString fuel (c :: acc) rest := by
  by_cases hquote : c = '"'
  . subst hquote
    rfl
  by_cases hbackslash : c = '\\'
  . subst hbackslash
    rfl
  unfold quoteChar
  rw [if_neg hquote, if_neg hbackslash]
  -- The five control characters that have a letter of their own.
  iterate 5
    split
    . next h =>
      subst h
      rfl
  split
  . next hcontrol =>
    have hread := readUnicode_hexPair c hcontrol rest
    simp only [List.cons_append, List.nil_append, readString] at hread ⊢
    rw [hread]
  . next hcontrol =>
    rw [List.singleton_append, readString]
    . simp [hcontrol, hbackslash]
    . simpa using hquote
    . simp [hbackslash]
    . simp [hbackslash]

theorem readString_quote {fuel : Nat} (acc s rest : List Char) (hfuel : s.length < fuel)
    : readString fuel acc (s.flatMap quoteChar ++ '"' :: rest)
        = some (String.ofList (acc.reverse ++ s), rest) := by
  induction s generalizing fuel acc with
  | nil =>
    obtain ⟨fuel, rfl⟩ := Nat.exists_eq_add_one_of_ne_zero (Nat.ne_of_gt hfuel)
    simp [readString]
  | cons c s ih =>
    obtain ⟨fuel, rfl⟩ := Nat.exists_eq_add_one_of_ne_zero (Nat.ne_of_gt (Nat.zero_lt_of_lt hfuel))
    rw [List.flatMap_cons, List.append_assoc, readString_quoteChar]
    rw [ih (c :: acc) (by simpa using hfuel)]
    simp

theorem length_le_length_flatMap_quoteChar (s : List Char)
    : s.length ≤ (s.flatMap quoteChar).length := by
  induction s with
  | nil => simp
  | cons c s ih =>
    have hone : 0 < (quoteChar c).length := by
      unfold quoteChar
      repeat' split
      all_goals simp
    rw [List.flatMap_cons, List.length_append, List.length_cons]
    omega

end Quote

/-- A value is read back from its compact form, whatever follows it. -/
def ReadsBack (j : Json) : Prop :=
  ∀ fuel rest, j.compactChars.length ≤ fuel →
    readValue fuel (j.compactChars ++ rest) = some (j, rest)

section Value

/-- The first character of a compact form is neither blank nor the end of an array. -/
theorem exists_compactChars_eq_cons {j : Json} (h : j.Numberless)
    : ∃ c rest, j.compactChars = c :: rest ∧ isSpace c = false ∧ c ≠ ']' := by
  cases h with
  | null => exact ⟨_, _, rfl, rfl, by decide⟩
  | bool value => cases value <;> exact ⟨_, _, rfl, rfl, by decide⟩
  | text value => exact ⟨_, _, rfl, rfl, by decide⟩
  | array _ => exact ⟨_, _, rfl, rfl, by decide⟩
  | object _ => exact ⟨_, _, rfl, rfl, by decide⟩

theorem readsBack_text (value : String) : ReadsBack (.text value) := by
  intro fuel rest hfuel
  have hlength := length_le_length_flatMap_quoteChar value.toList
  have henough : value.toList.length < (value.toList.flatMap quoteChar ++ '"' :: rest).length + 1 := by
    rw [List.length_append]
    omega
  have hread := readString_quote [] value.toList rest henough
  cases fuel with
  | zero => simp [compactChars, quote] at hfuel
  | succ fuel =>
    simp only [compactChars, quote, List.cons_append, List.append_assoc, List.nil_append]
    change Option.map _ (readString _ [] _) = _
    rw [hread]
    simp

/-- A member is read with its name, and then the reader looks at what stands behind it. -/
theorem readMembers_compactMember {value : Json} (hvalue : ReadsBack value) {fuel : Nat}
    (hfuel : value.compactChars.length ≤ fuel) (acc : List (String × Json)) (name : String)
    (rest : List Char)
    : readMembers (fuel + 1) acc (compactMember (name, value) ++ rest)
        = match skipSpace rest with
          | ',' :: rest => readMembers fuel ((name, value) :: acc) rest
          | '\x7d' :: rest => some (.object ((name, value) :: acc).reverse, rest)
          | _ => none := by
  have hlength := length_le_length_flatMap_quoteChar name.toList
  have henough : name.toList.length
      < (name.toList.flatMap quoteChar ++ '"' :: ':' :: (value.compactChars ++ rest)).length + 1 := by
    rw [List.length_append]
    omega
  have hname := readString_quote [] name.toList (':' :: (value.compactChars ++ rest)) henough
  simp only [compactMember, quote, List.cons_append, List.append_assoc, List.nil_append]
  rw [readMembers]
  simp only [skipSpace, isSpace, Char.reduceEq, decide_false, Bool.or_self, Bool.false_eq_true,
    not_false_eq_true, List.dropWhile_cons_of_neg, hname, hvalue fuel rest hfuel]
  rewrite [List.reverse_nil, List.nil_append, String.ofList_toList]
  rfl

/-- The members of an object are read up to its end, one at a time. -/
theorem readMembers_compactMembers {members : List (String × Json)} (hne : members ≠ [])
    (h : ∀ member ∈ members, ReadsBack member.2) {fuel : Nat} (acc : List (String × Json))
    (rest : List Char) (hfuel : (separate [','] (compactMembers members)).length ≤ fuel)
    : readMembers fuel acc (separate [','] (compactMembers members) ++ '\x7d' :: rest)
        = some (.object (acc.reverse ++ members), rest) := by
  induction members generalizing fuel acc with
  | nil => simp at hne
  | cons member others ih =>
    obtain ⟨name, value⟩ := member
    rw [List.forall_mem_cons] at h
    have hmember : (compactMember (name, value)).length ≤ fuel := by
      cases others <;> simp [compactMembers, separate] at hfuel ⊢ <;> omega
    cases fuel with
    | zero => simp [compactMember, quote] at hmember
    | succ fuel =>
      have hvalue : value.compactChars.length ≤ fuel := by
        simp [compactMember, quote] at hmember
        omega
      cases others with
      | nil =>
        rw [compactMembers, compactMembers, separate]
        rw [readMembers_compactMember h.1 hvalue]
        simp [skipSpace, isSpace]
      | cons other others =>
        have hrest : (separate [','] (compactMembers (other :: others))).length ≤ fuel := by
          simp [compactMembers, separate] at hfuel ⊢
          omega
        have hnext := ih (by simp) h.2 ((name, value) :: acc) hrest
        have hform : separate [','] (compactMembers ((name, value) :: other :: others))
            = compactMember (name, value)
              ++ ',' :: separate [','] (compactMembers (other :: others)) := by
          simp [compactMembers, separate]
        rw [hform, List.append_assoc, readMembers_compactMember h.1 hvalue]
        simpa [skipSpace, isSpace] using hnext

/-- The items of an array are read up to its end, one at a time. -/
theorem readItems_compactItems {items : List Json} (hne : items ≠ [])
    (h : ∀ item ∈ items, ReadsBack item ∧ item.Numberless) {fuel : Nat} (acc : List Json)
    (rest : List Char) (hfuel : (separate [','] (compactItems items)).length < fuel)
    : readItems fuel acc (separate [','] (compactItems items) ++ ']' :: rest)
        = some (.array (acc.reverse ++ items), rest) := by
  induction items generalizing fuel acc with
  | nil => simp at hne
  | cons item others ih =>
    rw [List.forall_mem_cons] at h
    cases fuel with
    | zero => simp at hfuel
    | succ fuel =>
      have hitem : item.compactChars.length ≤ fuel := by
        cases others <;> simp [compactItems, separate] at hfuel ⊢ <;> omega
      cases others with
      | nil =>
        rw [compactItems, compactItems, separate, readItems, h.1.1 fuel _ hitem]
        simp [skipSpace, isSpace]
      | cons other others =>
        have hrest : (separate [','] (compactItems (other :: others))).length < fuel := by
          simp [compactItems, separate] at hfuel ⊢
          omega
        have hnext := ih (by simp) h.2 (item :: acc) hrest
        have hform : separate [','] (compactItems (item :: other :: others))
            = item.compactChars ++ ',' :: separate [','] (compactItems (other :: others)) := by
          simp [compactItems, separate]
        rw [hform, List.append_assoc, readItems, h.1.1 fuel _ hitem]
        simpa [skipSpace, isSpace] using hnext

theorem readValue_brace (fuel : Nat) (rest : List Char)
    : readValue (fuel + 1) ('\x7b' :: '"' :: rest) = readMembers fuel [] ('"' :: rest) := by
  rfl

theorem exists_separate_compactMembers (member : String × Json) (others : List (String × Json))
    : ∃ tail, separate [','] (compactMembers (member :: others)) = '"' :: tail := by
  obtain ⟨name, value⟩ := member
  cases others <;> exact ⟨_, rfl⟩

theorem readValue_bracket (fuel : Nat) {c : Char} (rest : List Char) (hblank : isSpace c = false)
    (hend : c ≠ ']')
    : readValue (fuel + 1) ('[' :: c :: rest) = readItems fuel [] (c :: rest) := by
  have hopen : skipSpace ('[' :: c :: rest) = '[' :: c :: rest := rfl
  have hskip : skipSpace (c :: rest) = c :: rest := by simp [skipSpace, hblank]
  unfold readValue
  simp only [hopen, hskip]
  split
  . next h => simp_all
  . rfl

theorem exists_separate_compactItems {item : Json} (h : item.Numberless) (others : List Json)
    : ∃ c tail, separate [','] (compactItems (item :: others)) = c :: tail
        ∧ isSpace c = false ∧ c ≠ ']' := by
  obtain ⟨c, tail, hhead, hc⟩ := exists_compactChars_eq_cons h
  cases others with
  | nil => exact ⟨c, tail, by simp [compactItems, separate, hhead], hc⟩
  | cons other others =>
    exact ⟨c, tail ++ [','] ++ separate [','] (compactItems (other :: others)),
      by simp [compactItems, separate, hhead], hc⟩

theorem readsBack {j : Json} (h : j.Numberless) : ReadsBack j := by
  induction h with
  | null =>
    intro fuel rest hfuel
    cases fuel with
    | zero => simp [compactChars] at hfuel
    | succ fuel => rfl
  | bool value =>
    intro fuel rest hfuel
    cases fuel with
    | zero => cases value <;> simp [compactChars] at hfuel
    | succ fuel => cases value <;> rfl
  | text value => exact readsBack_text value
  | @array items hitems ih =>
    intro fuel rest hfuel
    cases fuel with
    | zero => simp [compactChars] at hfuel
    | succ fuel =>
      cases items with
      | nil => rfl
      | cons item others =>
        have henough : (separate [','] (compactItems (item :: others))).length < fuel := by
          simp [compactChars] at hfuel
          omega
        have hread := readItems_compactItems (List.cons_ne_nil item others)
          (fun other hother => ⟨ih other hother, hitems other hother⟩) [] rest henough
        have hform : (array (item :: others)).compactChars ++ rest
            = '[' :: (separate [','] (compactItems (item :: others)) ++ ']' :: rest) := by
          simp [compactChars]
        obtain ⟨c, tail, hhead, hblank, hend⟩ :=
          exists_separate_compactItems (hitems item List.mem_cons_self) others
        rw [hform, hhead, List.cons_append, readValue_bracket fuel _ hblank hend]
        rw [← List.cons_append, ← hhead]
        exact hread
  | @object members hmembers ih =>
    intro fuel rest hfuel
    cases fuel with
    | zero => simp [compactChars] at hfuel
    | succ fuel =>
      cases members with
      | nil => rfl
      | cons member others =>
        have henough : (separate [','] (compactMembers (member :: others))).length ≤ fuel := by
          simp [compactChars] at hfuel
          omega
        have hread := readMembers_compactMembers (List.cons_ne_nil member others) ih [] rest henough
        have hform : (object (member :: others)).compactChars ++ rest
            = '\x7b' :: (separate [','] (compactMembers (member :: others)) ++ '\x7d' :: rest) := by
          simp [compactChars]
        obtain ⟨tail, hhead⟩ := exists_separate_compactMembers member others
        rw [hform, hhead, List.cons_append, readValue_brace]
        rw [← List.cons_append, ← hhead]
        exact hread

end Value

/-- The compact form of a value is a JSON text, which says just this value. -/
theorem parse_compact {j : Json} (h : j.Numberless) : parse j.compact = some j := by
  have hread := readsBack h (2 * j.compact.length + 2) [] (by
    simp only [compact, String.length_ofList]
    omega)
  unfold parse
  rw [List.append_nil] at hread
  rw [compact, String.toList_ofList, ← compact, hread]
  rfl

theorem compact_injective {j k : Json} (hj : j.Numberless) (hk : k.Numberless)
    (h : j.compact = k.compact) : j = k := by
  have hread := parse_compact hj
  rw [h, parse_compact hk] at hread
  exact (Option.some.inj hread).symm

end DirectedMarkdown.Json
