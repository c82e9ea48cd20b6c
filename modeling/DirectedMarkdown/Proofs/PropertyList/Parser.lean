import DirectedMarkdown.Proofs.PropertyList.Entries
import DirectedMarkdown.Proofs.Text.Blank
import DirectedMarkdown.PropertyList.Parser

/-!
This module contains what is read of the written form of a property list: either the first
malformed entry is reported, or the pairs of all entries are put together in order.
-/

namespace DirectedMarkdown.PropertyList

/-- An entry that is not blank, without anything that could end its key. -/
def IsMalformed (piece : List Char) : Prop :=
  (∃ c ∈ piece, Text.isBlank c = false) ∧ '=' ∉ piece ∧ ':' ∉ piece

instance : DecidablePred IsMalformed :=
  fun piece => @instDecidableAnd _ _ (List.decidableBEx _ piece) inferInstance

/-- The key and the value of an entry. -/
def pair? (piece : List Char) : Option (String × String) :=
  (splitEntry (Text.trimChars piece)).map fun pair => (String.ofList pair.1, String.ofList pair.2)

theorem isPairMark_eq_false_iff {c : Char} : isPairMark c = false ↔ c ≠ '=' ∧ c ≠ ':' := by
  simp [isPairMark]

theorem splitEntry_eq_none_iff {entry : List Char}
    : splitEntry entry = none ↔ ∀ c ∈ entry, isPairMark c = false := by
  unfold splitEntry
  split
  . next h => simpa using h
  . next h =>
    constructor
    . intro hnone
      simp at hnone
    . intro hmarks
      rw [List.dropWhile_eq_nil_iff.mpr (by simpa using hmarks)] at h
      simp at h

theorem splitEntry_append {key value : List Char} {mark : Char}
    (hkey : ∀ c ∈ key, isPairMark c = false) (hmark : isPairMark mark)
    : splitEntry (key ++ mark :: value) = some (Text.trimChars key, Text.trimChars value) := by
  unfold splitEntry
  rw [List.dropWhile_append_of_pos (by simpa using hkey)]
  rw [List.takeWhile_append_of_pos (by simpa using hkey)]
  simp [hmark]

theorem exists_of_splitEntry_eq_some {entry : List Char} {pair : List Char × List Char}
    (h : splitEntry entry = some pair)
    : ∃ key mark value, entry = key ++ mark :: value ∧ (∀ c ∈ key, isPairMark c = false)
        ∧ isPairMark mark ∧ pair = (Text.trimChars key, Text.trimChars value) := by
  unfold splitEntry at h
  split at h
  . simp at h
  . next mark value hrest =>
    have hmark := List.head?_dropWhile_not (!isPairMark ·) entry
    rw [hrest] at hmark
    refine ⟨entry.takeWhile (!isPairMark ·), mark, value, ?_, ?_, ?_, ?_⟩
    . rw [← hrest, List.takeWhile_append_dropWhile]
    . intro c hc
      simpa using List.mem_takeWhile_imp hc
    . simpa using hmark
    . simpa using h.symm

theorem isMalformed_iff {piece : List Char}
    : IsMalformed piece
        ↔ Text.trimChars piece ≠ [] ∧ splitEntry (Text.trimChars piece) = none := by
  unfold IsMalformed
  rw [splitEntry_eq_none_iff, ne_eq, Text.trimChars_eq_nil_iff]
  simp only [not_forall, Bool.not_eq_true, exists_prop]
  apply and_congr_right
  intro _
  constructor
  . rintro ⟨hequals, hcolon⟩ c hc
    have hmem := Text.mem_of_mem_trimChars hc
    rw [isPairMark_eq_false_iff]
    exact ⟨fun heq => hequals (heq ▸ hmem), fun heq => hcolon (heq ▸ hmem)⟩
  . intro h
    constructor
    . intro hmem
      have := h '=' ((Text.mem_trimChars_iff (by decide)).mpr hmem)
      simp [isPairMark] at this
    . intro hmem
      have := h ':' ((Text.mem_trimChars_iff (by decide)).mpr hmem)
      simp [isPairMark] at this

theorem insertEntry_of_isMalformed {piece : List Char} (h : IsMalformed piece)
    (list : PropertyList)
    : insertEntry list piece = .error ⟨String.ofList (Text.trimChars piece)⟩ := by
  obtain ⟨hne, hnone⟩ := isMalformed_iff.mp h
  unfold insertEntry
  rw [if_neg (by simpa using hne), hnone]

theorem insertEntry_of_not_isMalformed {piece : List Char} (h : ¬IsMalformed piece)
    (list : PropertyList)
    : insertEntry list piece
        = .ok ((pair? piece).toList.foldl (fun acc pair => acc.insert pair.1 pair.2) list) := by
  rw [isMalformed_iff, not_and] at h
  unfold insertEntry pair?
  by_cases hnil : Text.trimChars piece = []
  . rw [hnil]
    rfl
  . rw [if_neg (by simpa using hnil)]
    cases hsplit : splitEntry (Text.trimChars piece) with
    | none => exact absurd hsplit (h hnil)
    | some pair => rfl

theorem foldlM_insertEntry (pieces : List (List Char)) (list : PropertyList)
    : pieces.foldlM insertEntry list
        = match pieces.find? (IsMalformed ·) with
          | some piece => .error ⟨String.ofList (Text.trimChars piece)⟩
          | none =>
            .ok ((pieces.filterMap pair?).foldl (fun acc pair => acc.insert pair.1 pair.2) list) := by
  induction pieces generalizing list with
  | nil => rfl
  | cons piece rest ih =>
    rw [List.foldlM_cons]
    by_cases h : IsMalformed piece
    . rw [insertEntry_of_isMalformed h, List.find?_cons_of_pos (by simpa using h)]
      rfl
    . rw [insertEntry_of_not_isMalformed h, List.find?_cons_of_neg (by simpa using h)]
      change rest.foldlM insertEntry _ = _
      rw [ih, List.filterMap_cons]
      cases pair? piece <;> rfl

theorem parse_eq (input separator : String)
    : parse input separator
        = match (Text.splitOn separator.toList input.toList).find? (IsMalformed ·) with
          | some piece => .error ⟨String.ofList (Text.trimChars piece)⟩
          | none =>
            .ok (ofList ((Text.splitOn separator.toList input.toList).filterMap pair?)) :=
  foldlM_insertEntry _ _

theorem parse_eq_ok_iff {input separator : String} {list : PropertyList}
    : parse input separator = .ok list
        ↔ (∀ piece ∈ Text.splitOn separator.toList input.toList, ¬IsMalformed piece)
          ∧ list = ofList ((Text.splitOn separator.toList input.toList).filterMap pair?) := by
  rw [parse_eq]
  split
  . next piece hfind =>
    have hmem := List.mem_of_find?_eq_some hfind
    have hmalformed := List.find?_some hfind
    simp only [reduceCtorEq, false_iff, not_and]
    intro hnone
    exact absurd (of_decide_eq_true hmalformed) (hnone piece hmem)
  . next hfind =>
    simp only [List.find?_eq_none, decide_eq_true_eq] at hfind
    rw [Except.ok.injEq, eq_comm]
    exact (and_iff_right hfind).symm

theorem parse_eq_error_iff {input separator : String} {e : MalformedEntry}
    : parse input separator = .error e
        ↔ ∃ before piece after,
            Text.splitOn separator.toList input.toList = before ++ piece :: after
              ∧ (∀ other ∈ before, ¬IsMalformed other) ∧ IsMalformed piece
              ∧ e.entry = String.ofList (Text.trimChars piece) := by
  have hfirst : parse input separator = .error e
      ↔ ∃ piece,
          (Text.splitOn separator.toList input.toList).find? (IsMalformed ·) = some piece
            ∧ e.entry = String.ofList (Text.trimChars piece) := by
    rw [parse_eq]
    split
    . next piece hfind =>
      simp only [hfind, Except.error.injEq, Option.some.injEq, exists_eq_left']
      constructor
      . rintro rfl
        rfl
      . intro hentry
        rw [← hentry]
    . next hfind => simp [hfind]
  rw [hfirst]
  simp only [List.find?_eq_some_iff_append, decide_eq_true_eq, Bool.not_eq_true',
    decide_eq_false_iff_not]
  constructor
  . rintro ⟨piece, ⟨hmalformed, before, after, heq, hbefore⟩, hentry⟩
    exact ⟨before, piece, after, heq, hbefore, hmalformed, hentry⟩
  . rintro ⟨before, piece, after, heq, hbefore, hmalformed, hentry⟩
    exact ⟨piece, ⟨hmalformed, before, after, heq, hbefore⟩, hentry⟩

end DirectedMarkdown.PropertyList
