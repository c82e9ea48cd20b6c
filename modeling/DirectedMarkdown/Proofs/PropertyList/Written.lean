import DirectedMarkdown.Proofs.PropertyList.Parser
import DirectedMarkdown.Proofs.Text.Split

/-!
This module contains the property lists that can be written down. These are the ones that reading
can give, and each is read back from its written form.
-/

namespace DirectedMarkdown.PropertyList

def printEntry (entry : String × String) : String :=
  entry.1 ++ "=" ++ entry.2

/-- The written form of entries, with `separator` between them. -/
def print (separator : Char) (entries : List (String × String)) : String :=
  (String.singleton separator).intercalate (entries.map printEntry)

/-- An entry of which nothing is lost when it is written down. -/
structure IsEntry (separator : Char) (entry : String × String) : Prop where
  trimmed_key : Text.Trimmed entry.1.toList
  trimmed_value : Text.Trimmed entry.2.toList
  notMem_key : '=' ∉ entry.1.toList ∧ ':' ∉ entry.1.toList ∧ separator ∉ entry.1.toList
  notMem_value : separator ∉ entry.2.toList

/-- Entries that make up a property list and can be written down. -/
structure Writable (separator : Char) (entries : List (String × String)) : Prop where
  nodup : (entries.map Prod.fst).Nodup
  isEntry : ∀ entry ∈ entries, IsEntry separator entry

variable {separator : Char}

instance (entry : String × String) : Decidable (IsEntry separator entry) :=
  decidable_of_iff
    (Text.Trimmed entry.1.toList ∧ Text.Trimmed entry.2.toList
      ∧ ('=' ∉ entry.1.toList ∧ ':' ∉ entry.1.toList ∧ separator ∉ entry.1.toList)
      ∧ separator ∉ entry.2.toList)
    ⟨fun ⟨hkey, hvalue, hnotKey, hnotValue⟩ => ⟨hkey, hvalue, hnotKey, hnotValue⟩,
      fun ⟨hkey, hvalue, hnotKey, hnotValue⟩ => ⟨hkey, hvalue, hnotKey, hnotValue⟩⟩

instance (entries : List (String × String)) : Decidable (Writable separator entries) :=
  decidable_of_iff
    ((entries.map Prod.fst).Nodup ∧ ∀ entry ∈ entries, IsEntry separator entry)
    ⟨fun ⟨hnodup, hentries⟩ => ⟨hnodup, hentries⟩, fun ⟨hnodup, hentries⟩ => ⟨hnodup, hentries⟩⟩

theorem toList_printEntry (entry : String × String)
    : (printEntry entry).toList = entry.1.toList ++ '=' :: entry.2.toList := by
  simp [printEntry]

theorem trimmed_printEntry {entry : String × String} (h : IsEntry separator entry)
    : Text.Trimmed (printEntry entry).toList := by
  have hmark : Text.isBlank '=' = false := by decide
  rw [toList_printEntry]
  constructor
  . intro c hc
    cases hkey : entry.1.toList with
    | nil =>
      rw [hkey] at hc
      obtain rfl : '=' = c := by simpa using hc
      exact hmark
    | cons d rest =>
      apply h.trimmed_key.1
      rw [hkey] at hc ⊢
      exact hc
  . intro c hc
    rw [Option.mem_def, List.getLast?_append, List.getLast?_cons] at hc
    cases hlast : entry.2.toList.getLast? with
    | none =>
      rw [hlast] at hc
      obtain rfl : '=' = c := by simpa using hc
      exact hmark
    | some d =>
      rw [hlast] at hc
      obtain rfl : d = c := by simpa using hc
      exact h.trimmed_value.2 d hlast

theorem pair?_printEntry {entry : String × String} (h : IsEntry separator entry)
    : pair? (printEntry entry).toList = some entry := by
  have hkey : ∀ c ∈ entry.1.toList, isPairMark c = false := by
    intro c hc
    rw [isPairMark_eq_false_iff]
    constructor
    . rintro rfl
      exact h.notMem_key.1 hc
    . rintro rfl
      exact h.notMem_key.2.1 hc
  unfold pair?
  rw [Text.trimChars_eq_self (trimmed_printEntry h), toList_printEntry]
  rw [splitEntry_append hkey (by decide)]
  rw [Text.trimChars_eq_self h.trimmed_key, Text.trimChars_eq_self h.trimmed_value]
  simp

theorem not_isMalformed_printEntry (entry : String × String)
    : ¬IsMalformed (printEntry entry).toList := by
  rintro ⟨_, hmark, _⟩
  apply hmark
  rw [toList_printEntry]
  simp

theorem isEntry_of_pair?_eq_some {piece : List Char} {entry : String × String}
    (hpiece : separator ∉ piece) (h : pair? piece = some entry) : IsEntry separator entry := by
  unfold pair? at h
  rw [Option.map_eq_some_iff] at h
  obtain ⟨pair, hsplit, rfl⟩ := h
  obtain ⟨key, mark, value, heq, hkey, _, rfl⟩ := exists_of_splitEntry_eq_some hsplit
  have hmem : ∀ c, c ∈ key ∨ c ∈ value → c ∈ piece := by
    intro c hc
    apply Text.mem_of_mem_trimChars
    rw [heq, List.mem_append, List.mem_cons]
    exact hc.imp_right .inr
  refine ⟨?_, ?_, ?_, ?_⟩
  . rw [String.toList_ofList]
    exact Text.trimmed_trimChars key
  . rw [String.toList_ofList]
    exact Text.trimmed_trimChars value
  . rw [String.toList_ofList]
    refine ⟨?_, ?_, ?_⟩
    . intro hc
      exact absurd (hkey _ (Text.mem_of_mem_trimChars hc)) (by decide)
    . intro hc
      exact absurd (hkey _ (Text.mem_of_mem_trimChars hc)) (by decide)
    . intro hc
      exact hpiece (hmem _ (.inl (Text.mem_of_mem_trimChars hc)))
  . rw [String.toList_ofList]
    intro hc
    exact hpiece (hmem _ (.inr (Text.mem_of_mem_trimChars hc)))

theorem splitOn_print (hseparator : isPairMark separator = false)
    {entries : List (String × String)} (h : ∀ entry ∈ entries, IsEntry separator entry)
    (hne : entries ≠ [])
    : (print separator entries).toList.splitOn separator
        = entries.map fun entry => (printEntry entry).toList := by
  unfold print
  rw [String.toList_intercalate, String.toList_singleton, List.map_map]
  apply List.splitOn_intercalate
  . intro piece hpiece
    rw [List.mem_map] at hpiece
    obtain ⟨entry, hentry, rfl⟩ := hpiece
    have hmark : separator ≠ '=' := (isPairMark_eq_false_iff.mp hseparator).1
    rw [Function.comp_apply, toList_printEntry, List.mem_append, List.mem_cons]
    rintro (hkey | heq | hvalue)
    . exact (h entry hentry).notMem_key.2.2 hkey
    . exact hmark heq
    . exact (h entry hentry).notMem_value hvalue
  . simpa using hne

theorem parse_print (hseparator : isPairMark separator = false)
    {entries : List (String × String)} (h : Writable separator entries)
    : parse (print separator entries) (String.singleton separator) = .ok (ofList entries) := by
  rw [parse_eq_ok_iff, String.toList_singleton, Text.splitOn_singleton]
  by_cases hnil : entries = []
  . subst hnil
    -- The empty text has one piece, which is blank.
    have hpieces : (print separator []).toList.splitOn separator = [[]] := by simp [print]
    rw [hpieces]
    exact ⟨by decide, by rfl⟩
  . rw [splitOn_print hseparator h.isEntry hnil]
    constructor
    . intro piece hpiece
      rw [List.mem_map] at hpiece
      obtain ⟨entry, _, rfl⟩ := hpiece
      exact not_isMalformed_printEntry entry
    . have hpairs : entries.filterMap (pair? ∘ fun entry => (printEntry entry).toList)
          = entries.filterMap some := by
        apply List.filterMap_congr
        intro entry hentry
        exact pair?_printEntry (h.isEntry entry hentry)
      rw [List.filterMap_map, hpairs, List.filterMap_some]

theorem writable_of_parse {input : String} {list : PropertyList}
    (h : parse input (String.singleton separator) = .ok list)
    : Writable separator list.entries := by
  refine ⟨list.nodup, ?_⟩
  intro entry hentry
  rw [parse_eq_ok_iff, String.toList_singleton, Text.splitOn_singleton] at h
  obtain ⟨_, rfl⟩ := h
  have hpair := mem_entries_ofList hentry
  rw [List.mem_filterMap] at hpair
  obtain ⟨piece, hpiece, hpair⟩ := hpair
  exact isEntry_of_pair?_eq_some (Text.notMem_of_mem_splitOn hpiece) hpair

/--
With a separator that does not end a key, just the lists that can be written down are read, each
from its written form, and the first entry without a value is what an input is refused for.
-/
theorem parse_print_writable (hseparator : isPairMark separator = false)
    : (∀ entries,
        (∃ input list,
          parse input (String.singleton separator) = .ok list ∧ list.entries = entries)
          ↔ Writable separator entries)
      ∧ (∀ entries, Writable separator entries →
        ∃ list, parse (print separator entries) (String.singleton separator) = .ok list
          ∧ list.entries = entries)
      ∧ ∀ input : String,
        ((∃ e, parse input (String.singleton separator) = .error e)
          ↔ ∃ piece ∈ input.toList.splitOn separator, IsMalformed piece)
        ∧ ∀ e, parse input (String.singleton separator) = .error e
          ↔ ∃ before piece after, input.toList.splitOn separator = before ++ piece :: after
            ∧ (∀ other ∈ before, ¬IsMalformed other) ∧ IsMalformed piece
            ∧ e.entry = String.ofList (Text.trimChars piece) := by
  have hprint : ∀ entries, Writable separator entries →
      ∃ list, parse (print separator entries) (String.singleton separator) = .ok list
        ∧ list.entries = entries := by
    intro entries h
    exact ⟨ofList entries, parse_print hseparator h, entries_ofList h.nodup⟩
  refine ⟨?_, hprint, ?_⟩
  . intro entries
    constructor
    . rintro ⟨input, list, hparse, rfl⟩
      exact writable_of_parse hparse
    . intro h
      exact ⟨print separator entries, hprint entries h⟩
  . intro input
    have herror : ∀ e, parse input (String.singleton separator) = .error e
        ↔ ∃ before piece after, input.toList.splitOn separator = before ++ piece :: after
          ∧ (∀ other ∈ before, ¬IsMalformed other) ∧ IsMalformed piece
          ∧ e.entry = String.ofList (Text.trimChars piece) := by
      intro e
      rw [parse_eq_error_iff, String.toList_singleton, Text.splitOn_singleton]
    refine ⟨?_, herror⟩
    constructor
    . rintro ⟨e, he⟩
      obtain ⟨before, piece, after, heq, _, hmalformed, _⟩ := (herror e).mp he
      exact ⟨piece, by simp [heq], hmalformed⟩
    . rintro ⟨piece, hmem, hmalformed⟩
      cases hparse : parse input (String.singleton separator) with
      | error e => exact ⟨e, rfl⟩
      | ok list =>
        rw [parse_eq_ok_iff, String.toList_singleton, Text.splitOn_singleton] at hparse
        exact absurd hmalformed (hparse.1 piece hmem)

theorem parse_print_writable_orphan
    : let entries := [("download", ""), ("", "a=b: c"), ("alt text", "x\ny")]
      isPairMark ',' = false ∧ Writable ',' entries
        ∧ ∃ list, parse (print ',' entries) (String.singleton ',') = .ok list
          ∧ list.entries = entries := by
  intro entries
  have hentries : Writable ',' entries := by decide
  have hcomma : isPairMark ',' = false := by decide
  exact ⟨hcomma, hentries, (parse_print_writable hcomma).2.1 entries hentries⟩

end DirectedMarkdown.PropertyList
