import DirectedMarkdown.Proofs.Abbreviation.Extraction

/-!
This module contains the removal of definition lines from a document: whole lines are taken out of
it and nothing else changes, so that there is nothing to take out of what is left.
-/

namespace DirectedMarkdown.Abbreviation

theorem FenceRule.sorts_sortLines (text : String)
    : FenceRule.wide.Sorts none (Text.lines text.toList) (sortLines text) :=
  FenceRule.sorts_classify none fun line _ => reads_wide (lineContent line)

/-- Lines that are kept are kept again. -/
theorem FenceRule.Sorts.of_keptLines {rule : FenceRule} {opened : Option Fence}
    {lines : List (List Char)} {sorted : List Line} (h : rule.Sorts opened lines sorted)
    : rule.Sorts opened (keptLines sorted) ((keptLines sorted).map Line.kept) := by
  induction h with
  | nil => exact .nil
  | kept hturns hkept _ ih => exact .kept hturns hkept ih
  | definition _ _ ih => exact ih

/-- Lines that are all kept leave the whole document and no abbreviations. -/
theorem result_map_kept (lines : List (List Char))
    : result (lines.map Line.kept) = (String.ofList lines.flatten, PropertyList.empty) := by
  have hbody : (lines.map Line.kept).flatMap Line.body = lines.flatten := by
    rw [List.flatMap_map, ← List.flatMap_id]
    rfl
  have hpairs : (lines.map Line.kept).filterMap Line.pair? = [] := by
    rw [List.filterMap_map, List.filterMap_eq_nil_iff]
    exact fun _ _ => rfl
  rw [result, hbody, hpairs]
  rfl

/-- A document without its definition lines defines nothing. -/
theorem extract_body (text : String)
    : extract (extract text).1 = ((extract text).1, PropertyList.empty) := by
  have hsorted := FenceRule.sorts_sortLines text
  have hlines : Text.lines (extract text).1.toList = keptLines (sortLines text) := by
    unfold extract
    rw [String.toList_ofList, flatMap_body]
    exact ((Text.lined_lines text.toList).sublist hsorted.keptLines_sublist).lines_flatten
  have hkept : sortLines (extract text).1 = (keptLines (sortLines text)).map Line.kept := by
    have hbody := FenceRule.sorts_sortLines (extract text).1
    rw [hlines] at hbody
    exact hsorted.of_keptLines.unique hbody
  rw [extract, hkept]
  change result ((keptLines (sortLines text)).map Line.kept) = _
  rw [result_map_kept, ← flatMap_body]
  rfl

/--
Whole lines are taken out of others. Each of them gives one name and its expansion, without the
space around them.
-/
inductive TakesOut : List (List Char) → List (List Char) → List (String × String) → Prop where
  | nil : TakesOut [] [] []
  | kept (line : List Char) {lines left : List (List Char)} {pairs : List (String × String)}
    (hrest : TakesOut lines left pairs) : TakesOut (line :: lines) (line :: left) pairs
  | taken {line name expansion key value : List Char} {lines left : List (List Char)}
    {pairs : List (String × String)} (hdefinition : IsDefinition (lineContent line) name expansion)
    (hkey : Text.IsStripped Text.isBlank name key)
    (hvalue : Text.IsStripped isSpace expansion value) (hrest : TakesOut lines left pairs)
    : TakesOut (line :: lines) left ((String.ofList key, String.ofList value) :: pairs)

namespace FenceRule.Sorts

variable {rule : FenceRule} {opened : Option Fence} {lines : List (List Char)} {sorted : List Line}

theorem takesOut (h : rule.Sorts opened lines sorted)
    : TakesOut lines (keptLines sorted) (sorted.filterMap Line.pair?) := by
  induction h with
  | nil => exact .nil
  | kept _ _ _ ih => exact .kept _ ih
  | @definition _ name expansion _ _ hdefinition _ ih =>
    apply TakesOut.taken hdefinition
    . apply Text.isStripped_dropEndWhile
    . apply Text.isStripped_dropEndWhile
    . exact ih

theorem eq_map_kept (h : rule.Sorts opened lines sorted)
    (hlines : ∀ line ∈ lines, ¬Defines (lineContent line)) : sorted = lines.map Line.kept := by
  induction h with
  | nil => rfl
  | kept _ _ _ ih =>
    rw [List.forall_mem_cons] at hlines
    rw [ih hlines.2, List.map_cons]
  | definition hdefinition _ _ =>
    rw [List.forall_mem_cons] at hlines
    exact absurd ⟨_, _, hdefinition⟩ hlines.1

end FenceRule.Sorts

theorem isInfix_of_defines {line : List Char} (h : Defines (lineContent line))
    : ['*', '['] <:+: line := by
  obtain ⟨name, expansion, hdefinition⟩ := h
  obtain ⟨ending, hline, -⟩ := Text.dropEndWhile_append (fun c => c = '\r' || c = '\n') line
  have hcontent : lineContent line = ['*', '['] ++ (name ++ ']' :: ':' :: expansion) :=
    hdefinition.eq_append
  refine ⟨[], (name ++ ']' :: ':' :: expansion) ++ ending, ?_⟩
  rw [List.nil_append, ← List.append_assoc, ← hcontent]
  exact hline.symm

/--
Whole lines are taken out of a text, and each gives one name and its expansion. What is left stays
as it is when it is gone through again, as does a text without the start of a definition.
-/
theorem extract_removes (text : String)
    : (Text.lines text.toList).flatten = text.toList
      ∧ Text.Lined (Text.lines text.toList)
      ∧ (∃ sorted, FenceRule.wide.Sorts none (Text.lines text.toList) sorted
        ∧ TakesOut (Text.lines text.toList) (keptLines sorted) (sorted.filterMap Line.pair?)
        ∧ extract text = (String.ofList (keptLines sorted).flatten,
          PropertyList.ofList (sorted.filterMap Line.pair?)))
      ∧ extract (extract text).1 = ((extract text).1, PropertyList.empty)
      ∧ (¬"*[".toList <:+: text.toList → extract text = (text, PropertyList.empty)) := by
  have hsorts := FenceRule.sorts_sortLines text
  refine ⟨Text.flatten_lines _, Text.lined_lines _, ⟨sortLines text, hsorts, hsorts.takesOut, ?_⟩,
    extract_body text, ?_⟩
  . rw [← flatMap_body]
    rfl
  . intro hnot
    have hlines : ∀ line ∈ Text.lines text.toList, ¬Defines (lineContent line) := by
      intro line hline hdefines
      have hinfix : line <:+: text.toList := by
        rw [← Text.flatten_lines text.toList]
        exact List.infix_of_mem_flatten hline
      exact hnot ((isInfix_of_defines hdefines).trans hinfix)
    change result (sortLines text) = _
    rw [hsorts.eq_map_kept hlines, result_map_kept, Text.flatten_lines, String.ofList_toList]

/--
A block that is never closed and a last line without a line ending are left as they are. A bracket
in another place does not begin a definition.
-/
theorem extract_removes_unclosed
    : extract "*[ A ]:\ty \r\n~~~\r\n*[B]: z"
        = ("~~~\r\n*[B]: z", PropertyList.empty.insert "A" "y")
      ∧ extract "~~~\r\n*[B]: z" = ("~~~\r\n*[B]: z", PropertyList.empty)
      ∧ ¬"*[".toList <:+: "[*C]: z".toList
      ∧ extract "[*C]: z" = ("[*C]: z", PropertyList.empty) := by
  have hextract : extract "*[ A ]:\ty \r\n~~~\r\n*[B]: z"
      = ("~~~\r\n*[B]: z", PropertyList.empty.insert "A" "y") := by
    decide +kernel
  have hnot : ¬"*[".toList <:+: "[*C]: z".toList := by
    decide +kernel
  refine ⟨hextract, ?_, hnot, (extract_removes "[*C]: z").2.2.2.2 hnot⟩
  have hagain := (extract_removes "*[ A ]:\ty \r\n~~~\r\n*[B]: z").2.2.2.1
  rwa [hextract] at hagain

end DirectedMarkdown.Abbreviation
