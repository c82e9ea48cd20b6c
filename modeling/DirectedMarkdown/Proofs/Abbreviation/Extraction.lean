import DirectedMarkdown.Proofs.Abbreviation.Fence
import DirectedMarkdown.Proofs.Text.Split

/-!
This module contains the proof that the lines of fenced code blocks stay in the document and that
the definition lines outside them are taken out, where fences are by the wide rule. This is also true
by the standard rule unless a definition line is in a block by one of the two rules only.
-/

namespace DirectedMarkdown.Abbreviation

/-- A line that defines the abbreviation `name`. -/
structure IsDefinition (content name expansion : List Char) : Prop where
  eq_append : content = '*' :: '[' :: (name ++ ']' :: ':' :: expansion)
  ne_nil : name ≠ []
  notMem : ']' ∉ name

theorem definition?_eq_some_iff {content key value : List Char}
    : definition? content = some (key, value)
        ↔ ∃ name expansion, IsDefinition content name expansion
            ∧ Text.trimChars name = key ∧ trimSpaces expansion = value := by
  constructor
  . intro h
    unfold definition? at h
    split at h
    . next rest =>
      simp only at h
      split at h
      . next expansion hdrop =>
        rw [Option.ite_none_left_eq_some, List.isEmpty_iff, Option.some.injEq, Prod.mk.injEq] at h
        obtain ⟨hne, hkey, hvalue⟩ := h
        refine ⟨rest.takeWhile (· ≠ ']'), expansion, ⟨?_, hne, ?_⟩, hkey, hvalue⟩
        . rw [← hdrop, List.takeWhile_append_dropWhile]
        . intro hmem
          simpa using List.mem_takeWhile_imp hmem
      . simp at h
    . simp at h
  . rintro ⟨name, expansion, ⟨rfl, hne, hname⟩, rfl, rfl⟩
    have hall : ∀ c ∈ name, decide (c ≠ ']') := by
      intro c hc
      rw [decide_eq_true_eq]
      rintro rfl
      exact hname hc
    have hstop : ∀ c ∈ (']' :: ':' :: expansion).head?, decide (c ≠ ']') = false := by simp
    unfold definition?
    simp only [takeWhile_append_of_head? hall hstop, dropWhile_append_of_head? hall hstop]
    rw [if_neg (by simpa using hne)]

theorem IsDefinition.unique {content name expansion name' expansion' : List Char}
    (h : IsDefinition content name expansion) (h' : IsDefinition content name' expansion')
    : Text.trimChars name' = Text.trimChars name
        ∧ trimSpaces expansion' = trimSpaces expansion := by
  have hsome := definition?_eq_some_iff.mpr ⟨name, expansion, h, rfl, rfl⟩
  rw [definition?_eq_some_iff.mpr ⟨name', expansion', h', rfl, rfl⟩] at hsome
  simpa using hsome

/-- The line defines an abbreviation, wherever it is. -/
def Defines (content : List Char) : Prop :=
  ∃ name expansion, IsDefinition content name expansion

theorem Defines.not_isFenceLine {content : List Char} (h : Defines content)
    (blank rest : List Char) (fence : Fence) : ¬IsFenceLine content blank fence rest := by
  intro hfence
  obtain ⟨name, expansion, hdefinition⟩ := h
  have heq := hfence.fence?_eq
  rw [hdefinition.eq_append] at heq
  have hstar : Text.isBlank '*' = false := by decide
  simp [fence?, hstar] at heq

theorem Defines.plain {content : List Char} (h : Defines content) : Plain content :=
  fun _ _ _ hfence => absurd hfence (h.not_isFenceLine _ _ _)

/-- The document without the lines that are taken out, and the abbreviations that these define. -/
def result (sorted : List Line) : String × PropertyList :=
  (String.ofList (sorted.flatMap Line.body), PropertyList.ofList (sorted.filterMap Line.pair?))

/-- The lines that are kept. -/
def keptLines : List Line → List (List Char)
  | [] => []
  | .kept line :: rest => line :: keptLines rest
  | .definition _ _ :: rest => keptLines rest

theorem flatMap_body (sorted : List Line)
    : sorted.flatMap Line.body = (keptLines sorted).flatten := by
  induction sorted with
  | nil => rfl
  | cons line rest ih => cases line <;> simp [Line.body, keptLines, ih]

namespace FenceRule

/-- How a line changes the fence that is open. -/
inductive Turns (rule : FenceRule) (content : List Char) : Option Fence → Option Fence → Prop where
  | opening {fence : Fence} (hopens : rule.opens content fence)
    : Turns rule content none (some fence)
  | outside (hopens : ∀ fence, ¬rule.opens content fence) : Turns rule content none none
  | closing {opened : Fence} (hcloses : rule.closes content opened)
    : Turns rule content (some opened) none
  | inside {opened : Fence} (hcloses : ¬rule.closes content opened)
    : Turns rule content (some opened) (some opened)

/-- The fence `next` is open behind some lines if the fence `opened` is open before them. -/
inductive Leads (rule : FenceRule) : Option Fence → List (List Char) → Option Fence → Prop where
  | nil {opened : Option Fence} : Leads rule opened [] opened
  | cons {line : List Char} {rest : List (List Char)} {opened next last : Option Fence}
      (hturns : rule.Turns (lineContent line) opened next) (hrest : Leads rule next rest last)
    : Leads rule opened (line :: rest) last

/-- What becomes of lines: just the definition lines are taken out where no fence is open. -/
inductive Sorts (rule : FenceRule) : Option Fence → List (List Char) → List Line → Prop where
  | nil {opened : Option Fence} : Sorts rule opened [] []
  | kept {line : List Char} {rest : List (List Char)} {opened next : Option Fence}
      {sorted : List Line} (hturns : rule.Turns (lineContent line) opened next)
      (hkept : opened = none → ¬Defines (lineContent line)) (hrest : Sorts rule next rest sorted)
    : Sorts rule opened (line :: rest) (.kept line :: sorted)
  | definition {line name expansion : List Char} {rest : List (List Char)} {sorted : List Line}
      (hdefinition : IsDefinition (lineContent line) name expansion)
      (hrest : Sorts rule none rest sorted)
    : Sorts rule none (line :: rest)
        (.definition (Text.trimChars name) (trimSpaces expansion) :: sorted)

/-- The text without its definition lines, and the abbreviations, where fences are by the rule. -/
def Extracts (rule : FenceRule) (text : String) (extracted : String × PropertyList) : Prop :=
  ∃ sorted, rule.Sorts none (Text.lines text.toList) sorted ∧ extracted = result sorted

/-- Behind some lines of a text, a fenced code block is open. -/
def Fenced (rule : FenceRule) (opened : Option Fence) (lines : List (List Char)) : Prop :=
  ∃ fence, rule.Leads opened lines (some fence)

variable {rule rule' : FenceRule} {opened opened' next : Option Fence} {line : List Char}
  {lines rest : List (List Char)} {sorted sorted' : List Line}

theorem exists_turns (rule : FenceRule) (content : List Char) (opened : Option Fence)
    : ∃ next, rule.Turns content opened next := by
  cases opened with
  | none =>
    by_cases h : ∃ fence, rule.opens content fence
    . obtain ⟨fence, hopens⟩ := h
      exact ⟨some fence, .opening hopens⟩
    . exact ⟨none, .outside (not_exists.mp h)⟩
  | some opened =>
    by_cases h : rule.closes content opened
    . exact ⟨none, .closing h⟩
    . exact ⟨some opened, .inside h⟩

theorem Turns.unique {content : List Char} (h : rule.Turns content opened next)
    {next' : Option Fence} (h' : rule.Turns content opened next') : next' = next := by
  cases h with
  | opening hopens =>
    cases h' with
    | opening hopens' => rw [rule.opens_unique hopens hopens']
    | outside hopens' => exact absurd hopens (hopens' _)
  | outside hopens =>
    cases h' with
    | opening hopens' => exact absurd hopens' (hopens _)
    | outside _ => rfl
  | closing hcloses =>
    cases h' with
    | closing _ => rfl
    | inside hcloses' => exact absurd hcloses hcloses'
  | inside hcloses =>
    cases h' with
    | closing hcloses' => exact absurd hcloses' hcloses
    | inside _ => rfl

/-- A definition line leaves everything as it is. -/
theorem turns_of_defines {content : List Char} (rule : FenceRule) (h : Defines content)
    (opened : Option Fence) : rule.Turns content opened opened := by
  cases opened with
  | none =>
    apply Turns.outside
    intro fence hopens
    obtain ⟨blank, rest, hfence⟩ := rule.isFenceLine_of_opens hopens
    exact h.not_isFenceLine _ _ _ hfence
  | some opened =>
    apply Turns.inside
    intro hcloses
    obtain ⟨blank, fence, rest, hfence⟩ := rule.isFenceLine_of_closes hcloses
    exact h.not_isFenceLine _ _ _ hfence

theorem fenced_nil_iff : rule.Fenced opened [] ↔ opened ≠ none := by
  rw [Option.ne_none_iff_exists']
  constructor
  . rintro ⟨fence, hleads⟩
    cases hleads
    exact ⟨fence, rfl⟩
  . rintro ⟨fence, rfl⟩
    exact ⟨fence, .nil⟩

theorem fenced_cons_iff (hturns : rule.Turns (lineContent line) opened next)
    : rule.Fenced opened (line :: rest) ↔ rule.Fenced next rest := by
  constructor
  . rintro ⟨fence, hleads⟩
    cases hleads with
    | cons hturns' hrest =>
      rw [hturns.unique hturns'] at hrest
      exact ⟨fence, hrest⟩
  . rintro ⟨fence, hrest⟩
    exact ⟨fence, .cons hturns hrest⟩

theorem sorts_classify (opened : Option Fence)
    (hlines : ∀ line ∈ lines, rule.Reads (lineContent line))
    : rule.Sorts opened lines (classify opened lines) := by
  induction lines generalizing opened with
  | nil => exact .nil
  | cons line rest ih =>
    rw [List.forall_mem_cons] at hlines
    obtain ⟨⟨hopens, hcloses⟩, hrest⟩ := hlines
    unfold classify
    simp only
    split
    . next fence info hfence =>
      have hopens : rule.opens (lineContent line) fence := (hopens fence).mpr ⟨info, hfence⟩
      refine .kept (.opening hopens) (fun _ hdefines => ?_) (ih _ hrest)
      obtain ⟨blank, behind, hline⟩ := rule.isFenceLine_of_opens hopens
      exact hdefines.not_isFenceLine _ _ _ hline
    . next opened closing info hfence =>
      split
      . next h =>
        refine .kept (.closing ?_) (by simp) (ih _ hrest)
        exact (hcloses opened).mpr ⟨closing, info, hfence, h⟩
      . next h =>
        refine .kept (.inside ?_) (by simp) (ih _ hrest)
        rw [hcloses]
        rintro ⟨fence, info', heq, hcloses⟩
        rw [hfence, Option.some.injEq, Prod.mk.injEq] at heq
        rw [heq.1, heq.2] at h
        exact h hcloses
    . next opened hfence =>
      exact .kept (.inside (by simp [hcloses, hfence])) (by simp) (ih _ hrest)
    . next hfence =>
      have hopens : ∀ fence, ¬rule.opens (lineContent line) fence := by simp [hopens, hfence]
      split
      . next key value hdefinition =>
        obtain ⟨name, expansion, hdefines, rfl, rfl⟩ := definition?_eq_some_iff.mp hdefinition
        exact .definition hdefines (ih _ hrest)
      . next hdefinition =>
        refine .kept (.outside hopens) (fun _ hdefines => ?_) (ih _ hrest)
        obtain ⟨name, expansion, hdefines⟩ := hdefines
        rw [definition?_eq_some_iff.mpr ⟨name, expansion, hdefines, rfl, rfl⟩] at hdefinition
        simp at hdefinition

theorem extracts_extract {text : String}
    (hlines : ∀ line ∈ Text.lines text.toList, rule.Reads (lineContent line))
    : rule.Extracts text (extract text) :=
  ⟨sortLines text, sorts_classify none hlines, rfl⟩

namespace Sorts

theorem keptLines_sublist (h : rule.Sorts opened lines sorted)
    : (keptLines sorted).Sublist lines := by
  induction h with
  | nil => exact .slnil
  | kept _ _ _ ih => exact .cons_cons _ ih
  | definition _ _ ih => exact .cons _ ih

theorem not_defines_of_keptLines_eq (h : rule.Sorts none lines sorted)
    (hkept : keptLines sorted = line :: rest) : ¬Defines (lineContent line) := by
  induction lines generalizing sorted with
  | nil =>
    cases h
    simp [keptLines] at hkept
  | cons first others ih =>
    cases h with
    | kept _ hnot _ =>
      obtain ⟨rfl, -⟩ := List.cons.inj hkept
      exact hnot rfl
    | definition _ hrest => exact ih hrest hkept

/-- From the lines that are kept it can be seen which ones are taken out. -/
theorem eq_of_keptLines_eq (h : rule.Sorts opened lines sorted)
    (h' : rule'.Sorts opened' lines sorted') (hkept : keptLines sorted' = keptLines sorted)
    : sorted' = sorted := by
  induction h generalizing opened' sorted' with
  | nil =>
    cases h'
    rfl
  | kept _ _ _ ih =>
    cases h' with
    | kept _ _ hrest' => rw [ih hrest' (List.cons.inj hkept).2]
    | definition hdefinition hrest' =>
      -- What is kept behind a line that is taken out does not begin with such a line.
      exact absurd ⟨_, _, hdefinition⟩ (hrest'.not_defines_of_keptLines_eq hkept)
  | definition hdefinition hrest ih =>
    cases h' with
    | kept _ _ _ => exact absurd ⟨_, _, hdefinition⟩ (hrest.not_defines_of_keptLines_eq hkept.symm)
    | definition hdefinition' hrest' =>
      obtain ⟨hname, hexpansion⟩ := hdefinition.unique hdefinition'
      rw [ih hrest' hkept, hname, hexpansion]

/-- A definition line is kept if and only if it is in a fenced code block. -/
theorem fenced_iff {before after : List (List Char)}
    (h : rule.Sorts opened (before ++ line :: after) sorted) (hdefines : Defines (lineContent line))
    : rule.Fenced opened before ↔ sorted[before.length]? = some (.kept line) := by
  induction before generalizing opened sorted with
  | nil =>
    rw [fenced_nil_iff]
    cases h with
    | kept _ hkept _ => simpa using fun hnone => hkept hnone hdefines
    | definition => simp
  | cons first before ih =>
    cases h with
    | kept hturns _ hrest =>
      rw [fenced_cons_iff hturns, ih hrest]
      rfl
    | definition hdefinition hrest =>
      rw [fenced_cons_iff (turns_of_defines rule ⟨_, _, hdefinition⟩ none), ih hrest]
      rfl

/-- Lines are sorted alike by rules with the same definition lines in fenced code blocks. -/
theorem of_fenced_iff (h : rule.Sorts opened lines sorted)
    (hfenced : ∀ before line after, lines = before ++ line :: after → Defines (lineContent line) →
      (rule.Fenced opened before ↔ rule'.Fenced opened' before))
    : rule'.Sorts opened' lines sorted := by
  induction h generalizing opened' with
  | nil => exact .nil
  | @kept line rest opened next sorted hturns hkept _ ih =>
    obtain ⟨next', hturns'⟩ := rule'.exists_turns (lineContent line) opened'
    refine .kept hturns' ?_ (ih ?_)
    . intro hnone hdefines
      have hfirst := hfenced [] line rest rfl hdefines
      rw [fenced_nil_iff, fenced_nil_iff, hnone] at hfirst
      exact hkept (by simpa using hfirst) hdefines
    . intro before other after hrest hdefines
      have hother := hfenced (line :: before) other after (by rw [hrest]; rfl) hdefines
      rwa [fenced_cons_iff hturns, fenced_cons_iff hturns'] at hother
  | @definition line name expansion rest sorted hdefinition _ ih =>
    have hdefines : Defines (lineContent line) := ⟨name, expansion, hdefinition⟩
    have hfirst := hfenced [] line rest rfl hdefines
    rw [fenced_nil_iff, fenced_nil_iff] at hfirst
    obtain rfl : opened' = none := by simpa using hfirst
    refine .definition hdefinition (ih ?_)
    intro before other after hrest hother
    have hiff := hfenced (line :: before) other after (by rw [hrest]; rfl) hother
    rwa [fenced_cons_iff (turns_of_defines rule hdefines none),
      fenced_cons_iff (turns_of_defines rule' hdefines none)] at hiff

end Sorts

theorem Sorts.unique (h : rule.Sorts opened lines sorted) (h' : rule.Sorts opened lines sorted')
    : sorted' = sorted := by
  induction h generalizing sorted' with
  | nil =>
    cases h'
    rfl
  | kept hturns hkept _ ih =>
    cases h' with
    | kept hturns' _ hrest' =>
      rw [hturns.unique hturns'] at hrest'
      rw [ih hrest']
    | definition hdefinition' _ => exact absurd ⟨_, _, hdefinition'⟩ (hkept rfl)
  | definition hdefinition _ ih =>
    cases h' with
    | kept _ hkept' _ => exact absurd ⟨_, _, hdefinition⟩ (hkept' rfl)
    | definition hdefinition' hrest' =>
      obtain ⟨hname, hexpansion⟩ := hdefinition.unique hdefinition'
      rw [ih hrest', hname, hexpansion]

/-- A rule leaves one document of a text, and one list of abbreviations. -/
theorem Extracts.unique {text : String} {extracted extracted' : String × PropertyList}
    (h : rule.Extracts text extracted) (h' : rule.Extracts text extracted')
    : extracted' = extracted := by
  obtain ⟨sorted, hsorted, rfl⟩ := h
  obtain ⟨sorted', hsorted', rfl⟩ := h'
  rw [hsorted.unique hsorted']

/-- The lines of a text are sorted alike if the same document is left of it. -/
theorem sorts_of_extracts {text : String} (h : rule.Sorts none (Text.lines text.toList) sorted)
    (hextracts : rule'.Extracts text (result sorted))
    : rule'.Sorts none (Text.lines text.toList) sorted := by
  obtain ⟨sorted', h', hresult⟩ := hextracts
  have hbody : (keptLines sorted').flatten = (keptLines sorted).flatten := by
    rw [← flatMap_body, ← flatMap_body]
    exact (String.ofList_injective (Prod.mk.inj hresult).1).symm
  have hlined := Text.lined_lines text.toList
  have hkept : keptLines sorted' = keptLines sorted := by
    rw [← (hlined.sublist h.keptLines_sublist).lines_flatten, ← hbody,
      (hlined.sublist h'.keptLines_sublist).lines_flatten]
  rwa [h.eq_of_keptLines_eq h' hkept] at h'

end FenceRule

/--
The lines of a fenced code block stay in the document and the definition lines outside are taken
out, where any blank space may stand around the fences. By the standard this is so if and only if the
definition lines in fenced code blocks are the same, as they are in texts of plain lines.
-/
theorem extract_fenced (text : String)
    : FenceRule.wide.Extracts text (extract text)
      ∧ (FenceRule.standard.Extracts text (extract text)
        ↔ ∀ before line after, Text.lines text.toList = before ++ line :: after →
          Defines (lineContent line) →
            (FenceRule.wide.Fenced none before ↔ FenceRule.standard.Fenced none before))
      ∧ ((∀ line ∈ Text.lines text.toList, Plain (lineContent line)) →
        FenceRule.standard.Extracts text (extract text)) := by
  have hwide : FenceRule.wide.Sorts none (Text.lines text.toList) (sortLines text) :=
    FenceRule.sorts_classify none fun line _ => reads_wide (lineContent line)
  refine ⟨⟨sortLines text, hwide, rfl⟩, ?_, ?_⟩
  . constructor
    . intro hextracts before line after hlines hdefines
      have hstandard := FenceRule.sorts_of_extracts hwide hextracts
      rw [hlines] at hwide hstandard
      rw [hwide.fenced_iff hdefines, hstandard.fenced_iff hdefines]
    . intro hfenced
      exact ⟨sortLines text, hwide.of_fenced_iff hfenced, rfl⟩
  . intro hplain
    exact FenceRule.extracts_extract fun line hline => reads_standard (hplain line hline)

/--
A definition behind a shorter fence is still in the block and stays in the document. By the standard
this is also true behind a fence that is indented by four spaces, but there it is taken out.
-/
theorem extract_fenced_indented
    : extract "````\n```\n*[X]: y\n````\n" = ("````\n```\n*[X]: y\n````\n", PropertyList.empty)
      ∧ FenceRule.standard.Extracts "````\n```\n*[X]: y\n````\n"
        (extract "````\n```\n*[X]: y\n````\n")
      ∧ extract "```\n    ```\n*[X]: y\n" = ("```\n    ```\n", PropertyList.empty.insert "X" "y")
      ∧ ¬FenceRule.standard.Extracts "```\n    ```\n*[X]: y\n"
        (extract "```\n    ```\n*[X]: y\n") := by
  have hfence (run : Nat) (h : 3 ≤ run)
      : IsFenceLine (List.replicate run '\x60') [] ⟨'\x60', run⟩ [] := by
    rw [← List.nil_append (List.replicate run '\x60')]
    exact isFenceLine_append (by simp) (.inl rfl) h
  have hmargin : IsMargin [] := ⟨by decide, by simp⟩
  have hdefines : Defines ['*', '[', 'X', ']', ':', ' ', 'y'] :=
    ⟨['X'], [' ', 'y'], rfl, by simp, by decide⟩
  refine ⟨by decide +kernel, (extract_fenced _).2.2 ?_, by decide +kernel, ?_⟩
  . have hlines : (Text.lines "````\n```\n*[X]: y\n````\n".toList).map lineContent
        = [List.replicate 4 '\x60', List.replicate 3 '\x60', ['*', '[', 'X', ']', ':', ' ', 'y'],
          List.replicate 4 '\x60'] := by
      decide +kernel
    intro line hline
    have hmem : lineContent line ∈ _ := List.mem_map_of_mem hline
    rw [hlines] at hmem
    simp only [List.mem_cons, List.not_mem_nil, or_false] at hmem
    rcases hmem with heq | heq | heq | heq
    all_goals rw [heq]
    . exact (hfence 4 (by decide)).plain hmargin
    . exact (hfence 3 (by decide)).plain hmargin
    . exact hdefines.plain
    . exact (hfence 4 (by decide)).plain hmargin
  . rw [(extract_fenced _).2.1]
    intro h
    let fence : Fence := ⟨'\x60', 3⟩
    let first := List.replicate 3 '\x60' ++ ['\n']
    let second := List.replicate 4 ' ' ++ List.replicate 3 '\x60' ++ ['\n']
    have hiff := h [first, second] ['*', '[', 'X', ']', ':', ' ', 'y', '\n'] [] (by decide +kernel)
      hdefines
    have hopens : FenceRule.standard.opens (lineContent first) fence :=
      ⟨[], [], hfence 3 (Nat.le_refl 3), hmargin, by simp⟩
    have hsecond : IsFenceLine (lineContent second) (List.replicate 4 ' ') fence [] := by
      have hcontent : lineContent second = List.replicate 4 ' ' ++ List.replicate 3 '\x60' := by
        decide
      rw [hcontent]
      refine isFenceLine_append ?_ (.inl rfl) (Nat.le_refl 3)
      intro c hc
      rw [List.eq_of_mem_replicate hc]
      decide
    have hcloses : FenceRule.wide.closes (lineContent second) fence :=
      ⟨_, 3, _, hsecond, Nat.le_refl 3, by simp⟩
    have hnot : ¬FenceRule.standard.closes (lineContent second) fence := by
      rintro ⟨blank, run, rest, hline, hblank, -⟩
      rw [(hsecond.unique hline).1] at hblank
      exact absurd hblank.1 (by decide)
    have hwide : FenceRule.wide.opens (lineContent first) fence :=
      FenceRule.standard.isFenceLine_of_opens hopens
    rw [FenceRule.fenced_cons_iff (.opening hwide), FenceRule.fenced_cons_iff (.closing hcloses),
      FenceRule.fenced_nil_iff] at hiff
    rw [FenceRule.fenced_cons_iff (.opening hopens), FenceRule.fenced_cons_iff (.inside hnot),
      FenceRule.fenced_nil_iff] at hiff
    simp at hiff

end DirectedMarkdown.Abbreviation
