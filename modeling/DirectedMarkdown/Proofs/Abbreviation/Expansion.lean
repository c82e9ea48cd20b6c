import DirectedMarkdown.Formatter
import DirectedMarkdown.Proofs.Abbreviation.Removal
import DirectedMarkdown.Proofs.Abbreviation.WholeWord
import DirectedMarkdown.Proofs.Footnote.Assembly
import DirectedMarkdown.Proofs.Output.EmissionSide
import DirectedMarkdown.Proofs.Output.Record
import DirectedMarkdown.Proofs.PropertyList.Lookup

/-!
This module contains the expansions of abbreviations: the last definition of a word in a document
counts, wherever it stands, and the configured expansion counts if there is no definition. Words that
are defined in the document are searched for in the same way as configured ones.
-/

namespace DirectedMarkdown

open Html (Markup)
open Markdown (Event)

namespace Abbreviation

/-- Of the definition lines for a word, the last one has this expansion. -/
def LastDefinition (text word title : String) : Prop :=
  ∃ before after, sortLines text = before ++ .definition word.toList title.toList :: after
    ∧ ∀ other, .definition word.toList other ∉ after

/-- What a word stands for in a document, where there are also configured abbreviations. -/
inductive Expands (text : String) (configured : PropertyList) (word : String) : String → Prop where
  | defined {title : String} : LastDefinition text word title → Expands text configured word title
  | configured {title : String}
    : (∀ other, .definition word.toList other ∉ sortLines text)
      → configured.get? word = some title → Expands text configured word title

theorem Line.pair?_eq_some_iff {line : Line} {word title : String}
    : line.pair? = some (word, title) ↔ line = .definition word.toList title.toList := by
  cases line with
  | kept line => simp [Line.pair?]
  | definition key expansion =>
    simp only [Line.pair?, Option.some.injEq, Prod.mk.injEq, Line.definition.injEq]
    constructor
    . rintro ⟨rfl, rfl⟩
      simp
    . rintro ⟨rfl, rfl⟩
      simp

theorem mem_map_fst_pairs_iff {lines : List Line} {word : String}
    : word ∈ (lines.filterMap Line.pair?).map Prod.fst
        ↔ ∃ other, .definition word.toList other ∈ lines := by
  simp only [List.mem_map, List.mem_filterMap]
  constructor
  . rintro ⟨⟨_, title⟩, ⟨line, hline, hpair⟩, rfl⟩
    rw [Line.pair?_eq_some_iff] at hpair
    exact ⟨_, hpair ▸ hline⟩
  . rintro ⟨other, hline⟩
    refine ⟨(word, String.ofList other), ⟨_, hline, ?_⟩, rfl⟩
    rw [Line.pair?_eq_some_iff, String.toList_ofList]

theorem get?_extract_eq_none_iff {text word : String}
    : (extract text).2.get? word = none
        ↔ ∀ other, .definition word.toList other ∉ sortLines text := by
  unfold extract
  rw [PropertyList.get?_ofList, lookup_eq_none_iff_notMem, List.map_reverse, List.mem_reverse]
  rw [mem_map_fst_pairs_iff, not_exists]

theorem lastDefinition_of_get?_extract {text word title : String}
    (h : (extract text).2.get? word = some title) : LastDefinition text word title := by
  unfold extract at h
  rw [PropertyList.get?_ofList, lookup_reverse_eq_some_iff] at h
  obtain ⟨earlier, later, hpairs, hlater⟩ := h
  obtain ⟨before, rest, hlines, _, hrest⟩ := List.filterMap_eq_append_iff.mp hpairs
  obtain ⟨skipped, line, after, rfl, _, hline, hafter⟩ := List.filterMap_eq_cons_iff.mp hrest
  rw [Line.pair?_eq_some_iff] at hline
  refine ⟨before ++ skipped, after, by rw [hlines, hline, List.append_assoc], ?_⟩
  rw [← hafter, mem_map_fst_pairs_iff] at hlater
  exact not_exists.mp hlater

theorem get?_extract_of_lastDefinition {text word title : String}
    (h : LastDefinition text word title) : (extract text).2.get? word = some title := by
  obtain ⟨before, after, hlines, hlast⟩ := h
  have hline : Line.pair? (.definition word.toList title.toList) = some (word, title) :=
    Line.pair?_eq_some_iff.mpr rfl
  unfold extract
  rw [PropertyList.get?_ofList, lookup_reverse_eq_some_iff, hlines]
  rw [List.filterMap_append, List.filterMap_cons_some hline]
  refine ⟨_, _, rfl, ?_⟩
  rw [mem_map_fst_pairs_iff, not_exists]
  exact hlast

/-- What a word stands for is its value in the configured list with the definitions put into it. -/
theorem expands_iff {text word title : String} {configured : PropertyList}
    : Expands text configured word title
        ↔ (configured.merge (extract text).2).get? word = some title := by
  rw [PropertyList.get?_merge]
  constructor
  . intro h
    cases h with
    | defined hdefined => rw [get?_extract_of_lastDefinition hdefined, Option.some_or]
    | configured hnone hvalue =>
      rw [get?_extract_eq_none_iff.mpr hnone, Option.none_or]
      exact hvalue
  . intro h
    cases hdefined : (extract text).2.get? word with
    | none =>
      rw [hdefined, Option.none_or] at h
      exact .configured (get?_extract_eq_none_iff.mp hdefined) h
    | some expansion =>
      rw [hdefined, Option.some_or, Option.some.injEq] at h
      subst h
      exact .defined (lastDefinition_of_get?_extract hdefined)

end Abbreviation

namespace Decorator

variable {decorator : Decorator} {word : List Char} {title : String} {s : List Char}

theorem abbreviation_mem_gapSegments (h : .abbreviation word title ∈ decorator.gapSegments s)
    : word ∈ decorator.words
        ∧ decorator.abbreviations.get? (String.ofList word) = some title := by
  rw [gapSegments_eq_map] at h
  obtain ⟨piece, hpiece, hsegment⟩ := List.mem_map.mp h
  cases piece with
  | plain content => simp [segment] at hsegment
  | hit other =>
    simp only [segment, abbreviated, Segment.abbreviation.injEq] at hsegment
    obtain ⟨rfl, htitle⟩ := hsegment
    obtain ⟨before, after, hcut⟩ := List.append_of_mem hpiece
    have hword := (Abbreviation.occurs_of_isHit ⟨before, after, hcut, rfl, rfl⟩).1
    refine ⟨hword, ?_⟩
    -- What is found is one of the names, so that the look-up cannot miss.
    have hkey : String.ofList other ∈ decorator.abbreviations.keys := by
      unfold words at hword
      obtain ⟨key, hkey, rfl⟩ := List.mem_map.mp (List.mem_of_mem_filter hword)
      rwa [String.ofList_toList]
    obtain ⟨value, hvalue⟩ := PropertyList.mem_keys_iff.mp hkey
    rw [hvalue, Option.getD_some] at htitle
    rw [hvalue, htitle]

theorem abbreviation_mem_segments {inLink : Bool}
    (h : .abbreviation word title ∈ decorator.segments s inLink)
    : word ∈ decorator.words
        ∧ decorator.abbreviations.get? (String.ofList word) = some title := by
  unfold segments at h
  split at h
  . obtain ⟨piece, _, hpiece⟩ := List.mem_flatMap.mp h
    cases piece with
    | plain content => exact abbreviation_mem_gapSegments hpiece
    | hit url => simp at hpiece
  . exact abbreviation_mem_gapSegments h

theorem ne_empty_of_mem_words (h : word ∈ decorator.words) : String.ofList word ≠ "" := by
  unfold words at h
  have hne := (List.mem_filter.mp h).2
  intro heq
  rw [String.ofList_eq_empty_iff] at heq
  simp [heq] at hne

end Decorator

/--
Wherever the step opens an abbreviation, it wraps a word and nothing else, and the title is an
expansion of the word.
-/
def Output.Abbreviates (expands : String → String → Prop) (step : Output) : Prop :=
  ∀ front attributes back, step = .written (front ++ .startTag "abbr" attributes :: back) →
    ∃ word title rest, back = .text word :: .endTag "abbr" :: rest
      ∧ (Markup.startTag "abbr" attributes).render
        = "<abbr title=\"" ++ Html.escape title ++ "\">"
      ∧ word ≠ "" ∧ expands word title

theorem Output.Abbreviates.imp {expands other : String → String → Prop} {step : Output}
    (h : step.Abbreviates expands) (himp : ∀ word title, expands word title → other word title)
    : step.Abbreviates other := by
  intro front attributes back heq
  obtain ⟨word, title, rest, hback, hrender, hword, hexpands⟩ := h front attributes back heq
  exact ⟨word, title, rest, hback, hrender, hword, himp word title hexpands⟩

theorem Output.abbreviates_of_notMem {expands : String → String → Prop} {step : Output}
    (h : .opens (.element "abbr") ∉ step.sides) : step.Abbreviates expands := by
  rintro front attributes back rfl
  apply absurd _ h
  rw [Output.sides, List.mem_filterMap]
  exact ⟨.startTag "abbr" attributes, by simp, rfl⟩

namespace Styling

variable (style : Style) (state : Styling)

theorem abbreviates_decorate {decorator : Decorator} {text : String} {inLink : Bool}
    {pieces : List Markup} (h : decorator.decorate text inLink = some pieces)
    : (Output.written pieces).Abbreviates fun word title =>
        decorator.abbreviations.get? word = some title := by
  unfold Decorator.decorate at h
  dsimp only at h
  split at h
  . rintro front attributes back heq
    rw [Output.written.injEq] at heq
    rw [Option.some.injEq, heq] at h
    obtain ⟨left, word, title, right, hsegments, _, hstart, hback⟩ :=
      Decorator.exists_of_flatMap_markup h
    have hmem : .abbreviation word title ∈ decorator.segments text.toList inLink := by
      rw [hsegments]
      simp
    obtain ⟨hword, hvalue⟩ := Decorator.abbreviation_mem_segments hmem
    refine ⟨_, title, _, hback, ?_, Decorator.ne_empty_of_mem_words hword, hvalue⟩
    rw [hstart]
    exact Decorator.render_abbrStart title
  . simp at h

theorem abbreviates_emission (event : Event)
    : ∀ step ∈ emission style state event,
        step.Abbreviates fun word title =>
          style.decorator.abbreviations.get? word = some title := by
  intro step hstep
  by_cases hopens : .opens (.element "abbr") ∈ step.sides
  . have hmem : .opens (.element "abbr") ∈ (emission style state event).flatMap Output.sides :=
      List.mem_flatMap.mpr ⟨step, hstep, hopens⟩
    -- Of all events, only text opens this element.
    have habbr := mem_openable_of_emission style state hmem
    obtain ⟨content, rfl⟩ : ∃ content, event = .text content := by
      cases event with
      | text content => exact ⟨content, rfl⟩
      | enter tag => cases tag <;> simp [Event.openable] at habbr
      | leave element => cases element <;> simp [Event.openable] at habbr
      | _ => simp [Event.openable] at habbr
    cases himage : state.image with
    | some image =>
      rw [sides_emission_of_image_some style state himage] at hmem
      simp at hmem
    | none =>
      rw [emission_text style state content himage] at hstep
      have hkept : (Output.kept (.text content)).sides = [] := rfl
      split at hstep
      . rw [List.mem_singleton.mp hstep, hkept] at hopens
        simp at hopens
      . split at hstep
        . next pieces hpieces =>
          rw [List.mem_singleton.mp hstep]
          exact abbreviates_decorate hpieces
        . rw [List.mem_singleton.mp hstep, hkept] at hopens
          simp at hopens
  . exact Output.abbreviates_of_notMem hopens

end Styling

theorem Note.Framing.abbr_notMem {directives : DirectiveSet} {pieces : List Markup}
    (h : Framing directives pieces) : .opens (.element "abbr") ∉ (Output.written pieces).sides := by
  cases h with
  | backlinks label count =>
    rw [directives.sides_backlinks]
    simp [Side.pair]
  | _ => simp [Output.sides, Markup.side?, Markup.lineFeed]

theorem Note.abbreviates_list {directives : DirectiveSet} {expands : String → String → Prop}
    {notes : List Note} (h : ∀ note ∈ notes, ∀ step ∈ note.body, step.Abbreviates expands)
    : ∀ step ∈ list directives notes, step.Abbreviates expands :=
  forall_mem_list (fun _ hframing => Output.abbreviates_of_notMem hframing.abbr_notMem) h

theorem Style.abbreviates_apply (style : Style) (events : List Event)
    : ∀ step ∈ style.apply events,
        step.Abbreviates fun word title =>
          style.decorator.abbreviations.get? word = some title := by
  have hlast := Styling.holds_of_emission (Styling.abbreviates_emission style) events
  unfold Style.apply Styling.finish
  rw [List.forall_mem_append]
  exact ⟨hlast.output, Note.abbreviates_list hlast.notes⟩

namespace Decorator

theorem abbreviations_make {abbreviations : PropertyList} {directives : DirectiveSet}
    {decorator : Decorator} (h : make abbreviations directives = .ok decorator)
    : decorator.abbreviations = abbreviations := by
  unfold make at h
  split at h
  . simp at h
  . rw [Except.ok.injEq] at h
    rw [← h]

theorem mem_words_iff {decorator : Decorator} {word : String}
    : word.toList ∈ decorator.words ↔ word ≠ "" ∧ word ∈ decorator.abbreviations.keys := by
  unfold words
  rw [List.mem_filter, List.mem_map, and_comm]
  apply and_congr
  . simp
  . simp [String.toList_inj]

end Decorator

section

variable {text : String} {directives : DirectiveSet} {decorator : Decorator}

theorem Engine.html_eq
    (h : Decorator.make (directives.abbreviations.merge (Abbreviation.extract text).2) directives
      = .ok decorator)
    : Engine.html text directives
        = .ok (Output.toHtml
            (Style.apply { directives, decorator }
              (Markdown.readEvents (Abbreviation.extract text).1))) := by
  unfold html
  dsimp only
  rw [h]

/-- In the output, abbreviations are those of the decorator. -/
theorem Style.apply_abbreviations (style : Style) (abbreviations : PropertyList)
    (events : List Event)
    : Style.apply { style with directives := { style.directives with abbreviations } } events
        = style.apply events := by
  have hstep : Styling.step { style with directives := { style.directives with abbreviations } }
      = Styling.step style := rfl
  unfold Style.apply
  rw [hstep]
  rfl

/-- Definitions in a document count in the same way as configured abbreviations. -/
theorem Engine.html_body
    (h : Decorator.make (directives.abbreviations.merge (Abbreviation.extract text).2) directives
      = .ok decorator)
    : Engine.html (Abbreviation.extract text).1
          { directives with
            abbreviations := directives.abbreviations.merge (Abbreviation.extract text).2 }
        = Engine.html text directives := by
  rw [html_eq h, @html_eq _ _ decorator]
  . rw [Abbreviation.extract_body]
    rw [← Style.apply_abbreviations { directives, decorator }]
  . rw [Abbreviation.extract_body]
    exact h

/--
Each abbreviation in a rendered document is a name that is configured or defined in the document. Its
title is the expansion of the last definition, or else the configured one. All names are searched
for, and it makes no difference which of the two lists they are in.
-/
theorem html_abbreviations
    (h : Decorator.make (directives.abbreviations.merge (Abbreviation.extract text).2) directives
      = .ok decorator)
    : let body := (Abbreviation.extract text).1
      let defined := (Abbreviation.extract text).2
      let configured := directives.abbreviations
      let output := Style.apply { directives, decorator } (Markdown.readEvents body)
      Engine.html text directives = .ok (Output.toHtml output)
        ∧ (∀ step ∈ output, step.Abbreviates fun word title =>
            (word ∈ configured.keys ∨ word ∈ defined.keys)
              ∧ Abbreviation.Expands text configured word title)
        ∧ (∀ word : String, word.toList ∈ decorator.words ↔
            word ≠ "" ∧ (word ∈ configured.keys ∨ word ∈ defined.keys))
        ∧ Engine.html body { directives with abbreviations := configured.merge defined }
          = Engine.html text directives := by
  have hmake := Decorator.abbreviations_make h
  refine ⟨Engine.html_eq h, ?_, ?_, Engine.html_body h⟩
  . intro step hstep
    apply (Style.abbreviates_apply _ _ step hstep).imp
    intro word title hvalue
    rw [hmake] at hvalue
    refine ⟨?_, Abbreviation.expands_iff.mpr hvalue⟩
    exact PropertyList.mem_keys_merge_iff.mp (PropertyList.mem_keys_iff.mpr ⟨title, hvalue⟩)
  . intro word
    rw [Decorator.mem_words_iff, hmake, PropertyList.mem_keys_merge_iff]

/-- The last definition of a name wins over an earlier one and over the configured expansion. -/
theorem html_abbreviations_overridden
    : let text := "CSS, HTML and XML\n\n*[HTML]: one\n*[CSS]: sheets\n*[HTML]: two & three\n"
      let configured := PropertyList.ofList [("XML", "data"), ("HTML", "zero"), ("", "nothing")]
      let directives := { DirectiveSet.initial with abbreviations := configured }
      let decorator : Decorator :=
        { abbreviations :=
            PropertyList.ofList
              [("XML", "data"), ("HTML", "two & three"), ("", "nothing"), ("CSS", "sheets")]
          urlsLinked := directives.urlsLinked
          urlAttributes := directives.linkAttributes.merge directives.externalLinkAttributes }
      Decorator.make (configured.merge (Abbreviation.extract text).2) directives = .ok decorator
        ∧ Engine.html text directives
          = .ok ("<p><abbr title=\"sheets\">CSS</abbr>, "
            ++ "<abbr title=\"two &amp; three\">HTML</abbr> and "
            ++ "<abbr title=\"data\">XML</abbr></p>\n")
        ∧ ∀ step ∈ Style.apply { directives, decorator }
            (Markdown.readEvents (Abbreviation.extract text).1),
          step.Abbreviates fun word title =>
            (word ∈ configured.keys ∨ word ∈ (Abbreviation.extract text).2.keys)
              ∧ Abbreviation.Expands text configured word title := by
  intro text configured directives decorator
  have hmake : Decorator.make (configured.merge (Abbreviation.extract text).2) directives
      = .ok decorator := by
    have hmerge : configured.merge (Abbreviation.extract text).2 = decorator.abbreviations := by
      decide +kernel
    rw [hmerge, Decorator.make, if_neg (by decide +kernel)]
  obtain ⟨hhtml, habbreviates, _, _⟩ := @html_abbreviations _ directives _ hmake
  refine ⟨hmake, ?_, habbreviates⟩
  rw [hhtml]
  decide +kernel

end

end DirectedMarkdown
