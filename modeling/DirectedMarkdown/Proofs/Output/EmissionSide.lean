import DirectedMarkdown.Proofs.Html.AttributeText
import DirectedMarkdown.Proofs.Output.Bracket
import DirectedMarkdown.Proofs.Output.Emission

/-!
This module contains the sides of brackets that each event adds to the output.
-/

namespace DirectedMarkdown

open Html (Markup)
open Markdown (Element Event Tag)

namespace Html.Markup

/-- The side of a bracket that a piece is. Verbatim text counts as text. -/
def side? : Markup → Option Side
  | .startTag name _ => some (.opens (.element name))
  | .endTag name => some (.closes (.element name))
  | _ => none

end Html.Markup

namespace Output

def sides : Output → List Side
  | kept (.enter tag) => [.opens (.part tag.element)]
  | kept (.leave element) => [.closes (.part element)]
  | kept _ => []
  | written pieces => pieces.filterMap Markup.side?

theorem attributeTexts_eq_nil {element : String} {output : List Output}
    (h : .opens (.element element) ∉ output.flatMap sides) (name : String)
    : attributeTexts element name output = [] := by
  unfold attributeTexts
  rw [List.flatMap_eq_nil_iff]
  intro step hstep
  cases step with
  | kept event => rfl
  | written pieces =>
    rw [List.filterMap_eq_nil_iff]
    intro piece hpiece
    cases piece with
    | startTag tag attributes =>
      have : tag ≠ element := by
        intro heq
        apply h
        rw [List.mem_flatMap]
        refine ⟨_, hstep, ?_⟩
        rw [sides, List.mem_filterMap]
        exact ⟨_, hpiece, by rw [heq]; rfl⟩
      simp [Markup.attributeText?, this]
    | _ => rfl

end Output

/-- What the start of a part opens, where a table cell is this element. -/
def Markdown.Tag.opening (cell : String) : Tag → List Side
  | .codeBlock _ => [.opens (.element "pre"), .opens (.element "code")]
  | .link _ _ _ => [.opens (.element "a")]
  | .table _ => [.opens (.element "table")]
  | .tableHead => [.opens (.element "thead"), .opens (.element "tr")]
  | .tableRow => [.opens (.element "tr")]
  | .tableCell => [.opens (.element cell)]
  | .footnoteDefinition _ | .image _ _ => []
  | tag => [.opens (.part tag.element)]

/-- What the end of a part closes. The end of the head of a table opens its body. -/
def Markdown.Element.closing (cell : String) : Element → List Side
  | .codeBlock => [.closes (.element "code"), .closes (.element "pre")]
  | .link => [.closes (.element "a")]
  | .table => [.closes (.element "tbody"), .closes (.element "table")]
  | .tableHead =>
    [.closes (.element "tr"), .closes (.element "thead"), .opens (.element "tbody")]
  | .tableRow => [.closes (.element "tr")]
  | .tableCell => [.closes (.element cell)]
  | .footnoteDefinition => []
  | element => [.closes (.part element)]

/-- The elements that may be opened where an event stands. -/
def Markdown.Event.openable : Event → List String
  | .enter (.codeBlock _) => ["pre", "code"]
  | .enter (.link _ _ _) => ["a"]
  | .enter (.table _) => ["table"]
  | .enter .tableHead => ["thead", "tr"]
  | .enter .tableRow => ["tr"]
  | .enter .tableCell => ["th", "td"]
  | .leave .tableHead => ["tbody"]
  | .text _ => ["abbr", "a"]
  | .footnoteReference _ => ["sup", "a"]
  | _ => []

/-- What an element with nothing but text in it opens and closes. -/
def Side.pair (name : String) : List Side :=
  [.opens (.element name), .closes (.element name)]

/-- Bare URLs become links only where no link is open. -/
theorem Decorator.eq_false_of_link_mem_segments {decorator : Decorator} {s url : List Char}
    {inLink : Bool} (h : .link url ∈ decorator.segments s inLink) : inLink = false := by
  have hgap : ∀ s, .link url ∉ decorator.gapSegments s := by
    intro s hmem
    unfold gapSegments at hmem
    obtain ⟨piece, _, hpiece⟩ := List.mem_map.mp hmem
    cases piece <;> simp [abbreviated] at hpiece
  unfold segments at h
  split at h
  . next hlinked => simpa using (Bool.and_eq_true_iff.mp hlinked).2
  . exact absurd h (hgap s)

theorem Decorator.sides_decorate {decorator : Decorator} {text : String} {inLink : Bool}
    {pieces : List Markup} (h : decorator.decorate text inLink = some pieces)
    : ∃ names : List String, pieces.filterMap Markup.side? = names.flatMap Side.pair
        ∧ ∀ name ∈ names, name = "abbr" ∨ name = "a" ∧ inLink = false := by
  unfold decorate at h
  dsimp only at h
  split at h
  . simp only [Option.some.injEq] at h
    rw [← h]
    have hlinks : ∀ url, .link url ∈ decorator.segments text.toList inLink → inLink = false :=
      fun url => eq_false_of_link_mem_segments
    generalize decorator.segments text.toList inLink = segments at hlinks
    induction segments with
    | nil => exact ⟨[], rfl, by simp⟩
    | cons segment rest ih =>
      obtain ⟨names, hnames, hall⟩ := ih fun url hurl => hlinks url (List.mem_cons_of_mem _ hurl)
      rw [List.flatMap_cons, List.filterMap_append, hnames]
      cases segment with
      | plain content => exact ⟨names, rfl, hall⟩
      | abbreviation word title => exact ⟨"abbr" :: names, rfl, by simpa using hall⟩
      | link url =>
        refine ⟨"a" :: names, rfl, ?_⟩
        rw [List.forall_mem_cons]
        exact ⟨.inr ⟨rfl, hlinks url List.mem_cons_self⟩, hall⟩
  . simp at h

theorem DirectiveSet.sides_backlinks (directives : DirectiveSet) (label : String) (count : Nat)
    : Output.sides (.written (directives.backlinks label count))
        = (List.range count).flatMap fun _ => Side.pair "a" := by
  rw [Output.sides, backlinks, List.filterMap_flatMap]
  rfl

namespace Styling

variable (style : Style) (state : Styling)

/-- What running text opens and closes. -/
def textSides (content : String) : List Side :=
  if state.inCodeBlock then []
  else ((style.decorator.decorate content (0 < state.linkDepth)).getD []).filterMap Markup.side?

theorem textSides_eq (content : String)
    : ∃ names : List String, textSides style state content = names.flatMap Side.pair
        ∧ ∀ name ∈ names, name = "abbr" ∨ name = "a" ∧ state.linkDepth = 0 := by
  unfold textSides
  split
  . exact ⟨[], rfl, by simp⟩
  . cases h : style.decorator.decorate content (0 < state.linkDepth) with
    | none => exact ⟨[], rfl, by simp⟩
    | some pieces => simpa using Decorator.sides_decorate h

/-- What an event outside of images opens and closes. -/
def visitSides : Event → List Side
  | .enter tag => tag.opening state.table.cellName
  | .leave element => element.closing state.table.cellName
  | .text content => textSides style state content
  | .footnoteReference _ =>
    .opens (.element "sup") :: Side.pair "a" ++ [.closes (.element "sup")]
  | _ => []

theorem emission_text (content : String) (himage : state.image = none)
    : emission style state (.text content)
        = if state.inCodeBlock then [.kept (.text content)]
          else
            match style.decorator.decorate content (0 < state.linkDepth) with
            | some pieces => [.written pieces]
            | none => [.kept (.text content)] := by
  have hcode : state.fresh.inCodeBlock = state.inCodeBlock := rfl
  have hdepth : state.fresh.linkDepth = state.linkDepth := rfl
  rw [emission_of_image_none style himage]
  simp only [visit, text, hcode, hdepth]
  by_cases h : state.inCodeBlock
  . simp only [h, ↓reduceIte]
    rfl
  . simp only [h, Bool.false_eq_true, ↓reduceIte]
    cases style.decorator.decorate content (0 < state.linkDepth) <;> rfl

theorem sides_codeBlockStart (directives : DirectiveSet) (kind : Markdown.CodeBlockKind)
    : (directives.codeBlockStart kind).filterMap Markup.side?
        = [.opens (.element "pre"), .opens (.element "code")] := by
  unfold DirectiveSet.codeBlockStart
  dsimp only
  split
  . rfl
  . split <;> rfl

theorem sides_emission_of_image_some {image : PendingImage} (himage : state.image = some image)
    (event : Event) : (emission style state event).flatMap Output.sides = [] := by
  have hfresh : state.fresh.image = some image := himage
  unfold emission step
  rw [hfresh]
  dsimp only
  cases event with
  | enter tag => cases tag <;> rfl
  | leave element =>
    cases element with
    | image =>
      dsimp only [collect]
      split <;> rfl
    | _ => rfl
  | _ => rfl

theorem sides_emission_of_image_none (himage : state.image = none) (event : Event)
    : (emission style state event).flatMap Output.sides = visitSides style state event := by
  have hemission := emission_of_image_none style himage event
  cases event with
  | enter tag =>
    rw [hemission]
    cases tag with
    | codeBlock kind =>
      have hstart : (state.fresh.visit style (.enter (.codeBlock kind))).output.toList
          = [.written (style.directives.codeBlockStart kind)] := rfl
      rw [hstart, List.flatMap_singleton]
      exact sides_codeBlockStart style.directives kind
    | _ => rfl
  | leave element =>
    rw [hemission]
    cases element <;> rfl
  | text content =>
    rw [emission_text style state content himage]
    unfold visitSides textSides
    dsimp only
    split
    . rfl
    . cases style.decorator.decorate content (0 < state.linkDepth) with
      | none => rfl
      | some pieces => exact List.append_nil _
  | softBreak =>
    rw [hemission]
    simp only [visit]
    split <;> rfl
  | _ =>
    rw [hemission]
    rfl

theorem mem_openable_of_visitSides {event : Event} {name : String}
    (h : .opens (.element name) ∈ visitSides style state event) : name ∈ event.openable := by
  cases event with
  | enter tag =>
    cases tag with
    | tableCell =>
      obtain rfl : name = state.table.cellName := by simpa [visitSides, Tag.opening] using h
      unfold TableState.cellName
      split <;> simp [Event.openable]
    | _ => simp_all [visitSides, Tag.opening, Event.openable]
  | leave element =>
    cases element <;> simp_all [visitSides, Element.closing, Event.openable]
  | text content =>
    obtain ⟨names, hnames, hall⟩ := textSides_eq style state content
    simp only [visitSides, hnames, List.mem_flatMap] at h
    obtain ⟨other, hother, hmem⟩ := h
    obtain rfl : name = other := by simpa [Side.pair] using hmem
    simpa [Event.openable] using (hall name hother).imp_right And.left
  | footnoteReference label => simpa [visitSides, Side.pair, Event.openable] using h
  | _ => simp [visitSides] at h

theorem mem_openable_of_emission {event : Event} {name : String}
    (h : .opens (.element name) ∈ (emission style state event).flatMap Output.sides)
    : name ∈ event.openable := by
  cases himage : state.image with
  | some image =>
    rw [sides_emission_of_image_some style state himage] at h
    simp at h
  | none =>
    rw [sides_emission_of_image_none style state himage] at h
    exact mem_openable_of_visitSides style state h

end Styling

end DirectedMarkdown
