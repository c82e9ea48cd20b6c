import DirectedMarkdown.Decoration
import DirectedMarkdown.Output.Footnote
import DirectedMarkdown.Output.Tags
import DirectedMarkdown.Proofs.Html.Issued

/-!
This module contains the pieces that directives ask for: all of them are issued, with tags in the
closing style of the directives. The texts that are configured as HTML are the raw ones.
-/

namespace DirectedMarkdown

open Html (Attribute Markup)

/-- A text that is configured as HTML: that of a link to a note, or of one back from it. -/
def DirectiveSet.IsRaw (directives : DirectiveSet) (content : String) : Prop :=
  content = directives.footnoteBacklinkText
    ∨ ∃ template number, directives.footnoteLinkText = some template
      ∧ content = Template.fill template [toString (number : Nat)]

namespace Html.Attribute

/-- The names of the attributes that are written without being configured. -/
def ownNames : List String :=
  ["border", "checked", "class", "disabled", "href", "id", "rev", "style", "title", "type"]

theorem isClean_of_ownNames {attributes : List Attribute} (h : ∀ a ∈ attributes, a.name ∈ ownNames)
    : ∀ a ∈ attributes, a.IsClean := by
  have hnames : ∀ name ∈ ownNames, isName name := by decide
  intro a ha
  exact isClean_of_isName (hnames _ (h a ha))

theorem ownNames_ofClass (className : String) : ∀ a ∈ ofClass className, a.name ∈ ownNames := by
  unfold ofClass
  split <;> simp [ownNames]

end Html.Attribute

namespace DirectiveSet

open Html (pairedNames voidNames)
open Html.Attribute (isClean_of_mem_ofList isClean_of_ownNames ownNames ownNames_ofClass)

variable {directives : DirectiveSet}

/-- All pieces are issued under the directives. -/
def Issues (directives : DirectiveSet) (pieces : List Markup) : Prop :=
  ∀ piece ∈ pieces, piece.Issued directives.elementClosingStyle directives.IsRaw

theorem issues_nil : directives.Issues [] := by
  simp [Issues]

theorem issues_flatMap {α : Type} {f : α → List Markup} {items : List α}
    (h : ∀ item ∈ items, directives.Issues (f item)) : directives.Issues (items.flatMap f) := by
  intro piece hpiece
  obtain ⟨item, hitem, hmem⟩ := List.mem_flatMap.mp hpiece
  exact h item hitem piece hmem

section Cons

variable {name : String} {attributes : List Attribute} {rest : List Markup}

theorem Issues.startTag (h : directives.Issues rest) (hname : name ∈ pairedNames)
    (hattributes : ∀ a ∈ attributes, a.name ∈ ownNames)
    : directives.Issues (.startTag name attributes :: rest) :=
  List.forall_mem_cons.mpr ⟨.startTag hname (isClean_of_ownNames hattributes), h⟩

theorem Issues.endTag (h : directives.Issues rest) (hname : name ∈ pairedNames)
    : directives.Issues (.endTag name :: rest) :=
  List.forall_mem_cons.mpr ⟨.endTag hname, h⟩

theorem Issues.voidTag (h : directives.Issues rest) (hname : name ∈ voidNames)
    (hattributes : ∀ a ∈ attributes, a.name ∈ ownNames)
    : directives.Issues (directives.voidTag name attributes :: rest) :=
  List.forall_mem_cons.mpr ⟨.voidTag hname (isClean_of_ownNames hattributes), h⟩

theorem Issues.text (h : directives.Issues rest) (content : String)
    : directives.Issues (.text content :: rest) :=
  List.forall_mem_cons.mpr ⟨.text content, h⟩

theorem Issues.verbatim (h : directives.Issues rest) {content : String}
    (hcontent : '<' ∉ content.toList) : directives.Issues (.verbatim content :: rest) :=
  List.forall_mem_cons.mpr ⟨.verbatim hcontent, h⟩

theorem Issues.lineFeed (h : directives.Issues rest)
    : directives.Issues (.lineFeed :: rest) :=
  h.verbatim (by decide)

theorem Issues.raw (h : directives.Issues rest) {content : String}
    (hcontent : directives.IsRaw content) : directives.Issues (.verbatim content :: rest) :=
  List.forall_mem_cons.mpr ⟨.raw hcontent, h⟩

end Cons

theorem issues_codeBlockStart (kind : Markdown.CodeBlockKind)
    : directives.Issues (directives.codeBlockStart kind) := by
  have hclass := fun language =>
    ownNames_ofClass (Template.fill
      (if directives.codeClass.isEmpty then "language-%s" else directives.codeClass) [language])
  unfold codeBlockStart
  split
  . exact (issues_nil.startTag (by decide) (by simp)).startTag (by decide) (by simp)
  . next language _ =>
    dsimp only
    split
    . exact (issues_nil.startTag (by decide) (by simp)).startTag (by decide) (hclass language)
    . exact (issues_nil.startTag (by decide) (hclass language)).startTag (by decide) (by simp)

theorem issues_codeBlockEnd : directives.Issues codeBlockEnd :=
  ((issues_nil.lineFeed).endTag (by decide)).endTag (by decide)

theorem issues_linkStart (kind : Markdown.LinkKind) (url title : String)
    : directives.Issues [directives.linkStart kind url title] :=
  List.forall_mem_singleton.mpr (.startTag (by decide) fun _ => isClean_of_mem_ofList)

theorem issues_imageTag (url alt title : String)
    : directives.Issues [directives.imageTag url alt title] :=
  List.forall_mem_singleton.mpr (.voidTag (by decide) fun _ => isClean_of_mem_ofList)

theorem issues_lineBreak : directives.Issues directives.lineBreak :=
  (issues_nil.lineFeed).voidTag (by decide) (by simp)

theorem issues_rule : directives.Issues directives.rule :=
  (issues_nil.lineFeed).voidTag (by decide) (by simp)

theorem issues_taskBox (checked : Bool) : directives.Issues (directives.taskBox checked) := by
  apply (issues_nil.verbatim (by decide)).voidTag (by decide)
  cases checked <;> simp [ownNames]

theorem issues_tableStart : directives.Issues directives.tableStart := by
  apply (issues_nil.lineFeed).startTag (by decide)
  unfold tableAttributes
  split
  . simp
  . split
    . simp [ownNames]
    . exact ownNames_ofClass _

theorem ownNames_cellAttributes (alignment : Markdown.ColumnAlignment)
    : ∀ a ∈ directives.cellAttributes alignment, a.name ∈ ownNames := by
  unfold cellAttributes
  split
  . simp
  . split
    . exact ownNames_ofClass _
    . simp [ownNames]

theorem notMem_toString (number : Nat) : '<' ∉ (toString number).toList := by
  intro hmem
  have hmem : '<' ∈ Nat.toDigits 10 number := by simpa using hmem
  exact absurd (Nat.isDigit_of_mem_toDigits (by omega) (by omega) hmem) (by decide)

theorem issues_noteReference (label : String) (number occurrence : Nat)
    : directives.Issues (directives.noteReference label number occurrence) := by
  have htext : directives.Issues
      [.verbatim (directives.referenceText number), .endTag "a", .endTag "sup"] := by
    have hend : directives.Issues [.endTag "a", .endTag "sup"] :=
      (issues_nil.endTag (by decide)).endTag (by decide)
    unfold referenceText
    split
    . next template htemplate => exact hend.raw (.inr ⟨template, number, htemplate, rfl⟩)
    . exact hend.verbatim (notMem_toString number)
  apply (htext.startTag (by decide) _).startTag (by decide)
  . simp [ownNames]
  . rw [List.forall_mem_cons]
    exact ⟨by simp [ownNames], ownNames_ofClass _⟩

theorem issues_backlinks (label : String) (count : Nat)
    : directives.Issues (directives.backlinks label count) := by
  apply issues_flatMap
  intro i _
  have hend : directives.Issues [.endTag "a"] := issues_nil.endTag (by decide)
  apply ((hend.raw (.inl rfl)).startTag (by decide) _).verbatim (by decide)
  rw [List.forall_mem_cons, List.forall_mem_cons]
  exact ⟨by simp [ownNames], by simp [ownNames], ownNames_ofClass _⟩

theorem issues_decorate {decorator : Decorator} {text : String} {inLink : Bool}
    {pieces : List Markup} (h : decorator.decorate text inLink = some pieces)
    : directives.Issues pieces := by
  unfold Decorator.decorate at h
  dsimp only at h
  split at h
  . rw [← Option.some.inj h]
    apply issues_flatMap
    intro segment _
    cases segment with
    | plain content => exact List.forall_mem_singleton.mpr (.text _)
    | abbreviation word title =>
      have htext : directives.Issues [.text (String.ofList word), .endTag "abbr"] :=
        (issues_nil.endTag (by decide)).text _
      exact htext.startTag (by decide) (by simp [ownNames])
    | link url =>
      have htext : directives.Issues [.text (String.ofList url), .endTag "a"] :=
        (issues_nil.endTag (by decide)).text _
      have hstart : (decorator.linkStart (String.ofList url)).Issued
          directives.elementClosingStyle directives.IsRaw :=
        .startTag (by decide) fun _ => isClean_of_mem_ofList
      exact List.forall_mem_cons.mpr ⟨hstart, htext⟩
  . simp at h

end DirectiveSet

end DirectedMarkdown
