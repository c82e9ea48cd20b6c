import DirectedMarkdown.Proofs.Html.Tag
import DirectedMarkdown.Proofs.List.Append
import Mathlib.Data.List.Induction

/-!
This module contains the pieces of HTML that are issued: tags of known elements with clean
attributes, and texts. The tags in what is written are those that were issued, and each element
without content is closed in one and the same style.
-/

namespace DirectedMarkdown.Html

/-- The elements that have an end tag. -/
def pairedNames : List String :=
  ["a", "abbr", "code", "div", "li", "ol", "pre", "sup", "table", "tbody", "td", "th", "thead",
    "tr"]

/-- The elements without content. -/
def voidNames : List String :=
  ["br", "hr", "img", "input"]

/-- A tag that ends as its closing style asks for. -/
structure ClosesIn (style : ClosingStyle) (tag : String) : Prop where
  void : (∃ name ∈ voidNames, "<".toList ++ name.toList <+: tag.toList) →
    style.suffix.toList <:+ tag.toList
  bare : style = .bareAngleBracket → ¬"/>".toList <:+ tag.toList

namespace Markup

/--
A piece whose tags are in the closing style. Text that is written as it is has no tags, unless it is
one of the raw ones.
-/
inductive Issued (style : ClosingStyle) (raw : String → Prop) : Markup → Prop where
  | startTag {name : String} {attributes : List Attribute}
    : name ∈ pairedNames → (∀ a ∈ attributes, a.IsClean)
      → Issued style raw (.startTag name attributes)
  | endTag {name : String} : name ∈ pairedNames → Issued style raw (.endTag name)
  | voidTag {name : String} {attributes : List Attribute}
    : name ∈ voidNames → (∀ a ∈ attributes, a.IsClean)
      → Issued style raw (.voidTag name attributes style)
  | text (content : String) : Issued style raw (.text content)
  | verbatim {content : String} : '<' ∉ content.toList → Issued style raw (.verbatim content)
  | raw {content : String} : raw content → Issued style raw (.verbatim content)

/-- Whether the piece is one of the raw texts. -/
def IsRaw (raw : String → Prop) : Markup → Prop
  | .verbatim content => raw content
  | _ => False

end Markup

section Names

variable {name : String}

theorem notMem_of_mem_names (h : name ∈ pairedNames ++ voidNames) : '>' ∉ name.toList := by
  revert name
  decide

theorem getLast?_of_mem_names (h : name ∈ pairedNames ++ voidNames)
    : name.toList.getLast? ≠ some '/' := by
  revert name
  decide

/-- The letters that the elements without content start with. -/
theorem head?_of_mem_voidNames (h : name ∈ voidNames)
    : name.toList.head? ∈ [some 'b', some 'h', some 'i'] := by
  revert name
  decide

theorem head?_of_mem_pairedNames (h : name ∈ pairedNames)
    : name.toList ≠ [] ∧ name.toList.head? ∉ [some 'b', some 'h', some 'i'] := by
  revert name
  decide

theorem not_prefix_of_mem_voidNames (h : name ∈ voidNames) {s : List Char}
    (hs : s.head? ∉ [some 'b', some 'h', some 'i']) : ¬name.toList <+: s := by
  have hhead := head?_of_mem_voidNames h
  rintro ⟨rest, rfl⟩
  cases hname : name.toList with
  | nil => simp [hname] at hhead
  | cons c s => exact hs (by simpa [hname] using hhead)

end Names

theorem Attribute.getLast?_renderAll (attributes : List Attribute)
    : (renderAll attributes).toList.getLast? ≠ some '/' := by
  unfold renderAll
  rw [String.toList_join]
  induction attributes using List.reverseRecOn with
  | nil => simp
  | append_singleton attributes a _ =>
    have hrender : a.render.toList = (" " ++ a.name ++ "=\"" ++ a.written).toList ++ ['"'] := by
      simp [render]
    rw [List.map_append, List.flatMap_append, List.map_singleton, List.flatMap_singleton, hrender]
    rw [← List.append_assoc, List.getLast?_concat]
    decide

theorem not_slash_suffix {front : List Char} (h : front.getLast? ≠ some '/')
    : ¬"/>".toList <:+ front ++ ['>'] := by
  rintro ⟨before, heq⟩
  have heq : before ++ ['/'] ++ ['>'] = front ++ ['>'] := by simpa using heq
  rw [List.append_left_inj] at heq
  rw [← heq] at h
  simp at h

namespace Markup

variable {style : ClosingStyle} {raw : String → Prop} {name : String}
  {attributes : List Attribute}

/-- What stands in the tag of an element behind its `<`. -/
theorem getLast?_body (attributes : List Attribute) (hname : name ∈ pairedNames ++ voidNames)
    : ('<' :: name.toList ++ (Attribute.renderAll attributes).toList).getLast? ≠ some '/' := by
  have hlast := getLast?_of_mem_names hname
  have hattributes := Attribute.getLast?_renderAll attributes
  rw [List.getLast?_append, List.getLast?_cons]
  generalize (Attribute.renderAll attributes).toList.getLast? = last at *
  generalize name.toList.getLast? = first at *
  cases last <;> cases first <;> simp_all

theorem closesIn_startTag (hname : name ∈ pairedNames)
    : ClosesIn style (startTag name attributes).render where
  void := by
    rintro ⟨other, hother, hprefix⟩
    have hprefix : '<' :: other.toList
        <+: '<' :: (name.toList ++ ((Attribute.renderAll attributes).toList ++ ['>'])) := by
      simpa [render] using hprefix
    rw [List.cons_prefix_cons] at hprefix
    refine absurd hprefix.2 (not_prefix_of_mem_voidNames hother ?_)
    obtain ⟨hne, hhead⟩ := head?_of_mem_pairedNames hname
    rwa [head?_append_of_ne_nil hne]
  bare := by
    intro _
    have hlast := getLast?_body attributes (List.mem_append_left voidNames hname)
    simpa [render] using not_slash_suffix hlast

theorem closesIn_endTag (hname : name ∈ pairedNames) : ClosesIn style (endTag name).render where
  void := by
    rintro ⟨other, hother, hprefix⟩
    have hprefix : '<' :: other.toList <+: '<' :: '/' :: (name.toList ++ ['>']) := by
      simpa [render] using hprefix
    rw [List.cons_prefix_cons] at hprefix
    exact absurd hprefix.2 (not_prefix_of_mem_voidNames hother (by simp))
  bare := by
    intro _
    have hlast : ('<' :: '/' :: name.toList).getLast? ≠ some '/' := by
      have hnames : ∀ name ∈ pairedNames, ('<' :: '/' :: name.toList).getLast? ≠ some '/' := by
        decide
      exact hnames name hname
    simpa [render] using not_slash_suffix hlast

theorem closesIn_voidTag (hname : name ∈ voidNames)
    : ClosesIn style (voidTag name attributes style).render where
  void := by
    intro _
    refine ⟨'<' :: name.toList ++ (Attribute.renderAll attributes).toList, ?_⟩
    simp [render]
  bare := by
    rintro rfl
    have := not_slash_suffix (getLast?_body attributes
      (List.mem_append_right pairedNames hname))
    simpa [render, ClosingStyle.suffix] using this

theorem isTag_voidTag (hname : '>' ∉ name.toList) (hclean : ∀ a ∈ attributes, a.IsClean)
    : IsTag (voidTag name attributes style).render.toList := by
  have hattributes := Attribute.notMem_renderAll hclean (.inr rfl)
  cases style with
  | selfClosingSlash =>
    refine ⟨name.toList ++ (Attribute.renderAll attributes).toList ++ [' ', '/'], ?_, ?_⟩
    . simp [hname, hattributes]
    . simp [render, ClosingStyle.suffix]
  | bareAngleBracket =>
    refine ⟨name.toList ++ (Attribute.renderAll attributes).toList, ?_, ?_⟩
    . simp [hname, hattributes]
    . simp [render, ClosingStyle.suffix]

/-- A piece is a tag that closes in the style, or has no tags. -/
theorem Issued.isTag_or {piece : Markup} (h : piece.Issued style raw) (hraw : ¬piece.IsRaw raw)
    : IsTag piece.render.toList ∧ ClosesIn style piece.render ∨ '<' ∉ piece.render.toList := by
  cases h with
  | startTag hname hclean =>
    have hbody := notMem_of_mem_names (List.mem_append_left voidNames hname)
    exact .inl ⟨isTag_startTag hbody hclean, closesIn_startTag hname⟩
  | endTag hname =>
    have hbody := notMem_of_mem_names (List.mem_append_left voidNames hname)
    exact .inl ⟨isTag_endTag hbody, closesIn_endTag hname⟩
  | voidTag hname hclean =>
    have hbody := notMem_of_mem_names (List.mem_append_right pairedNames hname)
    exact .inl ⟨isTag_voidTag hbody hclean, closesIn_voidTag hname⟩
  | text content => exact .inr (notMem_of_inert fun _ => isInert_of_mem_escape).1
  | verbatim hcontent => exact .inr hcontent
  | raw hcontent => exact absurd hcontent hraw

/-- Where no raw texts are, the tags that are found are those that were issued. -/
theorem closesIn_of_mem_tags {pieces : List Markup}
    (hissued : ∀ piece ∈ pieces, piece.Issued style raw) (hraw : ∀ piece ∈ pieces, ¬piece.IsRaw raw)
    {tag : String} (htag : tag ∈ tags (renderAll pieces)) : ClosesIn style tag := by
  unfold tags at htag
  rw [toList_renderAll, List.mem_map] at htag
  obtain ⟨s, hs, rfl⟩ := htag
  induction pieces with
  | nil => simp [tagsFrom] at hs
  | cons piece rest ih =>
    rw [List.forall_mem_cons] at hissued hraw
    rw [List.flatMap_cons] at hs
    rcases hissued.1.isTag_or hraw.1 with ⟨htag, hcloses⟩ | hnone
    . rw [htag.tagsFrom_append, List.mem_cons] at hs
      cases hs with
      | inl heq =>
        rw [heq, String.ofList_toList]
        exact hcloses
      | inr hrest => exact ih hissued.2 hraw.2 hrest
    . rw [tagsFrom_append hnone] at hs
      exact ih hissued.2 hraw.2 hs

end Markup

end DirectedMarkdown.Html
