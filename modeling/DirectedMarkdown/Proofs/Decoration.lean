import DirectedMarkdown.Decoration
import DirectedMarkdown.Proofs.Abbreviation.Occurrence
import DirectedMarkdown.Proofs.Html.Tag
import DirectedMarkdown.Proofs.Url.Bare

/-!
This module contains the decoration of running text: it adds tags to the escaped text and does
nothing else, and it does so just if there is something to decorate.
-/

namespace DirectedMarkdown

open Html (Attribute Markup charsOutside escape escapeChars escapeChars_append isInert outsideTags
  tags tagsFrom unescape)

/-- The tags of decorations, where each one is closed before the next one is opened. -/
inductive DecorationTags : List String → Prop where
  | nil : DecorationTags []
  | abbreviation (title : String) {rest : List String}
    : (∀ c ∈ title.toList, isInert c) → DecorationTags rest
      → DecorationTags (("<abbr title=\"" ++ title ++ "\">") :: "</abbr>" :: rest)
  | link (attributes : List Attribute) {rest : List String}
    : (∀ a ∈ attributes, a.IsClean) → DecorationTags rest
      → DecorationTags (("<a" ++ Attribute.renderAll attributes ++ ">") :: "</a>" :: rest)

namespace Decorator

variable (decorator : Decorator)

theorem flatMap_content_gapSegments (s : List Char)
    : (decorator.gapSegments s).flatMap Segment.content = s := by
  have hcut := Text.flatMap_content_cut (Abbreviation.occurrenceLength decorator.words) s
  unfold gapSegments Abbreviation.cutAt
  rw [List.flatMap_map]
  refine Eq.trans ?_ hcut
  congr 1
  funext piece
  cases piece <;> rfl

theorem flatMap_content_segments (s : List Char) (inLink : Bool)
    : (decorator.segments s inLink).flatMap Segment.content = s := by
  unfold segments
  split
  . have hcut := Text.flatMap_content_cut Url.bareLength s
    unfold Url.cutBare
    rw [List.flatMap_assoc]
    refine Eq.trans ?_ hcut
    congr 1
    funext piece
    cases piece with
    | plain content => exact decorator.flatMap_content_gapSegments content
    | hit url => exact List.append_nil url
  . exact decorator.flatMap_content_gapSegments s

theorem any_isDecorated_gapSegments (s : List Char)
    : (decorator.gapSegments s).any Segment.isDecorated
        ↔ Abbreviation.Occurs decorator.words s := by
  rw [← Abbreviation.hasHit_iff_occurs, ← Text.any_isHit_cut_iff]
  unfold gapSegments Abbreviation.cutAt
  rw [List.any_map, Bool.coe_iff_coe]
  congr 1
  funext piece
  cases piece <;> rfl

theorem segments_eq_gapSegments {s : List Char} {inLink : Bool}
    (h : ¬(decorator.urlsLinked ∧ inLink = false ∧ Url.Stands s))
    : decorator.segments s inLink = decorator.gapSegments s := by
  unfold segments
  split
  . next hlinked =>
    simp only [Bool.and_eq_true, Bool.not_eq_true'] at hlinked
    have hstands : ¬Text.HasHit Url.bareLength s := by
      rw [Url.hasHit_iff_stands]
      exact fun hstands => h ⟨hlinked.1, hlinked.2, hstands⟩
    unfold Url.cutBare
    rw [Text.cut_eq_plainPiece _ hstands]
    unfold Text.plainPiece
    split
    . next hnil =>
      -- An empty text has no piece, and as a gap it has no segment.
      rw [List.isEmpty_iff, List.reverse_eq_nil_iff] at hnil
      rw [hnil]
      simp [gapSegments, Abbreviation.cutAt, Text.cut, Text.cut.go, Text.plainPiece]
    . simp
  . rfl

theorem decorate_eq_none_iff (text : String) (inLink : Bool)
    : decorator.decorate text inLink = none
        ↔ ¬(decorator.urlsLinked ∧ inLink = false ∧ Url.Stands text.toList)
          ∧ ¬Abbreviation.Occurs decorator.words text.toList := by
  have hnone : decorator.decorate text inLink = none
      ↔ ¬(decorator.segments text.toList inLink).any Segment.isDecorated := by
    unfold decorate
    dsimp only
    split
    . next h => simp [h]
    . next h => simp [h]
  rw [hnone]
  by_cases hurl : decorator.urlsLinked ∧ inLink = false ∧ Url.Stands text.toList
  . have hhit : (Url.cutBare text.toList).any Text.Piece.isHit := by
      unfold Url.cutBare
      rw [Text.any_isHit_cut_iff, Url.hasHit_iff_stands]
      exact hurl.2.2
    have hdecorated : (decorator.segments text.toList inLink).any Segment.isDecorated := by
      unfold segments
      rw [hurl.1, hurl.2.1]
      simp only [Bool.not_false, Bool.and_self, ↓reduceIte, List.any_flatMap]
      rw [List.any_eq_true] at hhit ⊢
      obtain ⟨piece, hmem, hpiece⟩ := hhit
      refine ⟨piece, hmem, ?_⟩
      cases piece with
      | plain content => simp [Text.Piece.isHit] at hpiece
      | hit url => rfl
    constructor
    . intro h
      exact absurd hdecorated h
    . rintro ⟨h, _⟩
      exact absurd hurl h
  . rw [decorator.segments_eq_gapSegments hurl, any_isDecorated_gapSegments]
    simp [hurl]

theorem isTag_linkStart (url : String) : Html.IsTag (decorator.linkStart url).render.toList := by
  apply Markup.isTag_startTag
  . decide
  . intro a ha
    exact Attribute.isClean_of_mem_ofList ha

theorem isTag_abbrStart (title : String)
    : Html.IsTag (Markup.startTag "abbr" [{ name := "title", value := title }]).render.toList := by
  apply Markup.isTag_startTag
  . decide
  . intro a ha
    rw [List.mem_singleton] at ha
    subst ha
    have hname : Attribute.isName "title" := by decide
    exact Attribute.isClean_of_isName hname

theorem render_abbrStart (title : String)
    : (Markup.startTag "abbr" [{ name := "title", value := title }]).render
        = "<abbr title=\"" ++ escape title ++ "\">" := by
  rw [← String.toList_inj]
  simp [Markup.render, Attribute.renderAll, Attribute.render, Attribute.written]

theorem charsOutside_markup (segments : List Segment)
    : charsOutside false (Markup.renderAll (segments.flatMap decorator.markup)).toList
        = escapeChars (segments.flatMap Segment.content) := by
  rw [Markup.toList_renderAll]
  induction segments with
  | nil => rfl
  | cons segment rest ih =>
    rw [List.flatMap_cons, List.flatMap_append, List.flatMap_cons, escapeChars_append, ← ih]
    cases segment with
    | plain content =>
      simp only [markup, List.flatMap_singleton, Segment.content]
      rw [Html.charsOutside_text, String.toList_ofList]
    | abbreviation word title =>
      have hend : Html.IsTag (Markup.endTag "abbr").render.toList :=
        Markup.isTag_endTag (by decide)
      simp only [markup, List.flatMap_cons, List.flatMap_nil, List.append_nil, List.append_assoc,
        Segment.content]
      rw [(isTag_abbrStart title).charsOutside_append, Html.charsOutside_text]
      rw [hend.charsOutside_append, String.toList_ofList]
    | link url =>
      have hend : Html.IsTag (Markup.endTag "a").render.toList :=
        Markup.isTag_endTag (by decide)
      simp only [markup, List.flatMap_cons, List.flatMap_nil, List.append_nil, List.append_assoc,
        Segment.content]
      rw [(decorator.isTag_linkStart _).charsOutside_append, Html.charsOutside_text]
      rw [hend.charsOutside_append, String.toList_ofList]

theorem tags_markup (segments : List Segment)
    : DecorationTags (tags (Markup.renderAll (segments.flatMap decorator.markup))) := by
  unfold tags
  rw [Markup.toList_renderAll]
  induction segments with
  | nil => exact .nil
  | cons segment rest ih =>
    rw [List.flatMap_cons, List.flatMap_append]
    cases segment with
    | plain content =>
      simp only [markup, List.flatMap_singleton]
      rw [Html.tagsFrom_text]
      exact ih
    | abbreviation word title =>
      have hend : Html.IsTag (Markup.endTag "abbr").render.toList :=
        Markup.isTag_endTag (by decide)
      simp only [markup, List.flatMap_cons, List.flatMap_nil, List.append_nil, List.append_assoc]
      rw [(isTag_abbrStart title).tagsFrom_append, Html.tagsFrom_text, hend.tagsFrom_append]
      simp only [List.map_cons, String.ofList_toList]
      rw [render_abbrStart]
      exact .abbreviation (escape title) (fun _ => Html.isInert_of_mem_escape) ih
    | link url =>
      have hend : Html.IsTag (Markup.endTag "a").render.toList :=
        Markup.isTag_endTag (by decide)
      simp only [markup, List.flatMap_cons, List.flatMap_nil, List.append_nil, List.append_assoc]
      rw [(decorator.isTag_linkStart _).tagsFrom_append, Html.tagsFrom_text, hend.tagsFrom_append]
      simp only [List.map_cons, String.ofList_toList]
      exact DecorationTags.link _ (fun a ha => Attribute.isClean_of_mem_ofList ha) ih

end Decorator

/--
The decoration of a text is the escaped text with tags put into it, so that the text can be read
back from it. There is none just if there is neither a URL to be linked nor an abbreviation in the
text.
-/
theorem decorate_text (decorator : Decorator) (text : String) (inLink : Bool)
    : (∀ pieces, decorator.decorate text inLink = some pieces →
        DecorationTags (tags (Markup.renderAll pieces))
          ∧ outsideTags (Markup.renderAll pieces) = escape text
          ∧ unescape (outsideTags (Markup.renderAll pieces)) = text)
      ∧ (decorator.decorate text inLink = none
        ↔ ¬(decorator.urlsLinked ∧ inLink = false ∧ Url.Stands text.toList)
          ∧ ¬Abbreviation.Occurs decorator.words text.toList) := by
  refine ⟨?_, decorator.decorate_eq_none_iff text inLink⟩
  intro pieces hpieces
  have hsegments : pieces
      = (decorator.segments text.toList inLink).flatMap decorator.markup := by
    unfold Decorator.decorate at hpieces
    dsimp only at hpieces
    split at hpieces
    . simpa using hpieces.symm
    . simp at hpieces
  have houtside : outsideTags (Markup.renderAll pieces) = escape text := by
    unfold outsideTags escape
    rw [hsegments, decorator.charsOutside_markup, decorator.flatMap_content_segments]
  refine ⟨?_, houtside, ?_⟩
  . rw [hsegments]
    exact decorator.tags_markup _
  . rw [houtside, Html.unescape_escape]

theorem decorate_text_markup
    : let decorator : Decorator :=
        { abbreviations := PropertyList.empty.insert "HTML" "<Markup>"
          urlsLinked := true
          urlAttributes := .empty }
      let pieces : List Markup :=
        [.startTag "abbr" [{ name := "title", value := "<Markup>" }], .text "HTML", .endTag "abbr",
          .text " & ",
          .startTag "a" [{ name := "href", value := "http://a", kind := .url }], .text "http://a",
          .endTag "a"]
      decorator.decorate "HTML & http://a" false = some pieces
        ∧ DecorationTags (tags (Markup.renderAll pieces))
        ∧ outsideTags (Markup.renderAll pieces) = escape "HTML & http://a"
        ∧ unescape (outsideTags (Markup.renderAll pieces)) = "HTML & http://a" := by
  intro decorator pieces
  have hpieces : decorator.decorate "HTML & http://a" false = some pieces := by
    decide +kernel
  exact ⟨hpieces, (decorate_text decorator "HTML & http://a" false).1 pieces hpieces⟩

end DirectedMarkdown
