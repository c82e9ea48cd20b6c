import DirectedMarkdown.Proofs.Decoration

/-!
This module contains the abbreviations in decorated text that has no links to bare URLs: what is
wrapped goes from a word boundary to a word boundary. This makes whole words of the abbreviations
just if each of them starts and ends with a word character.
-/

namespace DirectedMarkdown

open Html (Markup)

/-- The text in pieces of HTML. -/
def Html.Markup.textIn (pieces : List Markup) : List Char :=
  pieces.flatMap fun
    | .text content => content.toList
    | _ => []

/-- The start tag of a wrapped abbreviation. -/
def Html.Markup.abbrStart (title : String) : Markup :=
  .startTag "abbr" [{ name := "title", value := title }]

namespace Decorator

/-- The decorated text has `word` wrapped as an abbreviation, between `before` and `after`. -/
def Wraps (decorator : Decorator) (text : String) (inLink : Bool)
    (before word after : List Char) : Prop :=
  ∃ front back title, decorator.decorate text inLink
      = some (front ++ .abbrStart title :: .text (String.ofList word) :: .endTag "abbr" :: back)
    ∧ Markup.textIn front = before ∧ Markup.textIn back = after

/--
The abbreviations that stand alone in the text are wrapped, and nothing that touches a word is. An
abbreviation stands alone if its neighbours are blank or missing and nothing that is wrapped reaches
into it from before.
-/
structure WrapsWholeWords (decorator : Decorator) (text : String) (inLink : Bool) : Prop where
  wraps : ∀ key ∈ decorator.words, ∀ before after, text.toList = before ++ key ++ after →
    (∀ c ∈ before.getLast?, Text.isBlank c) → (∀ c ∈ after.head?, Text.isBlank c) →
    (∀ front word back, decorator.Wraps text inLink front word back →
      front.length < before.length → front.length + word.length ≤ before.length) →
    ∃ word back, decorator.Wraps text inLink before word back ∧ key <+: word
  alone : ∀ before word after, decorator.Wraps text inLink before word after →
    Text.isWordAt before.getLast? = false ∧ Text.isWordAt after.head? = false

variable {decorator : Decorator} {text : String} {inLink : Bool}

theorem textIn_markup (segments : List Segment)
    : Markup.textIn (segments.flatMap decorator.markup) = segments.flatMap Segment.content := by
  unfold Markup.textIn
  rw [List.flatMap_assoc]
  congr 1
  funext segment
  cases segment <;> simp [markup, linkStart, Segment.content]

/-- The start tag of an abbreviation comes from the segment of the word behind it. -/
theorem exists_of_flatMap_markup {segments : List Segment} {front back : List Markup}
    {attributes : List Html.Attribute}
    (h : segments.flatMap decorator.markup = front ++ .startTag "abbr" attributes :: back)
    : ∃ left word title right, segments = left ++ .abbreviation word title :: right
        ∧ left.flatMap decorator.markup = front
        ∧ Markup.startTag "abbr" attributes = .abbrStart title
        ∧ back = .text (String.ofList word) :: .endTag "abbr" :: right.flatMap decorator.markup := by
  induction segments generalizing front with
  | nil => simp at h
  | cons segment rest ih =>
    rw [List.flatMap_cons] at h
    -- Either the tag belongs to this segment, or it comes behind it.
    have hlater {between : List Markup} (hfront : front = decorator.markup segment ++ between)
        (hrest : rest.flatMap decorator.markup = between ++ .startTag "abbr" attributes :: back)
        : ∃ left word title right, segment :: rest = left ++ .abbreviation word title :: right
          ∧ left.flatMap decorator.markup = front
          ∧ Markup.startTag "abbr" attributes = .abbrStart title
          ∧ back
            = .text (String.ofList word) :: .endTag "abbr" :: right.flatMap decorator.markup := by
      obtain ⟨left, word, title, right, rfl, rfl, hstart, hback⟩ := ih hrest
      refine ⟨segment :: left, word, title, right, rfl, ?_, hstart, hback⟩
      rw [List.flatMap_cons, hfront]
    by_cases hmem : .startTag "abbr" attributes ∈ decorator.markup segment
    . cases segment with
      | plain content => simp [markup] at hmem
      | link url => simp [markup, linkStart] at hmem
      | abbreviation word title =>
        cases front with
        | nil =>
          simp only [markup, List.cons_append, List.nil_append, List.cons.injEq] at h
          exact ⟨[], word, title, rest, rfl, rfl, h.1.symm, h.2.symm⟩
        | cons piece front =>
          simp only [markup, List.cons_append, List.cons.injEq] at h
          obtain ⟨rfl, h⟩ := h
          have hnot : Markup.startTag "abbr" attributes
              ∉ [Markup.text (String.ofList word), Markup.endTag "abbr"] := by
            simp
          obtain ⟨between, rfl, hrest⟩ := exists_of_append_eq_append_cons hnot h
          exact hlater rfl hrest
    . obtain ⟨between, rfl, hrest⟩ := exists_of_append_eq_append_cons hmem h
      exact hlater rfl hrest

variable {before word after : List Char}

theorem segments_of_not_linked (hoff : (decorator.urlsLinked && !inLink) = false) (s : List Char)
    : decorator.segments s inLink = decorator.gapSegments s := by
  unfold segments
  rw [hoff]
  rfl

/-- The segment for a piece of a text without links. -/
def segment (decorator : Decorator) : Text.Piece → Segment
  | .plain content => .plain content
  | .hit word => decorator.abbreviated word

theorem gapSegments_eq_map (s : List Char)
    : decorator.gapSegments s = (Abbreviation.cutAt decorator.words s).map decorator.segment :=
  rfl

theorem flatMap_content_map_segment (pieces : List Text.Piece)
    : (pieces.map decorator.segment).flatMap Segment.content
        = pieces.flatMap Text.Piece.content := by
  rw [List.flatMap_map]
  congr 1
  funext piece
  cases piece <;> rfl

/-- What is wrapped is what the search for abbreviations finds. -/
theorem wraps_iff_isHit (hoff : (decorator.urlsLinked && !inLink) = false)
    : decorator.Wraps text inLink before word after
        ↔ Text.IsHit (Abbreviation.occurrenceLength decorator.words) text.toList
            before word after := by
  have hsegments : decorator.segments text.toList inLink
      = (Abbreviation.cutAt decorator.words text.toList).map decorator.segment := by
    rw [segments_of_not_linked hoff, gapSegments_eq_map]
  unfold Wraps decorate Text.IsHit
  dsimp only
  rw [hsegments]
  constructor
  . rintro ⟨front, back, title, hdecorate, rfl, rfl⟩
    split at hdecorate
    . rw [Option.some.injEq] at hdecorate
      obtain ⟨left, other, title', right, hpieces, rfl, _, hback⟩ :=
        exists_of_flatMap_markup hdecorate
      simp only [List.cons.injEq, Markup.text.injEq, String.ofList_inj, true_and] at hback
      obtain ⟨rfl, rfl⟩ := hback
      rw [List.map_eq_append_iff] at hpieces
      obtain ⟨leftPieces, others, hcut, rfl, hothers⟩ := hpieces
      rw [List.map_eq_cons_iff] at hothers
      obtain ⟨piece, rightPieces, rfl, hpiece, rfl⟩ := hothers
      obtain rfl : piece = .hit word := by
        cases piece with
        | plain content => simp [segment] at hpiece
        | hit other =>
          simp only [segment, abbreviated, Segment.abbreviation.injEq] at hpiece
          rw [hpiece.1]
      simp only [textIn_markup, flatMap_content_map_segment]
      exact ⟨leftPieces, rightPieces, hcut, rfl, rfl⟩
    . simp at hdecorate
  . rintro ⟨leftPieces, rightPieces, hcut, rfl, rfl⟩
    have hdecorated : (leftPieces.map decorator.segment
        ++ (.hit word :: rightPieces).map decorator.segment).any Segment.isDecorated := by
      simp [segment, abbreviated, Segment.isDecorated]
    unfold Abbreviation.cutAt
    rw [hcut, List.map_append, if_pos hdecorated, List.flatMap_append]
    refine ⟨(leftPieces.map decorator.segment).flatMap decorator.markup,
      (rightPieces.map decorator.segment).flatMap decorator.markup, _, rfl, ?_, ?_⟩
    . rw [textIn_markup, flatMap_content_map_segment]
    . rw [textIn_markup, flatMap_content_map_segment]

theorem wrapsWholeWords_of_isWordAt (hoff : (decorator.urlsLinked && !inLink) = false)
    (hwords : ∀ key ∈ decorator.words, Text.isWordAt key.head? ∧ Text.isWordAt key.getLast?)
    (text : String) : decorator.WrapsWholeWords text inLink := by
  have hblank : ∀ neighbour : Option Char, (∀ c ∈ neighbour, Text.isBlank c) →
      Text.isWordAt neighbour = false := by
    intro neighbour h
    cases neighbour with
    | none => rfl
    | some c => exact Text.isWord_eq_false_of_isBlank (h c rfl)
  constructor
  . intro key hkey before after hs hbefore hafter hfree
    obtain ⟨hhead, hlast⟩ := hwords key hkey
    simp only [wraps_iff_isHit hoff] at hfree ⊢
    apply Abbreviation.exists_isHit_of_occurs hkey _ hs _ _ hfree
    . rintro rfl
      simp [Text.isWordAt] at hhead
    . rw [Text.isBoundary, hblank _ hbefore, hhead]
      rfl
    . rw [Text.isBoundary, hblank _ hafter, hlast]
      rfl
  . intro before word after hwraps
    rw [wraps_iff_isHit hoff] at hwraps
    obtain ⟨hword, hstart, hend⟩ := Abbreviation.occurs_of_isHit hwraps
    obtain ⟨hhead, hlast⟩ := hwords word hword
    rw [Text.isBoundary, hhead] at hstart
    rw [Text.isBoundary, hlast] at hend
    exact ⟨by simpa using hstart, by simpa using hend⟩

/-- In a text that is the abbreviation and nothing else, its ends must be word boundaries. -/
theorem isWordAt_of_wrapsWholeWords (hoff : (decorator.urlsLinked && !inLink) = false)
    {key : List Char} (hkey : key ∈ decorator.words)
    (h : decorator.WrapsWholeWords (String.ofList key) inLink)
    : Text.isWordAt key.head? ∧ Text.isWordAt key.getLast? := by
  obtain ⟨word, back, hwraps, hprefix⟩ :=
    h.wraps key hkey [] [] (by simp) (by simp) (by simp) (by simp)
  rw [wraps_iff_isHit hoff] at hwraps
  have heq := hwraps.eq_append
  rw [String.toList_ofList, List.nil_append] at heq
  obtain rfl : key = word := by
    apply hprefix.eq_of_length_le
    rw [heq]
    simp
  obtain rfl : back = [] := by simpa using heq
  obtain ⟨_, hstart, hend⟩ := Abbreviation.occurs_of_isHit hwraps
  exact ⟨by simpa [Text.isBoundary, Text.isWordAt] using hstart,
    by simpa [Text.isBoundary, Text.isWordAt] using hend⟩

end Decorator

/--
Without links to bare URLs, just the abbreviations between word boundaries are wrapped. These are
the whole words of every text if and only if all abbreviations start and end with word characters.
-/
theorem wrapsWholeWords_iff (decorator : Decorator) (inLink : Bool)
    (hoff : (decorator.urlsLinked && !inLink) = false)
    : (∀ text before word after, decorator.Wraps text inLink before word after →
        text.toList = before ++ word ++ after ∧ word ∈ decorator.words
          ∧ Text.isBoundary before.getLast? word.head?
          ∧ Text.isBoundary word.getLast? after.head?)
      ∧ (∀ text : String, ∀ key ∈ decorator.words, ∀ before after,
        text.toList = before ++ key ++ after →
        Text.isBoundary before.getLast? key.head? → Text.isBoundary key.getLast? after.head? →
        (∀ front word back, decorator.Wraps text inLink front word back →
          front.length < before.length → front.length + word.length ≤ before.length) →
        ∃ word back, decorator.Wraps text inLink before word back ∧ key <+: word)
      ∧ ((∀ text, decorator.WrapsWholeWords text inLink)
        ↔ ∀ key ∈ decorator.words, Text.isWordAt key.head? ∧ Text.isWordAt key.getLast?) := by
  refine ⟨?_, ?_, ?_⟩
  . intro text before word after hwraps
    rw [Decorator.wraps_iff_isHit hoff] at hwraps
    exact ⟨hwraps.eq_append, Abbreviation.occurs_of_isHit hwraps⟩
  . intro text key hkey before after hs hstart hend hfree
    simp only [Decorator.wraps_iff_isHit hoff] at hfree ⊢
    have hne : key ≠ [] := by
      rintro rfl
      simp [Decorator.words] at hkey
    exact Abbreviation.exists_isHit_of_occurs hkey hne hs hstart hend hfree
  . constructor
    . intro h key hkey
      exact Decorator.isWordAt_of_wrapsWholeWords hoff hkey (h _)
    . intro hwords text
      exact Decorator.wrapsWholeWords_of_isWordAt hoff hwords text

/-- An abbreviation that ends in a sign is not wrapped where it stands alone, but before a word. -/
theorem wrapsWholeWords_fails
    : let decorator : Decorator :=
        { abbreviations := PropertyList.empty.insert "C++" "C plus plus"
          urlsLinked := false
          urlAttributes := .empty }
      (decorator.urlsLinked && !false) = false
        ∧ decorator.decorate "C++ and C++x" false
          = some [.text "C++ and ", .abbrStart "C plus plus", .text "C++", .endTag "abbr", .text "x"]
        ∧ ¬decorator.WrapsWholeWords "C++ and C++x" false
        ∧ ¬∀ text, decorator.WrapsWholeWords text false := by
  intro decorator
  have hoff : (decorator.urlsLinked && !false) = false := by rfl
  have hdecorate : decorator.decorate "C++ and C++x" false
      = some [.text "C++ and ", .abbrStart "C plus plus", .text "C++", .endTag "abbr",
        .text "x"] := by
    decide +kernel
  refine ⟨hoff, hdecorate, ?_, ?_⟩
  . intro h
    have hwraps : decorator.Wraps "C++ and C++x" false "C++ and ".toList "C++".toList ['x'] :=
      ⟨[.text "C++ and "], [.text "x"], "C plus plus", hdecorate, by simp [Markup.textIn],
        by simp [Markup.textIn]⟩
    have hword : Text.isWordAt (some 'x') = false := (h.alone _ _ _ hwraps).2
    revert hword
    decide
  . rw [(wrapsWholeWords_iff decorator false hoff).2.2]
    decide +kernel

end DirectedMarkdown
