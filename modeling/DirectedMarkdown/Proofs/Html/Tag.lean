import DirectedMarkdown.Html.Markup
import DirectedMarkdown.Proofs.Html.Escape

/-!
This module contains the tags in written HTML, as they are found without knowing what it was written
from: a tag goes from a `<` to the next `>`. What is escaped is no part of a tag.
-/

namespace DirectedMarkdown.Html

/-- What stands outside of tags. -/
def charsOutside (inTag : Bool) : List Char → List Char
  | [] => []
  | c :: rest =>
    if inTag then charsOutside (c != '>') rest
    else if c = '<' then charsOutside true rest
    else c :: charsOutside false rest

/-- The tags, where `tag` is what has been read of the first one, backwards. -/
def tagsFrom (tag : Option (List Char)) : List Char → List (List Char)
  | [] => tag.toList.map List.reverse
  | c :: rest =>
    match tag with
    | some read =>
      if c = '>' then (c :: read).reverse :: tagsFrom none rest
      else tagsFrom (some (c :: read)) rest
    | none => if c = '<' then tagsFrom (some [c]) rest else tagsFrom none rest

/-- Some HTML without its tags. -/
def outsideTags (html : String) : String :=
  String.ofList (charsOutside false html.toList)

/-- The tags in some HTML, in order. -/
def tags (html : String) : List String :=
  (tagsFrom none html.toList).map String.ofList

theorem charsOutside_append {text : List Char} (h : '<' ∉ text) (rest : List Char)
    : charsOutside false (text ++ rest) = text ++ charsOutside false rest := by
  induction text with
  | nil => rfl
  | cons c text ih =>
    rw [List.mem_cons, not_or] at h
    have hc : ¬c = '<' := fun heq => h.1 heq.symm
    simp [charsOutside, hc, ih h.2]

theorem tagsFrom_append {text : List Char} (h : '<' ∉ text) (rest : List Char)
    : tagsFrom none (text ++ rest) = tagsFrom none rest := by
  induction text with
  | nil => rfl
  | cons c text ih =>
    rw [List.mem_cons, not_or] at h
    have hc : ¬c = '<' := fun heq => h.1 heq.symm
    simp [tagsFrom, hc, ih h.2]

/-- All from a `<` to the next `>`. -/
def IsTag (s : List Char) : Prop :=
  ∃ body, '>' ∉ body ∧ s = '<' :: body ++ ['>']

theorem IsTag.charsOutside_append {tag : List Char} (h : IsTag tag) (rest : List Char)
    : charsOutside false (tag ++ rest) = charsOutside false rest := by
  obtain ⟨body, hbody, rfl⟩ := h
  have hinside : charsOutside true (body ++ '>' :: rest) = charsOutside false rest := by
    induction body with
    | nil => simp [charsOutside]
    | cons c body ih =>
      rw [List.mem_cons, not_or] at hbody
      have hc : (c != '>') = true := by simpa using fun heq => hbody.1 heq.symm
      simp only [List.cons_append, charsOutside, ↓reduceIte, hc]
      exact ih hbody.2
  simpa [charsOutside] using hinside

theorem IsTag.tagsFrom_append {tag : List Char} (h : IsTag tag) (rest : List Char)
    : tagsFrom none (tag ++ rest) = tag :: tagsFrom none rest := by
  obtain ⟨body, hbody, rfl⟩ := h
  -- The induction is on the body, whatever has been read of the tag before.
  have hinside : ∀ read, tagsFrom (some read) (body ++ '>' :: rest)
      = (read.reverse ++ body ++ ['>']) :: tagsFrom none rest := by
    induction body with
    | nil => simp [tagsFrom]
    | cons c body ih =>
      intro read
      rw [List.mem_cons, not_or] at hbody
      have hc : ¬c = '>' := fun heq => hbody.1 heq.symm
      simp [tagsFrom, hc, ih hbody.2]
  simpa [tagsFrom] using hinside ['<']

/-- Characters that neither start nor end a tag or a value in quotes. -/
def isInert (c : Char) : Bool :=
  !(c ∈ ['<', '>', '"'])

theorem notMem_of_inert {s : List Char} (h : ∀ c ∈ s, isInert c) : '<' ∉ s ∧ '>' ∉ s := by
  constructor
  . intro hmem
    exact absurd (h _ hmem) (by decide)
  . intro hmem
    exact absurd (h _ hmem) (by decide)

theorem isInert_of_mem_escapeChar {c d : Char} (h : d ∈ escapeChar c) : isInert d := by
  unfold escapeChar at h
  split at h
  . exact List.all_eq_true.mp (by decide) d h
  . exact List.all_eq_true.mp (by decide) d h
  . exact List.all_eq_true.mp (by decide) d h
  . exact List.all_eq_true.mp (by decide) d h
  . exact List.all_eq_true.mp (by decide) d h
  . next hlt hgt hquot _ =>
    rw [List.mem_singleton] at h
    subst h
    simp_all [isInert]

theorem isInert_of_mem_escape {s : String} {d : Char} (h : d ∈ (escape s).toList) : isInert d := by
  unfold escape escapeChars at h
  rw [String.toList_ofList, List.mem_flatMap] at h
  obtain ⟨c, _, hd⟩ := h
  exact isInert_of_mem_escapeChar hd

theorem isInert_hexDigit : ∀ n < 16, isInert (hexDigit n) := by
  decide

theorem isInert_of_mem_escapeUrlChar {c d : Char} (h : d ∈ escapeUrlChar c) : isInert d := by
  unfold escapeUrlChar at h
  split at h
  . next hsafe =>
    rw [List.mem_singleton] at h
    subst h
    simp only [isInert, List.mem_cons, List.not_mem_nil, or_false, Bool.not_eq_true',
      decide_eq_false_iff_not, not_or]
    refine ⟨?_, ?_, ?_⟩
    . rintro rfl
      exact absurd hsafe (by decide)
    . rintro rfl
      exact absurd hsafe (by decide)
    . rintro rfl
      exact absurd hsafe (by decide)
  . split at h
    . exact List.all_eq_true.mp (by decide) d h
    . split at h
      . exact List.all_eq_true.mp (by decide) d h
      . rw [List.mem_flatMap] at h
        obtain ⟨b, _, hd⟩ := h
        have hb := b.toNat_lt
        simp only [percentEncode, List.mem_cons, List.not_mem_nil, or_false] at hd
        obtain rfl | rfl | rfl := hd
        . decide
        . exact isInert_hexDigit _ (by omega)
        . exact isInert_hexDigit _ (by omega)

/-- No value of the attribute ends before its quotes do, and it does not end its tag. -/
def Attribute.IsClean (a : Attribute) : Prop :=
  isName a.name ∧ ∀ c ∈ a.written.toList, isInert c

theorem Attribute.IsClean.quote_notMem {a : Attribute} (h : a.IsClean)
    : '"' ∉ a.written.toList := by
  intro hmem
  exact absurd (h.2 _ hmem) (by decide)

theorem isInert_of_mem_written {a : Attribute} {d : Char}
    (h : d ∈ a.written.toList) : isInert d := by
  unfold Attribute.written at h
  split at h
  . exact isInert_of_mem_escape h
  . unfold escapeUrl at h
    rw [String.toList_ofList, List.mem_flatMap] at h
    obtain ⟨c, _, hd⟩ := h
    exact isInert_of_mem_escapeUrlChar hd

theorem Attribute.isClean_of_isName {a : Attribute} (h : isName a.name) : a.IsClean :=
  ⟨h, fun _ => isInert_of_mem_written⟩

theorem Attribute.isClean_of_mem_ofList {list : PropertyList} {a : Attribute} (h : a ∈ ofList list)
    : a.IsClean := by
  unfold ofList at h
  rw [List.mem_map] at h
  obtain ⟨entry, hentry, rfl⟩ := h
  rw [List.mem_filter] at hentry
  exact isClean_of_isName hentry.2

theorem Attribute.isNameChar_of_mem {name : String} (h : isName name) {c : Char}
    (hc : c ∈ name.toList) : isNameChar c := by
  unfold isName at h
  rw [Bool.and_eq_true, List.all_eq_true] at h
  exact h.2 c hc

theorem Attribute.notMem_name {name : String} (h : isName name) {c : Char}
    (hc : isNameChar c = false) : c ∉ name.toList := by
  intro hmem
  have := isNameChar_of_mem h hmem
  rw [hc] at this
  contradiction

theorem Attribute.notMem_renderAll {attributes : List Attribute}
    (h : ∀ a ∈ attributes, a.IsClean) {c : Char} (hc : c = '<' ∨ c = '>')
    : c ∉ (renderAll attributes).toList := by
  unfold renderAll
  rw [String.toList_join, List.flatMap_map, List.mem_flatMap]
  rintro ⟨a, ha, hmem⟩
  obtain ⟨hname, hvalue⟩ := h a ha
  have hnotName : c ∉ a.name.toList := by
    rcases hc with rfl | rfl
    . exact notMem_name hname (by decide)
    . exact notMem_name hname (by decide)
  have hnotValue : c ∉ a.written.toList := by
    rcases hc with rfl | rfl
    . exact (notMem_of_inert hvalue).1
    . exact (notMem_of_inert hvalue).2
  rcases hc with rfl | rfl <;> simp [render, hnotName, hnotValue] at hmem

theorem Markup.toList_renderAll (pieces : List Markup)
    : (renderAll pieces).toList = pieces.flatMap fun piece => piece.render.toList := by
  unfold renderAll
  rw [String.toList_join, List.flatMap_map]

theorem Markup.isTag_startTag {name : String} {attributes : List Attribute}
    (hname : '>' ∉ name.toList) (hclean : ∀ a ∈ attributes, a.IsClean)
    : IsTag (startTag name attributes).render.toList := by
  refine ⟨name.toList ++ (Attribute.renderAll attributes).toList, ?_, ?_⟩
  . rw [List.mem_append, not_or]
    exact ⟨hname, Attribute.notMem_renderAll hclean (.inr rfl)⟩
  . simp [render]

theorem Markup.isTag_endTag {name : String} (hname : '>' ∉ name.toList)
    : IsTag (endTag name).render.toList := by
  refine ⟨'/' :: name.toList, ?_, ?_⟩
  . rw [List.mem_cons, not_or]
    exact ⟨by decide, hname⟩
  . simp [render]

theorem charsOutside_text (content : String) (rest : List Char)
    : charsOutside false ((Markup.text content).render.toList ++ rest)
        = escapeChars content.toList ++ charsOutside false rest := by
  have hinert : ∀ c ∈ (escape content).toList, isInert c := fun _ => isInert_of_mem_escape
  have heq : (escape content).toList = escapeChars content.toList := String.toList_ofList
  rw [Markup.render, charsOutside_append (notMem_of_inert hinert).1, heq]

theorem tagsFrom_text (content : String) (rest : List Char)
    : tagsFrom none ((Markup.text content).render.toList ++ rest) = tagsFrom none rest := by
  have hinert : ∀ c ∈ (escape content).toList, isInert c := fun _ => isInert_of_mem_escape
  exact tagsFrom_append (notMem_of_inert hinert).1 rest

end DirectedMarkdown.Html
