import DirectedMarkdown.Proofs.Html.Tag
import DirectedMarkdown.Proofs.List.Append
import Mathlib.Data.List.Forall2

/-!
This module contains the text of attributes as a sequence of names and quoted values. Whatever is in
a property list, its text can be read in one way only: as the attributes with a name that can be
written, in order.
-/

namespace DirectedMarkdown.Html

/-- A text read as attributes: a space, a name up to `=`, and a value between quotes. -/
inductive AttributeSequence : List Char → List (List Char × List Char) → Prop where
  | nil : AttributeSequence [] []
  | cons {name value rest : List Char} {pairs : List (List Char × List Char)}
    (hname : '=' ∉ name) (hvalue : '"' ∉ value) (hrest : AttributeSequence rest pairs)
    : AttributeSequence (' ' :: (name ++ '=' :: '"' :: (value ++ '"' :: rest)))
      ((name, value) :: pairs)

theorem AttributeSequence.unique {s : List Char} {pairs pairs' : List (List Char × List Char)}
    (h : AttributeSequence s pairs) (h' : AttributeSequence s pairs') : pairs' = pairs := by
  induction h generalizing pairs' with
  | nil =>
    cases h'
    rfl
  | cons hname hvalue _ ih =>
    generalize hs : ' ' :: _ = s at h'
    cases h' with
    | nil => contradiction
    | cons hname' hvalue' hrest' =>
      rw [List.cons.injEq] at hs
      obtain ⟨rfl, htail⟩ := append_cons_inj hname hname' hs.2
      rw [List.cons.injEq] at htail
      obtain ⟨rfl, rfl⟩ := append_cons_inj hvalue hvalue' htail.2
      rw [ih hrest']

namespace Attribute

theorem toList_render_append (a : Attribute) (rest : List Char)
    : a.render.toList ++ rest
        = ' ' :: (a.name.toList ++ '=' :: '"' :: (a.written.toList ++ '"' :: rest)) := by
  simp [render]

theorem toList_renderAll_cons (a : Attribute) (attributes : List Attribute)
    : (renderAll (a :: attributes)).toList
        = a.render.toList ++ (renderAll attributes).toList := by
  simp [renderAll]

variable {attributes : List Attribute}

theorem attributeSequence_renderAll (h : ∀ a ∈ attributes, a.IsClean)
    : AttributeSequence (renderAll attributes).toList
        (attributes.map fun a => (a.name.toList, a.written.toList)) := by
  induction attributes with
  | nil => exact .nil
  | cons a attributes ih =>
    rw [List.forall_mem_cons] at h
    rw [toList_renderAll_cons, toList_render_append, List.map_cons]
    apply AttributeSequence.cons
    . exact notMem_name h.1.1 (by decide)
    . exact h.1.quote_notMem
    . exact ih h.2

theorem count_quote_renderAll (h : ∀ a ∈ attributes, a.IsClean)
    : (renderAll attributes).toList.count '"' = 2 * attributes.length := by
  induction attributes with
  | nil => rfl
  | cons a attributes ih =>
    rw [List.forall_mem_cons] at h
    have hname : a.name.toList.count '"' = 0 := by
      rw [List.count_eq_zero]
      exact notMem_name h.1.1 (by decide)
    have hvalue : a.written.toList.count '"' = 0 := by
      rw [List.count_eq_zero]
      exact h.1.quote_notMem
    rw [toList_renderAll_cons, toList_render_append]
    simp only [List.count_cons, List.count_append, hname, hvalue, ih h.2, List.length_cons]
    simp
    omega

theorem unescape_written_ofEntry {entry : String × String} (h : entry.1 ∉ ["href", "src"])
    : unescape (ofEntry entry).written = entry.2 := by
  simp only [List.mem_cons, List.not_mem_nil, or_false] at h
  unfold ofEntry written
  rw [if_neg h]
  exact unescape_escape entry.2

end Attribute

/--
The text of a property list is read as just those pairs whose name is one of an attribute, in order.
A value that is no URL is what its escapes stand for. Nothing in the text opens or closes a tag, and
the only quotes are those around the values.
-/
theorem attributes_read_back (list : PropertyList)
    : ∃ pairs, (∀ read,
        AttributeSequence (Attribute.renderAll (Attribute.ofList list)).toList read ↔ read = pairs)
      ∧ List.Forall₂ (fun entry pair => pair.1 = entry.1.toList
        ∧ (entry.1 ∉ ["href", "src"] → unescapeChars pair.2 = entry.2.toList))
        (list.entries.filter fun entry => Attribute.isName entry.1) pairs
      ∧ '<' ∉ (Attribute.renderAll (Attribute.ofList list)).toList
      ∧ '>' ∉ (Attribute.renderAll (Attribute.ofList list)).toList
      ∧ (Attribute.renderAll (Attribute.ofList list)).toList.count '"' = 2 * pairs.length := by
  have hclean : ∀ a ∈ Attribute.ofList list, a.IsClean :=
    fun _ => Attribute.isClean_of_mem_ofList
  have hsequence := Attribute.attributeSequence_renderAll hclean
  refine ⟨(Attribute.ofList list).map fun a => (a.name.toList, a.written.toList), ?_, ?_, ?_, ?_,
    ?_⟩
  . intro read
    constructor
    . exact hsequence.unique
    . rintro rfl
      exact hsequence
  . unfold Attribute.ofList
    rw [List.map_map, List.forall₂_map_right_iff, List.forall₂_same]
    intro entry _
    refine ⟨rfl, ?_⟩
    intro hname
    have hvalue := congrArg String.toList (Attribute.unescape_written_ofEntry hname)
    unfold unescape at hvalue
    rw [String.toList_ofList] at hvalue
    exact hvalue
  . exact Attribute.notMem_renderAll hclean (.inl rfl)
  . exact Attribute.notMem_renderAll hclean (.inr rfl)
  . rw [Attribute.count_quote_renderAll hclean, List.length_map]

/-- Names that cannot be written are left out, and their neighbours stay. -/
example
    : Attribute.renderAll (Attribute.ofList (.ofList [("", "orphan"), ("data x", "1"),
        ("on\"click", "y"), ("data-id", "\"> <"), ("=", "2"), ("href", "a b\"")]))
      = " data-id=\"&quot;&gt; &lt;\" href=\"a%20b%22\"" := by
  decide +kernel

end DirectedMarkdown.Html
