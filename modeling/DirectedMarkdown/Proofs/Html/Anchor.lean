import DirectedMarkdown.Proofs.Html.Issued
import DirectedMarkdown.Proofs.Output.EmissionSide

/-!
This module contains the tags of anchors in written HTML, as they are found without knowing what it
was written from: wherever `<a` or `</a` stands as a whole name. What is issued has them just where
it opens or closes an anchor.
-/

namespace DirectedMarkdown

/-- Whether the side opens or closes an anchor. -/
def Side.isAnchor : Side → Bool
  | opens (.element name) | closes (.element name) => name == "a"
  | _ => false

namespace Html

/-- Whether the name of a tag ends before this text. -/
def endsName : List Char → Bool
  | [] => false
  | c :: _ => c ∈ [' ', '\t', '\n', '\x0c', '\r', '/', '>']

/-- Whether the name of a tag that starts here is that of an anchor. -/
def namesAnchor : List Char → Bool
  | [] => false
  | c :: rest => c ∈ ['a', 'A'] && endsName rest

/-- The side of an anchor that stands behind a `<`. -/
def anchorSide? : List Char → Option Side
  | '/' :: rest => if namesAnchor rest then some (.closes (.element "a")) else none
  | rest => if namesAnchor rest then some (.opens (.element "a")) else none

def anchorsFrom : List Char → List Side
  | [] => []
  | c :: rest => (if c = '<' then anchorSide? rest else none).toList ++ anchorsFrom rest

/-- What opens and closes anchors in some HTML, in order. -/
def anchors (html : String) : List Side :=
  anchorsFrom html.toList

theorem anchorsFrom_eq_nil {s : List Char} (h : '<' ∉ s) : anchorsFrom s = [] := by
  induction s with
  | nil => rfl
  | cons c s ih =>
    rw [List.mem_cons, not_or] at h
    rw [anchorsFrom, if_neg (fun heq => h.1 heq.symm), ih h.2]
    rfl

theorem anchorsFrom_tag {body : List Char} (h : '<' ∉ body)
    : anchorsFrom ('<' :: body) = (anchorSide? body).toList := by
  rw [anchorsFrom, if_pos rfl, anchorsFrom_eq_nil h, List.append_nil]

theorem anchorSide?_of_head? {s : List Char} (h : s.head? ∉ [some 'a', some 'A', some '/'])
    : anchorSide? s = none := by
  unfold anchorSide?
  split
  . simp at h
  . cases s with
    | nil => rfl
    | cons c s => simp_all [namesAnchor]

/-- Of the elements with an end tag, only anchors have this name. -/
theorem namesAnchor_of_mem_pairedNames {name : String} (h : name ∈ pairedNames) {rest : List Char}
    (hrest : endsName rest) : namesAnchor (name.toList ++ rest) = (name == "a") := by
  unfold pairedNames at h
  simp only [List.mem_cons, List.not_mem_nil, or_false] at h
  rcases h with rfl | rfl | rfl | rfl | rfl | rfl | rfl | rfl | rfl | rfl | rfl | rfl | rfl | rfl <;>
    simp_all [namesAnchor, endsName]

theorem endsName_attributes (attributes : List Attribute) (rest : List Char)
    : endsName ((Attribute.renderAll attributes).toList ++ '>' :: rest) := by
  cases attributes with
  | nil => simp [Attribute.renderAll, endsName]
  | cons a attributes => simp [Attribute.renderAll, Attribute.render, endsName]

theorem notMem_of_mem_pairedNames {name : String} (h : name ∈ pairedNames)
    : '<' ∉ name.toList ∧ name.toList.head? ≠ some '/' ∧ name.toList ≠ [] := by
  revert name
  decide

theorem notMem_of_mem_voidNames {name : String} (h : name ∈ voidNames) : '<' ∉ name.toList := by
  revert name
  decide

namespace Markup

variable {style : ClosingStyle} {raw : String → Prop} {name : String}
  {attributes : List Attribute}

theorem anchors_startTag (hname : name ∈ pairedNames) (hclean : ∀ a ∈ attributes, a.IsClean)
    : anchors (startTag name attributes).render
        = if name = "a" then [.opens (.element "a")] else [] := by
  obtain ⟨hnotName, hslash, hne⟩ := notMem_of_mem_pairedNames hname
  have hends := endsName_attributes attributes []
  have hrender : (startTag name attributes).render.toList
      = '<' :: (name.toList ++ ((Attribute.renderAll attributes).toList ++ ['>'])) := by
    simp [render]
  have hbody : '<' ∉ name.toList ++ ((Attribute.renderAll attributes).toList ++ ['>']) := by
    simp [hnotName, Attribute.notMem_renderAll hclean (.inl rfl)]
  rw [anchors, hrender, anchorsFrom_tag hbody]
  unfold anchorSide?
  split
  . next rest heq =>
    have hhead := congrArg List.head? heq
    rw [head?_append_of_ne_nil hne] at hhead
    exact absurd hhead hslash
  . rw [namesAnchor_of_mem_pairedNames hname hends]
    by_cases h : name = "a" <;> simp [h]

theorem anchors_endTag (hname : name ∈ pairedNames)
    : anchors (endTag name).render = if name = "a" then [.closes (.element "a")] else [] := by
  have hrender : (endTag name).render.toList = '<' :: ('/' :: (name.toList ++ ['>'])) := by
    simp [render]
  have hbody : '<' ∉ '/' :: (name.toList ++ ['>']) := by
    simp [(notMem_of_mem_pairedNames hname).1]
  rw [anchors, hrender, anchorsFrom_tag hbody, anchorSide?]
  rw [namesAnchor_of_mem_pairedNames hname rfl]
  by_cases h : name = "a" <;> simp [h]

theorem anchors_voidTag (hname : name ∈ voidNames) (hclean : ∀ a ∈ attributes, a.IsClean)
    : anchors (voidTag name attributes style).render = [] := by
  have hhead : (name.toList ++ ((Attribute.renderAll attributes).toList
      ++ style.suffix.toList)).head? ∉ [some 'a', some 'A', some '/'] := by
    have hfirst := head?_of_mem_voidNames hname
    rw [List.head?_append]
    cases hnameHead : name.toList.head? with
    | none => simp [hnameHead] at hfirst
    | some c =>
      rw [hnameHead] at hfirst
      simp only [List.mem_cons, Option.some.injEq, List.not_mem_nil, or_false] at hfirst
      rcases hfirst with rfl | rfl | rfl <;> simp
  have hsuffix : '<' ∉ style.suffix.toList := by cases style <;> decide
  have hrender : (voidTag name attributes style).render.toList
      = '<' :: (name.toList ++ ((Attribute.renderAll attributes).toList
        ++ style.suffix.toList)) := by
    simp [render]
  have hbody : '<' ∉ name.toList ++ ((Attribute.renderAll attributes).toList
      ++ style.suffix.toList) := by
    simp [notMem_of_mem_voidNames hname, Attribute.notMem_renderAll hclean (.inl rfl), hsuffix]
  rw [anchors, hrender, anchorsFrom_tag hbody, anchorSide?_of_head? hhead]
  rfl

/-- Where the raw texts have no anchors in them, those that are found are those that were issued. -/
theorem Issued.anchors_render {piece : Markup} (h : piece.Issued style raw)
    (hraw : ∀ content, raw content → anchors content = [])
    : anchors piece.render = piece.side?.toList.filter Side.isAnchor := by
  cases h with
  | @startTag name attributes hname hclean =>
    rw [anchors_startTag hname hclean]
    by_cases heq : name = "a" <;> simp [side?, Side.isAnchor, heq]
  | @endTag name hname =>
    rw [anchors_endTag hname]
    by_cases heq : name = "a" <;> simp [side?, Side.isAnchor, heq]
  | voidTag hname hclean => exact anchors_voidTag hname hclean
  | text content =>
    exact anchorsFrom_eq_nil (notMem_of_inert fun _ => isInert_of_mem_escape).1
  | verbatim hcontent => exact anchorsFrom_eq_nil hcontent
  | raw hcontent => exact hraw _ hcontent

end Markup

end Html

end DirectedMarkdown
