import DirectedMarkdown.Proofs.Html.AttributeSequence
import DirectedMarkdown.Proofs.Html.Decoding
import DirectedMarkdown.Proofs.Html.Issued

/-!
This module contains the reading of start tags by the rules of HTML, character by character. A tag
that is written is read as its element and its attributes, with the names in lower case.
-/

namespace DirectedMarkdown.Html

/-- Where in a tag a reader is. -/
inductive TagPlace where
  | element
  /-- Between attributes. -/
  | gap
  | name
  | afterName
  | beforeValue
  | quoted (mark : Char)
  | unquoted
  | closed
  deriving DecidableEq

def isTagSpace (c : Char) : Bool :=
  c ∈ ['\t', '\n', '\x0c', '\r', ' ']

/-- What has been read of a tag, the last attribute first. -/
structure TagReader where
  place : TagPlace
  element : List Char
  attributes : List (List Char × List Char)

namespace TagReader

def moveTo (reader : TagReader) (place : TagPlace) : TagReader :=
  { reader with place }

/-- Starts an attribute with the first character of its name. -/
def startName (reader : TagReader) (c : Char) : TagReader :=
  { reader with place := .name, attributes := ([c.toLower], []) :: reader.attributes }

def addToName (reader : TagReader) (c : Char) : TagReader :=
  { reader with
    attributes := reader.attributes.modifyHead fun (name, value) => (name ++ [c.toLower], value) }

def addToValue (reader : TagReader) (c : Char) : TagReader :=
  { reader with
    attributes := reader.attributes.modifyHead fun (name, value) => (name, value ++ [c]) }

/-- A slash outside of values is as good as a space. -/
def step (reader : TagReader) (c : Char) : TagReader :=
  match reader.place with
  | .element =>
    if isTagSpace c || c = '/' then reader.moveTo .gap
    else if c = '>' then reader.moveTo .closed
    else { reader with element := reader.element ++ [c.toLower] }
  | .gap =>
    if isTagSpace c || c = '/' then reader
    else if c = '>' then reader.moveTo .closed
    else reader.startName c
  | .name =>
    if isTagSpace c then reader.moveTo .afterName
    else if c = '/' then reader.moveTo .gap
    else if c = '>' then reader.moveTo .closed
    else if c = '=' then reader.moveTo .beforeValue
    else reader.addToName c
  | .afterName =>
    if isTagSpace c then reader
    else if c = '/' then reader.moveTo .gap
    else if c = '>' then reader.moveTo .closed
    else if c = '=' then reader.moveTo .beforeValue
    else reader.startName c
  | .beforeValue =>
    if isTagSpace c then reader
    else if c = '"' ∨ c = '\'' then reader.moveTo (.quoted c)
    else if c = '>' then reader.moveTo .closed
    else (reader.moveTo .unquoted).addToValue c
  | .quoted mark => if c = mark then reader.moveTo .gap else reader.addToValue c
  | .unquoted =>
    if isTagSpace c then reader.moveTo .gap
    else if c = '>' then reader.moveTo .closed
    else reader.addToValue c
  | .closed => reader

/-- Reads up to the end of the tag and answers with what is behind it, too. -/
def read (reader : TagReader) : List Char → Option (TagReader × List Char)
  | [] => none
  | c :: rest =>
    if (reader.step c).place = .closed then some (reader.step c, rest)
    else (reader.step c).read rest

end TagReader

/-- A text with the letters of ASCII in lower case. -/
def lower (s : String) : String :=
  String.ofList (s.toList.map Char.toLower)

/-- A start tag as it is read. -/
structure StartTag where
  element : String
  /-- The names in lower case, and the values. -/
  attributes : List (String × String)
  deriving DecidableEq

/-- The start tag at the start of a text, and what is behind it. -/
def StartTag.read : List Char → Option (StartTag × List Char)
  | '<' :: c :: rest =>
    if c.isAlpha then
      (TagReader.read ⟨.element, [c.toLower], []⟩ rest).map fun (reader, rest) =>
        (⟨String.ofList reader.element, reader.attributes.reverse.map fun (name, value) =>
          (String.ofList name, String.ofList (decodeReferences value))⟩, rest)
    else
      none
  | _ => none

/-- An attribute of a tag, as it is read. -/
def Attribute.asRead (a : Attribute) : String × String :=
  (lower a.name, String.ofList (decodeReferences a.written.toList))

/-- The value of an attribute. Of several ones with the name, the first one counts. -/
def StartTag.value? (tag : StartTag) (name : String) : Option String :=
  tag.attributes.lookup (lower name)

/-- A character that is read as it is in the name of an element. -/
def isElementChar (c : Char) : Bool :=
  c.toLower = c && !isTagSpace c && c ≠ '/' && c ≠ '>'

theorem isElementChar_of_mem_names {name : String} (h : name ∈ pairedNames ++ voidNames)
    : name.toList.head?.any Char.isAlpha ∧ name.toList.all isElementChar := by
  revert name
  decide

namespace TagReader

theorem read_cons {reader : TagReader} {c : Char} (h : (reader.step c).place ≠ .closed)
    (rest : List Char) : reader.read (c :: rest) = (reader.step c).read rest := by
  rw [read, if_neg h]

theorem isTagSpace_of_isNameChar {c : Char} (h : Attribute.isNameChar c)
    : isTagSpace c = false ∧ c ≠ '/' ∧ c ≠ '>' ∧ c ≠ '=' := by
  have hno : ∀ d ∈ ['\t', '\n', '\x0c', '\r', ' ', '/', '>', '='], !Attribute.isNameChar d :=
    List.all_eq_true.mp (by decide)
  have hne : ∀ d ∈ ['\t', '\n', '\x0c', '\r', ' ', '/', '>', '='], c ≠ d := by
    rintro d hd rfl
    simpa [h] using hno c hd
  refine ⟨?_, ?_, ?_, ?_⟩
  . unfold isTagSpace
    rw [decide_eq_false_iff_not]
    intro hmem
    apply hne c _ rfl
    exact List.mem_append_left ['/', '>', '='] hmem
  . exact hne '/' (by simp)
  . exact hne '>' (by simp)
  . exact hne '=' (by simp)

variable {element name value : List Char} {attributes : List (List Char × List Char)}

/-- Characters that are read one by one into the same text, as `next` writes them. -/
theorem read_collect (reader : List Char → TagReader) (next : Char → Char) {more : List Char}
    (hopen : ∀ text, (reader text).place ≠ .closed)
    (hstep : ∀ c ∈ more, ∀ text, (reader text).step c = reader (text ++ [next c]))
    (text rest : List Char)
    : (reader text).read (more ++ rest) = (reader (text ++ more.map next)).read rest := by
  induction more generalizing text with
  | nil => simp
  | cons c more ih =>
    rw [List.forall_mem_cons] at hstep
    have hc : (reader text).step c = reader (text ++ [next c]) := hstep.1 text
    rw [List.cons_append, read_cons (by rw [hc]; exact hopen _), hc, ih hstep.2, List.append_assoc]
    rfl

theorem read_element {more : List Char} (h : ∀ c ∈ more, isElementChar c) (rest : List Char)
    : (TagReader.mk .element element attributes).read (more ++ rest)
        = (TagReader.mk .element (element ++ more) attributes).read rest := by
  nth_rewrite 2 [← List.map_id more]
  apply read_collect (fun text => ⟨.element, text, attributes⟩) id
  . simp
  . intro c hc text
    obtain ⟨⟨⟨hlower, hspace⟩, hslash⟩, hclose⟩ :
        ((c.toLower = c ∧ isTagSpace c = false) ∧ c ≠ '/') ∧ c ≠ '>' := by
      simpa [isElementChar] using h c hc
    simp [step, hlower, hspace, hslash, hclose]

theorem read_name {more : List Char} (h : ∀ c ∈ more, Attribute.isNameChar c) (rest : List Char)
    : (TagReader.mk .name element ((name, value) :: attributes)).read (more ++ rest)
        = (TagReader.mk .name element
          ((name ++ more.map Char.toLower, value) :: attributes)).read rest := by
  apply read_collect (fun text => ⟨.name, element, (text, value) :: attributes⟩) Char.toLower
  . simp
  . intro c hc text
    obtain ⟨hspace, hslash, hclose, hequals⟩ := isTagSpace_of_isNameChar (h c hc)
    simp [step, hspace, hslash, hclose, hequals, addToName]

theorem read_quoted {more : List Char} (h : '"' ∉ more) (rest : List Char)
    : (TagReader.mk (.quoted '"') element ((name, value) :: attributes)).read (more ++ rest)
        = (TagReader.mk (.quoted '"') element ((name, value ++ more) :: attributes)).read rest := by
  nth_rewrite 2 [← List.map_id more]
  apply read_collect (fun text => ⟨.quoted '"', element, (name, text) :: attributes⟩) id
  . simp
  . intro c hc text
    have hne : c ≠ '"' := by
      rintro rfl
      exact h hc
    simp [step, hne, addToValue]

variable {place : TagPlace}

theorem read_attribute (hplace : place = .element ∨ place = .gap) {a : Attribute} (h : a.IsClean)
    (rest : List Char)
    : (TagReader.mk place element attributes).read (a.render.toList ++ rest)
        = (TagReader.mk .gap element
          ((a.name.toList.map Char.toLower, a.written.toList) :: attributes)).read rest := by
  have hspace : (TagReader.mk place element attributes).step ' ' = ⟨.gap, element, attributes⟩ := by
    rcases hplace with rfl | rfl
    . rfl
    . rfl
  obtain ⟨c, more, hname⟩ : ∃ c more, a.name.toList = c :: more := by
    apply List.exists_cons_of_ne_nil
    have hname := h.1
    unfold Attribute.isName at hname
    simp_all
  have hchars : ∀ d ∈ c :: more, Attribute.isNameChar d := by
    intro d hd
    rw [← hname] at hd
    exact Attribute.isNameChar_of_mem h.1 hd
  rw [List.forall_mem_cons] at hchars
  obtain ⟨hc, hmore⟩ := hchars
  obtain ⟨hcspace, hslash, hclose, -⟩ := isTagSpace_of_isNameChar hc
  have hstart : (TagReader.mk .gap element attributes).step c
      = ⟨.name, element, ([c.toLower], []) :: attributes⟩ := by
    simp [step, hcspace, hslash, hclose, startName]
  rw [Attribute.toList_render_append, read_cons (by simp [hspace]), hspace, hname, List.cons_append,
    read_cons (by simp [hstart]), hstart, read_name hmore]
  rw [read_cons (by simp [step, isTagSpace, moveTo]),
    read_cons (by simp [step, isTagSpace, moveTo])]
  show (TagReader.mk (.quoted '"') element ((_, []) :: attributes)).read _ = _
  rw [read_quoted h.quote_notMem, read_cons (by simp [step, moveTo])]
  rfl

theorem read_renderAll (hplace : place = .element ∨ place = .gap) {written : List Attribute}
    (h : ∀ a ∈ written, a.IsClean) (rest : List Char)
    : ∃ last, (last = .element ∨ last = .gap)
        ∧ (TagReader.mk place element attributes).read
          ((Attribute.renderAll written).toList ++ rest)
        = (TagReader.mk last element
          ((written.map fun a => (a.name.toList.map Char.toLower, a.written.toList)).reverse
            ++ attributes)).read rest := by
  induction written generalizing place attributes with
  | nil => exact ⟨place, hplace, rfl⟩
  | cons a written ih =>
    rw [List.forall_mem_cons] at h
    obtain ⟨last, hlast, hread⟩ := ih (.inr rfl) h.2
    refine ⟨last, hlast, ?_⟩
    rw [Attribute.toList_renderAll_cons, List.append_assoc, read_attribute hplace h.1, hread]
    simp

/-- However the tag is closed, the reader is behind it then. -/
theorem read_suffix (hplace : place = .element ∨ place = .gap) (style : ClosingStyle)
    (rest : List Char)
    : (TagReader.mk place element attributes).read (style.suffix.toList ++ rest)
        = some (⟨.closed, element, attributes⟩, rest) := by
  rcases hplace with rfl | rfl
  all_goals
    cases style with
    | selfClosingSlash => rfl
    | bareAngleBracket => rfl

end TagReader

namespace StartTag

variable {name : String} {attributes : List Attribute}

theorem read_append (hname : name ∈ pairedNames ++ voidNames) (h : ∀ a ∈ attributes, a.IsClean)
    (style : ClosingStyle) (rest : List Char)
    : read ('<' :: (name.toList ++ ((Attribute.renderAll attributes).toList
        ++ (style.suffix.toList ++ rest))))
        = some (⟨name, attributes.map Attribute.asRead⟩, rest) := by
  obtain ⟨hfirst, hchars⟩ := isElementChar_of_mem_names hname
  cases hlist : name.toList with
  | nil => simp [hlist] at hfirst
  | cons c more =>
    rw [hlist, List.all_cons, Bool.and_eq_true, List.all_eq_true] at hchars
    have hlower : c.toLower = c := by
      have := hchars.1
      simp only [isElementChar, Bool.and_eq_true, decide_eq_true_eq] at this
      exact this.1.1.1
    have halpha : c.isAlpha := by simpa [hlist] using hfirst
    obtain ⟨last, hlast, hread⟩ : ∃ last, (last = .element ∨ last = .gap)
        ∧ (TagReader.mk .element ([c] ++ more) []).read _ = (TagReader.mk last _ _).read _ :=
      TagReader.read_renderAll (.inl rfl) h (style.suffix.toList ++ rest)
    rw [List.cons_append, read, if_pos halpha, hlower, TagReader.read_element hchars.2, hread,
      TagReader.read_suffix hlast]
    simp [← hlist, lower, Attribute.asRead]

theorem read_startTag (hname : name ∈ pairedNames) (h : ∀ a ∈ attributes, a.IsClean)
    (rest : List Char)
    : read ((Markup.startTag name attributes).render.toList ++ rest)
        = some (⟨name, attributes.map Attribute.asRead⟩, rest) := by
  rw [← read_append (List.mem_append_left _ hname) h .bareAngleBracket rest]
  simp [Markup.render, ClosingStyle.suffix]

theorem read_voidTag (hname : name ∈ voidNames) (h : ∀ a ∈ attributes, a.IsClean)
    (style : ClosingStyle) (rest : List Char)
    : read ((Markup.voidTag name attributes style).render.toList ++ rest)
        = some (⟨name, attributes.map Attribute.asRead⟩, rest) := by
  rw [← read_append (List.mem_append_right _ hname) h style rest]
  simp [Markup.render]

end StartTag

end DirectedMarkdown.Html
