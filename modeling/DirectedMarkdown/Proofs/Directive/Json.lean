import DirectedMarkdown.Proofs.Directive.Compile
import DirectedMarkdown.Proofs.Json.RoundTrip
import DirectedMarkdown.Proofs.PropertyList.Entries

/-!
This module contains the JSON form of directive sets as a format to send them in: a reader of the
form, which looks the directives up by their names, and the law that nothing is lost on the way.
-/

namespace DirectedMarkdown

namespace Json

/-- No object in the value has two members of one name. -/
inductive NamesDistinct : Json → Prop where
  | null : NamesDistinct .null
  | bool (value : Bool) : NamesDistinct (.bool value)
  | number (written : String) : NamesDistinct (.number written)
  | text (value : String) : NamesDistinct (.text value)
  | array {items : List Json} : (∀ item ∈ items, NamesDistinct item) → NamesDistinct (.array items)
  | object {members : List (String × Json)}
    : (members.map Prod.fst).Nodup → (∀ member ∈ members, NamesDistinct member.2)
      → NamesDistinct (.object members)

/-- The value of the member `name` of an object. -/
def member? (name : String) : Json → Option Json
  | object members => members.lookup name
  | _ => none

end Json

namespace ClosingStyle

/-- The style of this name. -/
def ofName? (name : String) : Option ClosingStyle :=
  [selfClosingSlash, bareAngleBracket].find? (·.name = name)

theorem ofName?_name (style : ClosingStyle) : ofName? style.name = some style := by
  cases style <;> rfl

end ClosingStyle

namespace PropertyList

/-- The entry that a member of an object stands for. -/
def entryOfMember? : String × Json → Option (String × String)
  | (key, .text value) => some (key, value)
  | _ => none

/-- The property list that an object stands for. -/
def ofJson? : Json → Option PropertyList
  | .object members => (members.mapM entryOfMember?).map ofList
  | _ => none

theorem mapM_entryOfMember? (entries : List (String × String))
    : (entries.map fun (key, value) => (key, Json.text value)).mapM entryOfMember?
        = some entries := by
  induction entries with
  | nil => rfl
  | cons entry entries ih =>
    rw [List.map_cons, List.mapM_cons, ih]
    rfl

theorem ofJson?_listJson (list : PropertyList)
    : ofJson? (DirectiveSet.listJson list) = some list := by
  unfold DirectiveSet.listJson ofJson?
  dsimp only
  rw [mapM_entryOfMember?, Option.map_some, ofList_entries]

end PropertyList

namespace FieldKind

/-- The JSON form of a directive. -/
def toJson : (kind : FieldKind) → kind.Directive → Json
  | elementSuffix => fun style : ClosingStyle => .text style.name
  | propertyList _ => DirectiveSet.listJson
  | flag _ => Json.bool
  | text _ => Json.text
  | optionalText => DirectiveSet.optionJson

/-- The directive with this JSON form. -/
def ofJson? : (kind : FieldKind) → Json → Option kind.Directive
  | elementSuffix, .text name => ClosingStyle.ofName? name
  | propertyList _, json => PropertyList.ofJson? json
  | flag _, .bool value => some value
  | text _, .text value => some value
  | optionalText, .null => some none
  | optionalText, .text value => some (some value)
  | _, _ => none

theorem ofJson?_toJson (kind : FieldKind) (directive : kind.Directive)
    : kind.ofJson? (kind.toJson directive) = some directive := by
  cases kind with
  | elementSuffix => exact ClosingStyle.ofName?_name directive
  | propertyList separator => exact PropertyList.ofJson?_listJson directive
  | flag default => rfl
  | text default => rfl
  | optionalText =>
    match directive with
    | none => rfl
    | some _ => rfl

theorem numberless_toJson (kind : FieldKind) (directive : kind.Directive)
    : (kind.toJson directive).Numberless := by
  cases kind with
  | elementSuffix => exact .text _
  | propertyList separator =>
    apply Json.Numberless.object
    rw [List.forall_mem_map]
    exact fun _ _ => .text _
  | flag default => exact .bool _
  | text default => exact .text _
  | optionalText =>
    match directive with
    | none => exact .null
    | some value => exact .text value

theorem namesDistinct_toJson (kind : FieldKind) (directive : kind.Directive)
    : (kind.toJson directive).NamesDistinct := by
  cases kind with
  | elementSuffix => exact .text _
  | propertyList separator =>
    refine .object ?_ (List.forall_mem_map.mpr fun _ _ => .text _)
    rw [List.map_map]
    exact PropertyList.nodup directive
  | flag default => exact .bool _
  | text default => exact .text _
  | optionalText =>
    match directive with
    | none => exact .null
    | some value => exact .text value

end FieldKind

namespace Field

/-- The directive of the field in the JSON form of a directive set. -/
def ofJson? (field : Field) (json : Json) : Option field.kind.Directive :=
  (json.member? field.directiveName).bind field.kind.ofJson?

theorem nodup_directiveName : (all.map directiveName).Nodup := by
  decide

end Field

namespace DirectiveSet

/-- The directive set with this JSON form. -/
def ofJson? (json : Json) : Option DirectiveSet := do
  let elementClosingStyle ← Field.html5ElementSuffix.ofJson? json
  let abbreviations ← Field.abbreviations.ofJson? json
  let linkAttributes ← Field.linkAttributes.ofJson? json
  let externalLinkAttributes ← Field.externalLinkAttributes.ofJson? json
  let imageAttributes ← Field.imageAttributes.ofJson? json
  let externalImageAttributes ← Field.externalImageAttributes.ofJson? json
  let codeClass ← Field.codeClass.ofJson? json
  let codeBlockAttrOnParent ← Field.codeBlockAttrParent.ofJson? json
  let tableClass ← Field.tableClass.ofJson? json
  let tableAlignClass ← Field.tableAlignClass.ofJson? json
  let footnoteLinkId ← Field.footnoteLinkId.ofJson? json
  let footnoteBacklinkId ← Field.footnoteBacklinkId.ofJson? json
  let footnoteClass ← Field.footnoteClass.ofJson? json
  let footnoteLinkClass ← Field.footnoteLinkClass.ofJson? json
  let footnoteBacklinkClass ← Field.footnoteBacklinkClass.ofJson? json
  let footnoteLinkText ← Field.footnoteLinkText.ofJson? json
  let footnoteBacklinkText ← Field.footnoteBacklinkText.ofJson? json
  let urlsLinked ← Field.setUrlsLinked.ofJson? json
  let breaksEnabled ← Field.setBreaksEnabled.ofJson? json
  return {
    elementClosingStyle, abbreviations, linkAttributes, externalLinkAttributes, imageAttributes,
    externalImageAttributes, codeClass, codeBlockAttrOnParent, tableClass, tableAlignClass,
    footnoteLinkId, footnoteBacklinkId, footnoteClass, footnoteLinkClass, footnoteBacklinkClass,
    footnoteLinkText, footnoteBacklinkText, urlsLinked, breaksEnabled }

/-- The JSON form has one member for each field, in the order of the fields. -/
theorem toJson_eq (d : DirectiveSet)
    : d.toJson
        = .object (Field.all.map fun field =>
            (field.directiveName, field.kind.toJson (d.get field))) :=
  rfl

theorem ofJson?_toJson_field (d : DirectiveSet) (field : Field)
    : field.ofJson? d.toJson = some (d.get field) := by
  have hmember : d.toJson.member? field.directiveName = some (field.kind.toJson (d.get field)) := by
    rw [toJson_eq]
    apply lookup_eq_some_of_mem
    . rw [List.map_map]
      exact Field.nodup_directiveName
    . exact List.mem_map_of_mem field.mem_all
  unfold Field.ofJson?
  rw [hmember, Option.bind_some, FieldKind.ofJson?_toJson]

theorem ofJson?_toJson (d : DirectiveSet) : ofJson? d.toJson = some d := by
  unfold ofJson?
  simp only [ofJson?_toJson_field]
  rfl

theorem numberless_toJson (d : DirectiveSet) : d.toJson.Numberless := by
  rw [toJson_eq]
  apply Json.Numberless.object
  rw [List.forall_mem_map]
  intro field _
  exact FieldKind.numberless_toJson field.kind (d.get field)

theorem namesDistinct_toJson (d : DirectiveSet) : d.toJson.NamesDistinct := by
  rw [toJson_eq]
  apply Json.NamesDistinct.object
  . rw [List.map_map]
    exact Field.nodup_directiveName
  . rw [List.forall_mem_map]
    intro field _
    exact FieldKind.namesDistinct_toJson field.kind (d.get field)

/-- The directive set that is sent as this text. -/
def ofJsonText? (text : String) : Option DirectiveSet :=
  (Json.parse text).bind ofJson?

theorem ofJsonText?_compact (d : DirectiveSet) : ofJsonText? d.toJson.compact = some d := by
  unfold ofJsonText?
  rw [Json.parse_compact d.numberless_toJson, Option.bind_some, ofJson?_toJson]

theorem compact_toJson_inj {d d' : DirectiveSet}
    : d'.toJson.compact = d.toJson.compact ↔ d' = d := by
  constructor
  . intro h
    have hjson := Json.compact_injective d'.numberless_toJson d.numberless_toJson h
    have hread := ofJson?_toJson d'
    rw [hjson, ofJson?_toJson] at hread
    exact (Option.some.inj hread).symm
  . rintro rfl
    rfl

end DirectiveSet

namespace Snapshot

/-- The text in which the directive set of a snapshot is sent. -/
def wireText (snapshot : Snapshot) : Except CompileError String :=
  (compile snapshot).map fun d => d.toJson.compact

end Snapshot

/--
The compact form of the JSON of a directive set is an object without repeated names. It gives the
directive set back, with its lists in their order, so that two snapshots have the same text just if
they compile to the same directive set.
-/
theorem wireText_faithful {snapshot : Snapshot} {d : DirectiveSet} (h : compile snapshot = .ok d)
    : ∃ text members, snapshot.wireText = .ok text
      ∧ Json.parse text = some (.object members)
      ∧ members.map Prod.fst = Field.all.map Field.directiveName
      ∧ (Json.object members).NamesDistinct
      ∧ DirectiveSet.ofJsonText? text = some d
      ∧ ∀ other : Snapshot, other.wireText = .ok text ↔ compile other = .ok d := by
  have htext {other : Snapshot} {d' : DirectiveSet} (hother : compile other = .ok d')
      : other.wireText = .ok d'.toJson.compact := by
    unfold Snapshot.wireText
    rw [hother]
    rfl
  have hjson := d.toJson_eq
  refine ⟨d.toJson.compact, _, htext h, ?_, ?_, hjson ▸ d.namesDistinct_toJson,
    d.ofJsonText?_compact, ?_⟩
  . rw [Json.parse_compact d.numberless_toJson, hjson]
  . rw [List.map_map]
    rfl
  . intro other
    refine ⟨?_, fun hother => htext hother⟩
    intro hsent
    cases hother : compile other with
    | ok d' =>
      rw [htext hother, Except.ok.injEq, DirectiveSet.compact_toJson_inj] at hsent
      rw [hsent]
    | error e =>
      unfold Snapshot.wireText at hsent
      rw [hother] at hsent
      contradiction

/-- A list keeps its order, and marks of the format, control characters and far letters stay. -/
theorem wireText_faithful_marks
    : let settings : List (String × Value) :=
        [("abbreviations", .text "zé=1\na=\x7d\x7b,\nzé=\"\\\x01\u2028;"),
          ("codeClass", .text "\x1f\r😀"), ("tableClass", .null)]
      let snapshot := Snapshot.ofList settings
      let d := { DirectiveSet.initial with
        abbreviations := .ofList [("zé", "\"\\\x01\u2028;"), ("a", "\x7d\x7b,")]
        codeClass := "\x1f\r😀" }
      compile snapshot = .ok d
        ∧ ∃ text members, snapshot.wireText = .ok text
          ∧ Json.parse text = some (.object members)
          ∧ (Json.object members).NamesDistinct
          ∧ DirectiveSet.ofJsonText? text = some d := by
  intro settings snapshot d
  have h : compile snapshot = .ok d := by rfl
  obtain ⟨text, members, hsent, hparse, _, hdistinct, hread, _⟩ := wireText_faithful h
  exact ⟨h, text, members, hsent, hparse, hdistinct, hread⟩

end DirectedMarkdown
