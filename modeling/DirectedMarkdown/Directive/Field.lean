import DirectedMarkdown.Directive.Set
import DirectedMarkdown.PropertyList.Parser
import DirectedMarkdown.Setting

/-!
This module contains the fields: the settings that have a meaning. Each has a kind, which says what
values it takes, what its directive is, and what the directive is if the setting is missing.
-/

namespace DirectedMarkdown

/-- What a field takes and gives. -/
inductive FieldKind where
  /-- The HTML5 switch. -/
  | elementSuffix
  /-- A property list, written with this separator between its entries. -/
  | propertyList (separator : String)
  /-- A switch with this default. -/
  | flag (default : Bool)
  /-- A text with this default. -/
  | text (default : String)
  /-- A text that may be missing. -/
  | optionalText
  deriving DecidableEq

namespace FieldKind

/-- The directive that a field of this kind gives. -/
def Directive : FieldKind → Type
  | elementSuffix => ClosingStyle
  | propertyList _ => PropertyList
  | flag _ => Bool
  | text _ => String
  | optionalText => Option String

/-- The word for the values that the kind takes. -/
def expected : FieldKind → String
  | elementSuffix | flag _ => "boolean"
  | propertyList _ | text _ | optionalText => "string"

/-- Whether the kind takes a value of this shape. -/
def accepts : FieldKind → Value → Bool
  | _, .null => true
  | elementSuffix, .flag _ | flag _, .flag _ => true
  | propertyList _, .text _ | text _, .text _ | optionalText, .text _ => true
  | _, _ => false

/-- The directive of a missing setting. -/
def initial : (kind : FieldKind) → kind.Directive
  | elementSuffix => ClosingStyle.selfClosingSlash
  | propertyList _ => PropertyList.empty
  | flag default => default
  | text default => default
  | optionalText => none

end FieldKind

/-- Why a snapshot has no directive set. -/
inductive CompileError where
  /-- An entry of a list has no value. -/
  | malformedPropertyEntry (field entry : String)
  /-- A value has the wrong shape. -/
  | invalidFieldType (field expected found : String)
  deriving DecidableEq

namespace CompileError

/-- The name of the setting at fault. -/
def field : CompileError → String
  | malformedPropertyEntry field _ => field
  | invalidFieldType field _ _ => field

def message : CompileError → String
  | malformedPropertyEntry field entry =>
    field ++ ": malformed property entry " ++ Text.quoted entry
      ++ " (expected `key=value` or `key:value`)"
  | invalidFieldType field expected found =>
    field ++ ": expected a " ++ expected ++ " value, found " ++ found

end CompileError

namespace FieldKind

/-- The directive for a value of the setting `name`. -/
def read (name : String) : (kind : FieldKind) → Value → Except CompileError kind.Directive
  | kind, .null => .ok kind.initial
  | elementSuffix, .flag html5 => .ok (ClosingStyle.ofHtml5 html5)
  | propertyList separator, .text list =>
    match PropertyList.parse list separator with
    | .ok entries => .ok entries
    | .error e => .error (.malformedPropertyEntry name e.entry)
  | flag _, .flag value => .ok value
  | text _, .text value => .ok value
  | optionalText, .text value => .ok (some value)
  | kind, value => .error (.invalidFieldType name kind.expected value.kindName)

end FieldKind

/-- The settings that have a meaning. -/
inductive Field where
  | html5ElementSuffix
  | abbreviations
  | linkAttributes
  | externalLinkAttributes
  | imageAttributes
  | externalImageAttributes
  | codeClass
  | codeBlockAttrParent
  | tableClass
  | tableAlignClass
  | footnoteLinkId
  | footnoteBacklinkId
  | footnoteClass
  | footnoteLinkClass
  | footnoteBacklinkClass
  | footnoteLinkText
  | footnoteBacklinkText
  | setUrlsLinked
  | setBreaksEnabled
  deriving DecidableEq

namespace Field

/-- All fields, in the order in which they are compiled. -/
def all : List Field :=
  [html5ElementSuffix, abbreviations, linkAttributes, externalLinkAttributes, imageAttributes,
    externalImageAttributes, codeClass, codeBlockAttrParent, tableClass, tableAlignClass,
    footnoteLinkId, footnoteBacklinkId, footnoteClass, footnoteLinkClass, footnoteBacklinkClass,
    footnoteLinkText, footnoteBacklinkText, setUrlsLinked, setBreaksEnabled]

/-- The name of the setting. -/
def name : Field → String
  | html5ElementSuffix => "html5ElementSuffix"
  | abbreviations => "abbreviations"
  | linkAttributes => "linkAttributes"
  | externalLinkAttributes => "externalLinkAttributes"
  | imageAttributes => "imageAttributes"
  | externalImageAttributes => "externalImageAttributes"
  | codeClass => "codeClass"
  | codeBlockAttrParent => "codeBlockAttrParent"
  | tableClass => "tableClass"
  | tableAlignClass => "tableAlignClass"
  | footnoteLinkId => "footnoteLinkId"
  | footnoteBacklinkId => "footnoteBacklinkId"
  | footnoteClass => "footnoteClass"
  | footnoteLinkClass => "footnoteLinkClass"
  | footnoteBacklinkClass => "footnoteBacklinkClass"
  | footnoteLinkText => "footnoteLinkText"
  | footnoteBacklinkText => "footnoteBacklinkText"
  | setUrlsLinked => "setUrlsLinked"
  | setBreaksEnabled => "setBreaksEnabled"

/-- The name of the directive in the JSON form of a directive set. -/
def directiveName : Field → String
  | html5ElementSuffix => "elementClosingStyle"
  | codeBlockAttrParent => "codeBlockAttrOnParent"
  | setUrlsLinked => "urlsLinked"
  | setBreaksEnabled => "breaksEnabled"
  | field => field.name

/-- The kind of the field. Abbreviations have lines of their own, attributes share one. -/
def kind : Field → FieldKind
  | html5ElementSuffix => .elementSuffix
  | abbreviations => .propertyList "\n"
  | linkAttributes | externalLinkAttributes | imageAttributes | externalImageAttributes =>
    .propertyList ","
  | codeClass => .text "language-%s"
  | codeBlockAttrParent => .flag false
  | tableClass | tableAlignClass | footnoteLinkText => .optionalText
  | footnoteLinkId => .text "fn:%s"
  | footnoteBacklinkId => .text "fnref%s:%s"
  | footnoteClass => .text "footnotes"
  | footnoteLinkClass => .text "footnote-ref"
  | footnoteBacklinkClass => .text "footnote-backref"
  | footnoteBacklinkText => .text "&#8617;"
  | setUrlsLinked => .flag true
  | setBreaksEnabled => .flag false

/-- The field with this name. -/
def ofName? (name : String) : Option Field :=
  all.find? (·.name = name)

end Field

end DirectedMarkdown
