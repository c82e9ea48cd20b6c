import DirectedMarkdown.Directive.Field

/-!
This module contains the slots of a directive set: each field has one, and a change to it leaves all
others as they are.
-/

namespace DirectedMarkdown.DirectiveSet

/-- The directives of a configuration without settings. -/
def initial : DirectiveSet where
  elementClosingStyle := Field.html5ElementSuffix.kind.initial
  abbreviations := Field.abbreviations.kind.initial
  linkAttributes := Field.linkAttributes.kind.initial
  externalLinkAttributes := Field.externalLinkAttributes.kind.initial
  imageAttributes := Field.imageAttributes.kind.initial
  externalImageAttributes := Field.externalImageAttributes.kind.initial
  codeClass := Field.codeClass.kind.initial
  codeBlockAttrOnParent := Field.codeBlockAttrParent.kind.initial
  tableClass := Field.tableClass.kind.initial
  tableAlignClass := Field.tableAlignClass.kind.initial
  footnoteLinkId := Field.footnoteLinkId.kind.initial
  footnoteBacklinkId := Field.footnoteBacklinkId.kind.initial
  footnoteClass := Field.footnoteClass.kind.initial
  footnoteLinkClass := Field.footnoteLinkClass.kind.initial
  footnoteBacklinkClass := Field.footnoteBacklinkClass.kind.initial
  footnoteLinkText := Field.footnoteLinkText.kind.initial
  footnoteBacklinkText := Field.footnoteBacklinkText.kind.initial
  urlsLinked := Field.setUrlsLinked.kind.initial
  breaksEnabled := Field.setBreaksEnabled.kind.initial

/-- The directive of a field. -/
def get (d : DirectiveSet) : (field : Field) → field.kind.Directive
  | .html5ElementSuffix => d.elementClosingStyle
  | .abbreviations => d.abbreviations
  | .linkAttributes => d.linkAttributes
  | .externalLinkAttributes => d.externalLinkAttributes
  | .imageAttributes => d.imageAttributes
  | .externalImageAttributes => d.externalImageAttributes
  | .codeClass => d.codeClass
  | .codeBlockAttrParent => d.codeBlockAttrOnParent
  | .tableClass => d.tableClass
  | .tableAlignClass => d.tableAlignClass
  | .footnoteLinkId => d.footnoteLinkId
  | .footnoteBacklinkId => d.footnoteBacklinkId
  | .footnoteClass => d.footnoteClass
  | .footnoteLinkClass => d.footnoteLinkClass
  | .footnoteBacklinkClass => d.footnoteBacklinkClass
  | .footnoteLinkText => d.footnoteLinkText
  | .footnoteBacklinkText => d.footnoteBacklinkText
  | .setUrlsLinked => d.urlsLinked
  | .setBreaksEnabled => d.breaksEnabled

/-- The set with another directive of a field. -/
def set (d : DirectiveSet) : (field : Field) → field.kind.Directive → DirectiveSet
  | .html5ElementSuffix, directive => { d with elementClosingStyle := directive }
  | .abbreviations, directive => { d with abbreviations := directive }
  | .linkAttributes, directive => { d with linkAttributes := directive }
  | .externalLinkAttributes, directive => { d with externalLinkAttributes := directive }
  | .imageAttributes, directive => { d with imageAttributes := directive }
  | .externalImageAttributes, directive => { d with externalImageAttributes := directive }
  | .codeClass, directive => { d with codeClass := directive }
  | .codeBlockAttrParent, directive => { d with codeBlockAttrOnParent := directive }
  | .tableClass, directive => { d with tableClass := directive }
  | .tableAlignClass, directive => { d with tableAlignClass := directive }
  | .footnoteLinkId, directive => { d with footnoteLinkId := directive }
  | .footnoteBacklinkId, directive => { d with footnoteBacklinkId := directive }
  | .footnoteClass, directive => { d with footnoteClass := directive }
  | .footnoteLinkClass, directive => { d with footnoteLinkClass := directive }
  | .footnoteBacklinkClass, directive => { d with footnoteBacklinkClass := directive }
  | .footnoteLinkText, directive => { d with footnoteLinkText := directive }
  | .footnoteBacklinkText, directive => { d with footnoteBacklinkText := directive }
  | .setUrlsLinked, directive => { d with urlsLinked := directive }
  | .setBreaksEnabled, directive => { d with breaksEnabled := directive }

theorem get_initial (field : Field) : initial.get field = field.kind.initial := by
  cases field <;> rfl

theorem get_set_self (d : DirectiveSet) (field : Field) (directive : field.kind.Directive)
    : (d.set field directive).get field = directive := by
  cases field <;> rfl

theorem get_set_of_ne (d : DirectiveSet) {field other : Field} (h : other ≠ field)
    (directive : field.kind.Directive) : (d.set field directive).get other = d.get other := by
  cases field <;> cases other <;> first | rfl | exact absurd rfl h

end DirectedMarkdown.DirectiveSet
