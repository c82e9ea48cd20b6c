import DirectedMarkdown.Output.Basic
import DirectedMarkdown.Proofs.Html.Escape

/-!
This module contains the texts of attributes, as they stand between their quotes in the start tags
of an output.
-/

namespace DirectedMarkdown

namespace Html

/-- The text of an attribute in a start tag of an element. -/
def Markup.attributeText? (element name : String) : Markup → Option String
  | .startTag tag attributes =>
    if tag = element then (attributes.find? (·.name = name)).map Attribute.written else none
  | _ => none

theorem Attribute.written_hash (name other id : String)
    : Attribute.written { name := name, value := "#" ++ id }
        = "#" ++ Attribute.written { name := other, value := id } := by
  unfold Attribute.written
  rw [escape_append]
  rfl

end Html

namespace Output

/-- The texts of an attribute in all start tags of an element, in order. -/
def attributeTexts (element name : String) (output : List Output) : List String :=
  output.flatMap fun
    | kept _ => []
    | written pieces => pieces.filterMap (Html.Markup.attributeText? element name)

theorem attributeTexts_append (element name : String) (xs ys : List Output)
    : attributeTexts element name (xs ++ ys)
        = attributeTexts element name xs ++ attributeTexts element name ys := by
  unfold attributeTexts
  apply List.flatMap_append

theorem attributeTexts_cons (element name : String) (step : Output) (rest : List Output)
    : attributeTexts element name (step :: rest)
        = attributeTexts element name [step] ++ attributeTexts element name rest := by
  rw [← attributeTexts_append]
  rfl

end Output

end DirectedMarkdown
