import DirectedMarkdown.Output.Tags
import DirectedMarkdown.Proofs.Directive.Initial
import DirectedMarkdown.Proofs.Html.StartTag
import DirectedMarkdown.Proofs.PropertyList.Merge

/-!
This module contains the configured attributes of links and images, as they are found by a reader of
HTML, for whom names differ only up to case. They take the place of others just if no two names in
the tag are spelled differently.
-/

namespace DirectedMarkdown

namespace Html

/-- The value of an attribute, where percent signs in a URL are read. -/
def StartTag.Shows (tag : StartTag) (name value : String) : Prop :=
  ∃ text, tag.value? name = some text
    ∧ if name = "href" ∨ name = "src" then percentDecode text.toList = percentDecode value.toList
      else text = value

/-- All configured attributes have their values, and no name comes twice. -/
structure StartTag.OverriddenBy (tag : StartTag) (configured? : String → Option String) : Prop where
  shows : ∀ name value, configured? name = some value → Attribute.isName name →
    tag.Shows name value
  nodup : (tag.attributes.map Prod.fst).Nodup

/-- Names of attributes that are the same up to case are spelled alike. -/
def SpelledAlike (names : List String) : Prop :=
  ∀ name ∈ names, ∀ other ∈ names, Attribute.isName name → Attribute.isName other →
    lower name = lower other → name = other

end Html

/-- The value that is configured under a name. The attributes for external targets win. -/
def configured? (plain external : PropertyList) (isExternal : Bool) (name : String)
    : Option String :=
  (if isExternal then external.get? name else none).or (plain.get? name)

/-- The names that are configured. -/
def configuredNames (plain external : PropertyList) (isExternal : Bool) : List String :=
  plain.keys ++ if isExternal then external.keys else []

/-- The name of the attribute for a title, if there is one. -/
def titleNames (title : String) : List String :=
  if title.isEmpty then [] else ["title"]

open Html (Attribute SpelledAlike StartTag)

namespace Html

theorem Attribute.shows_asRead_ofEntry (entry : String × String)
    : if entry.1 = "href" ∨ entry.1 = "src" then
        percentDecode (ofEntry entry).asRead.2.toList = percentDecode entry.2.toList
      else (ofEntry entry).asRead.2 = entry.2 := by
  unfold asRead ofEntry written
  dsimp only
  split
  . unfold escapeUrl
    dsimp only
    rw [String.toList_ofList, String.toList_ofList, decodeReferences_flatMap_escapeUrlChar,
      percentDecode_encodeUrl]
  . unfold escape
    dsimp only
    rw [String.toList_ofList, decodeReferences_escapeChars, String.ofList_toList]

namespace StartTag

variable {tag : StartTag} {list : PropertyList}

theorem nodup_iff_spelledAlike
    (htag : tag.attributes = (Attribute.ofList list).map Attribute.asRead)
    : (tag.attributes.map Prod.fst).Nodup ↔ SpelledAlike list.keys := by
  have hnames : tag.attributes.map Prod.fst = (list.keys.filter Attribute.isName).map lower := by
    rw [htag, Attribute.ofList, PropertyList.keys, List.filter_map, List.map_map, List.map_map,
      List.map_map]
    rfl
  have hkeys : list.keys.Nodup := list.nodup
  rw [hnames, List.nodup_map_iff_inj_on (hkeys.filter _)]
  simp only [List.mem_filter]
  constructor
  . intro h name hname other hother hisName hisOther heq
    exact h name ⟨hname, hisName⟩ other ⟨hother, hisOther⟩ heq
  . intro h name hname other hother heq
    exact h name hname.1 other hother.1 hname.2 hother.2 heq

theorem shows_of_nodup
    (htag : tag.attributes = (Attribute.ofList list).map Attribute.asRead)
    (hnodup : (tag.attributes.map Prod.fst).Nodup) {name value : String}
    (hget : list.get? name = some value) (hname : Attribute.isName name)
    : tag.Shows name value := by
  have hentry : (name, value) ∈ list.entries := mem_of_lookup_eq_some hget
  have hread : (Attribute.ofEntry (name, value)).asRead ∈ tag.attributes := by
    rw [htag]
    apply List.mem_map_of_mem
    apply List.mem_map_of_mem
    rw [List.mem_filter]
    exact ⟨hentry, hname⟩
  exact ⟨_, lookup_eq_some_of_mem hnodup hread, Attribute.shows_asRead_ofEntry (name, value)⟩

end StartTag

end Html

section

variable {generated plain external : PropertyList} {isExternal : Bool}

/-- Configured attributes over generated ones. -/
def overlay (generated plain external : PropertyList) (isExternal : Bool) : PropertyList :=
  if isExternal then (generated.merge plain).merge external else generated.merge plain

theorem mem_keys_overlay_iff {name : String}
    : name ∈ (overlay generated plain external isExternal).keys
        ↔ name ∈ generated.keys ++ configuredNames plain external isExternal := by
  unfold overlay configuredNames
  cases isExternal with
  | false => simp [PropertyList.mem_keys_merge_iff]
  | true => simp [PropertyList.mem_keys_merge_iff, or_assoc]

theorem get?_overlay (name : String)
    : (overlay generated plain external isExternal).get? name
        = (configured? plain external isExternal name).or (generated.get? name) := by
  unfold overlay configured?
  cases isExternal with
  | false =>
    simp only [Bool.false_eq_true, ↓reduceIte, Option.none_or]
    exact PropertyList.get?_merge generated plain name
  | true =>
    simp only [↓reduceIte]
    rw [PropertyList.get?_merge, PropertyList.get?_merge, Option.or_assoc]

theorem overriddenBy_iff {tag : StartTag} {names : List String} (hnames : generated.keys = names)
    (htag : tag.attributes
      = (Attribute.ofList (overlay generated plain external isExternal)).map Attribute.asRead)
    : tag.OverriddenBy (configured? plain external isExternal)
        ↔ SpelledAlike (names ++ configuredNames plain external isExternal) := by
  have hkeys : SpelledAlike (overlay generated plain external isExternal).keys
      ↔ SpelledAlike (names ++ configuredNames plain external isExternal) := by
    unfold SpelledAlike
    simp only [mem_keys_overlay_iff, hnames]
  rw [← hkeys, ← StartTag.nodup_iff_spelledAlike htag]
  constructor
  . exact StartTag.OverriddenBy.nodup
  . intro hnodup
    refine ⟨?_, hnodup⟩
    intro name value hconfigured hname
    apply StartTag.shows_of_nodup htag hnodup _ hname
    rw [get?_overlay, hconfigured, Option.some_or]

end

theorem keys_insertTitle {entries : PropertyList} (h : "title" ∉ entries.keys) (title : String)
    : (DirectiveSet.insertTitle entries title).keys = entries.keys ++ titleNames title := by
  unfold DirectiveSet.insertTitle titleNames
  split
  . simp
  . rw [PropertyList.keys_insert, if_neg h]

/--
In the tags of links and images, the configured attributes take the place of those of the document,
and no name comes twice, if and only if the names in the tag that are the same up to case are
spelled alike.
-/
theorem configured_override_iff (directives : DirectiveSet)
    : (∀ kind url title, ∃ tag,
        StartTag.read (directives.linkStart kind url title).render.toList = some (tag, [])
          ∧ (tag.OverriddenBy (configured? directives.linkAttributes
              directives.externalLinkAttributes
              (Url.isExternal (DirectiveSet.linkTarget kind url)))
            ↔ SpelledAlike ("href" :: titleNames title
              ++ configuredNames directives.linkAttributes directives.externalLinkAttributes
                (Url.isExternal (DirectiveSet.linkTarget kind url)))))
      ∧ ∀ url alt title, ∃ tag,
        StartTag.read (directives.imageTag url alt title).render.toList = some (tag, [])
          ∧ (tag.OverriddenBy (configured? directives.imageAttributes
              directives.externalImageAttributes (Url.isExternal url))
            ↔ SpelledAlike ("src" :: "alt" :: titleNames title
              ++ configuredNames directives.imageAttributes directives.externalImageAttributes
                (Url.isExternal url))) := by
  constructor
  . intro kind url title
    have hclean : ∀ a ∈ Attribute.ofList (directives.linkEntries kind url title), a.IsClean :=
      fun _ => Attribute.isClean_of_mem_ofList
    have hname : "a" ∈ Html.pairedNames := by decide
    have hread := StartTag.read_startTag hname hclean []
    rw [List.append_nil] at hread
    refine ⟨_, hread, overriddenBy_iff ?_ rfl⟩
    apply keys_insertTitle
    show "title" ∉ ["href"]
    decide
  . intro url alt title
    have hclean : ∀ a ∈ Attribute.ofList (directives.imageEntries url alt title), a.IsClean :=
      fun _ => Attribute.isClean_of_mem_ofList
    have hname : "img" ∈ Html.voidNames := by decide
    have hread := StartTag.read_voidTag hname hclean directives.elementClosingStyle []
    rw [List.append_nil] at hread
    refine ⟨_, hread, overriddenBy_iff ?_ rfl⟩
    apply keys_insertTitle
    show "title" ∉ ["src", "alt"]
    decide

/-- A target that is configured as `HREF` comes behind the one of the document and is not found. -/
theorem configured_override_missed
    : let directives := { DirectiveSet.initial with linkAttributes := .ofList [("HREF", "/c")] }
      ∃ tag, StartTag.read (directives.linkStart .regular "/b" "").render.toList = some (tag, [])
        ∧ (directives.linkStart .regular "/b" "").render = "<a href=\"/b\" HREF=\"/c\">"
        ∧ tag.value? "HREF" = some "/b"
        ∧ ¬tag.OverriddenBy (configured? directives.linkAttributes
          directives.externalLinkAttributes false) := by
  intro directives
  obtain ⟨tag, hread, hiff⟩ := (configured_override_iff directives).1 .regular "/b" ""
  have hrender : (directives.linkStart .regular "/b" "").render
      = "<a href=\"/b\" HREF=\"/c\">" := by
    decide +kernel
  have htag : StartTag.read "<a href=\"/b\" HREF=\"/c\">".toList
      = some (⟨"a", [("href", "/b"), ("href", "/c")]⟩, []) := by
    decide +kernel
  refine ⟨tag, hread, hrender, ?_, ?_⟩
  . rw [hrender, htag, Option.some.injEq, Prod.mk.injEq] at hread
    rw [← hread.1]
    decide
  . have hinternal : Url.isExternal (DirectiveSet.linkTarget .regular "/b") = false := by
      decide +kernel
    rw [hinternal] at hiff
    rw [hiff]
    intro halike
    have heq : "href" = "HREF" :=
      halike "href" (by decide) "HREF" (by decide) (by decide) (by decide) (by decide)
    contradiction

end DirectedMarkdown
