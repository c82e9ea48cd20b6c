import DirectedMarkdown.Output.Tags
import DirectedMarkdown.Proofs.Directive.Initial
import DirectedMarkdown.Proofs.PropertyList.Merge
import DirectedMarkdown.Proofs.Url.Pattern

/-!
This module contains the start tags of the links to bare URLs: they are those of links that are
written out, since each bare URL leads off-site.
-/

namespace DirectedMarkdown

open Markdown (LinkKind)

namespace Url

/-- Whatever the pattern matches starts with a scheme. -/
theorem exists_scheme_of_mem_ways {before : Option Char} {s : List Char} {n : Nat}
    (h : n ∈ pattern.ways before s)
    : ∃ scheme ∈ ["http://".toList, "https://".toList], scheme <+: s.take n := by
  have hways : n ∈ schemed.ways before s := by
    unfold pattern at h
    rw [Text.Pattern.ways_seq_boundary] at h
    split at h
    . assumption
    . contradiction
  have hlength : schemeLength s ≠ 0 := by
    intro hzero
    rw [ways_schemed_eq_nil hzero] at hways
    contradiction
  obtain ⟨scheme, hscheme, rest, rfl⟩ := exists_scheme hlength
  rw [ways_schemed hscheme, List.mem_map] at hways
  obtain ⟨m, _, rfl⟩ := hways
  refine ⟨scheme, hscheme, ?_⟩
  rw [List.take_length_add_append]
  apply List.prefix_append

theorem isExternal_of_scheme {scheme url : List Char}
    (hscheme : scheme ∈ ["http://".toList, "https://".toList]) (h : scheme <+: url)
    : isExternal (String.ofList url) := by
  obtain ⟨rest, rfl⟩ := h
  unfold isExternal isExternalChars
  rw [String.toList_ofList]
  simp only [List.mem_cons, List.not_mem_nil, or_false] at hscheme
  obtain rfl | rfl := hscheme
  . simp [isSchemeChar]
  . simp [isSchemeChar]

end Url

namespace Decorator

theorem urlAttributes_make {abbreviations : PropertyList} {directives : DirectiveSet}
    {decorator : Decorator} (h : make abbreviations directives = .ok decorator)
    : decorator.urlAttributes
        = directives.linkAttributes.merge directives.externalLinkAttributes := by
  unfold make at h
  split at h
  . contradiction
  . rw [Except.ok.injEq] at h
    rw [← h]

end Decorator

section

variable {abbreviations : PropertyList} {directives : DirectiveSet} {decorator : Decorator}
  {before : Option Char} {url after : List Char} {kind : LinkKind}

/--
The start tag of the link to a bare URL is the one of a link to it that is written out and has no
title. It has the URL as its target, then the configured attributes, of which those for external
links win over those for all links, and both over the target.
-/
theorem bare_link_start (hmake : Decorator.make abbreviations directives = .ok decorator)
    (hurl : url.length ∈ Url.pattern.ways before (url ++ after)) (hkind : kind ≠ .email)
    : (decorator.linkStart (String.ofList url)).render
        = (directives.linkStart kind (String.ofList url) "").render
      ∧ decorator.linkEntries (String.ofList url)
        = directives.linkEntries kind (String.ofList url) ""
      ∧ (decorator.linkEntries (String.ofList url)).keys
        = "href" :: (directives.linkAttributes.keys
          ++ directives.externalLinkAttributes.keys.filter
            (· ∉ directives.linkAttributes.keys)).filter (· ≠ "href")
      ∧ ∀ name, (decorator.linkEntries (String.ofList url)).get? name
        = (directives.externalLinkAttributes.get? name).or
          ((directives.linkAttributes.get? name).or
            (if name = "href" then some (String.ofList url) else none)) := by
  have hexternal : Url.isExternal (String.ofList url) := by
    obtain ⟨scheme, hscheme, hprefix⟩ := Url.exists_scheme_of_mem_ways hurl
    rw [List.take_left] at hprefix
    exact Url.isExternal_of_scheme hscheme hprefix
  have hbare : decorator.linkEntries (String.ofList url)
      = (PropertyList.empty.insert "href" (String.ofList url)).merge
        (directives.linkAttributes.merge directives.externalLinkAttributes) := by
    unfold Decorator.linkEntries
    rw [Decorator.urlAttributes_make hmake]
    exact if_pos hexternal
  have hentries : decorator.linkEntries (String.ofList url)
      = directives.linkEntries kind (String.ofList url) "" := by
    have htarget : DirectiveSet.linkTarget kind (String.ofList url) = String.ofList url := by
      cases kind with
      | regular => rfl
      | email => contradiction
    rw [hbare, ← PropertyList.merge_assoc]
    unfold DirectiveSet.linkEntries
    rw [htarget]
    exact (if_pos hexternal).symm
  refine ⟨?_, hentries, ?_, ?_⟩
  . unfold Decorator.linkStart DirectiveSet.linkStart
    rw [hentries]
  . have hkeys : (PropertyList.empty.insert "href" (String.ofList url)).keys = ["href"] := rfl
    rw [hbare, PropertyList.keys_merge, PropertyList.keys_merge, hkeys]
    simp
  . intro name
    have hget : (PropertyList.empty.insert "href" (String.ofList url)).get? name
        = if name = "href" then some (String.ofList url) else none := by
      rw [PropertyList.get?_insert]
      rfl
    rw [hbare, PropertyList.get?_merge, PropertyList.get?_merge, hget, Option.or_assoc]

end

/-- The URL ends before the full stop, and the configured target takes its place. -/
theorem bare_link_start_overridden
    : let directives := { DirectiveSet.initial with
        linkAttributes := .ofList [("class", "a"), ("href", "/x y")]
        externalLinkAttributes := .ofList [("class", "b"), ("rel", "c")] }
      ∃ decorator, Decorator.make directives.abbreviations directives = .ok decorator
        ∧ "http://a/".toList.length ∈ Url.pattern.ways none "http://a/.".toList
        ∧ LinkKind.regular ≠ .email
        ∧ (decorator.linkStart "http://a/").render
          = (directives.linkStart .regular "http://a/" "").render
        ∧ (decorator.linkStart "http://a/").render
          = "<a href=\"/x%20y\" class=\"b\" rel=\"c\">" := by
  intro directives
  obtain ⟨decorator, hmake⟩ : ∃ decorator,
      Decorator.make directives.abbreviations directives = .ok decorator := ⟨_, rfl⟩
  have hurl : "http://a/".toList.length ∈ Url.pattern.ways none ("http://a/".toList ++ ['.']) := by
    decide +kernel
  have hkind : LinkKind.regular ≠ .email := by decide
  have hstart := (bare_link_start hmake hurl hkind).1
  have hrender : (directives.linkStart .regular "http://a/" "").render
      = "<a href=\"/x%20y\" class=\"b\" rel=\"c\">" := by
    decide +kernel
  exact ⟨decorator, hmake, hurl, hkind, hstart, hstart.trans hrender⟩

end DirectedMarkdown
