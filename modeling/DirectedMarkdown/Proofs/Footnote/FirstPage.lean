import DirectedMarkdown.Proofs.List.Lookup
import Mathlib.Data.List.Nodup
import Mathlib.Data.List.Pairwise

/-!
This module contains the choice among labelled pages: each label that is asked for gets the first
page that has it. What stands on the other pages is lost.
-/

namespace DirectedMarkdown.Footnotes

variable {α : Type}

/-- What stands on the first page of each label. -/
def firstPages (labels : List String) (pages : List (String × List α)) : List α :=
  labels.flatMap fun label => (pages.lookup label).getD []

/-- Every page is empty, but for the first one of each label that is asked for. -/
def RestEmpty {β : Type} (empty : β → Prop) (labels : List String) (pages : List (String × β))
    : Prop :=
  ∀ earlier label page later, pages = earlier ++ (label, page) :: later →
    empty page ∨ label ∈ labels ∧ label ∉ earlier.map Prod.fst

theorem restEmpty_map {β γ : Type} {empty : γ → Prop} {labels : List String} (f : β → γ)
    {entries : List (String × β)}
    : RestEmpty empty labels (entries.map fun entry => (entry.1, f entry.2))
        ↔ RestEmpty (empty ∘ f) labels entries := by
  constructor
  . rintro h earlier label page later rfl
    have := h (earlier.map fun entry => (entry.1, f entry.2)) label (f page)
      (later.map fun entry => (entry.1, f entry.2)) (by simp)
    simpa [Function.comp_def] using this
  . intro h earlier label page later heq
    obtain ⟨front, back, rfl, rfl, hback⟩ := List.map_eq_append_iff.mp heq
    obtain ⟨⟨name, content⟩, rest, rfl, hentry, rfl⟩ := List.map_eq_cons_iff.mp hback
    rw [Prod.mk.injEq] at hentry
    obtain ⟨rfl, rfl⟩ := hentry
    have := h front name content rest rfl
    simpa [Function.comp_def] using this

theorem restEmpty_congr {β : Type} {empty other : β → Prop} {labels : List String}
    {pages : List (String × β)} (h : ∀ page ∈ pages, empty page.2 ↔ other page.2)
    : RestEmpty empty labels pages ↔ RestEmpty other labels pages := by
  have hmem : ∀ earlier label page later, pages = earlier ++ (label, page) :: later →
      (empty page ↔ other page) := by
    rintro earlier label page later rfl
    exact h (label, page) (by simp)
  constructor
  . intro hempty earlier label page later heq
    exact (hempty earlier label page later heq).imp_left (hmem _ _ _ _ heq).mp
  . intro hother earlier label page later heq
    exact (hother earlier label page later heq).imp_left (hmem _ _ _ _ heq).mpr

variable {labels : List String} {pages : List (String × List α)} {x : α}

theorem mem_firstPages_iff
    : x ∈ firstPages labels pages
        ↔ ∃ label ∈ labels, ∃ page, pages.lookup label = some page ∧ x ∈ page := by
  unfold firstPages
  simp only [List.mem_flatMap]
  constructor
  . rintro ⟨label, hlabel, hx⟩
    cases hpage : pages.lookup label with
    | none => simp [hpage] at hx
    | some page => exact ⟨label, hlabel, page, hpage, by simpa [hpage] using hx⟩
  . rintro ⟨label, hlabel, page, hpage, hx⟩
    exact ⟨label, hlabel, by simpa [hpage] using hx⟩

theorem mem_flatMap_of_mem_firstPages (h : x ∈ firstPages labels pages)
    : x ∈ pages.flatMap Prod.snd := by
  rw [mem_firstPages_iff] at h
  obtain ⟨label, _, page, hpage, hx⟩ := h
  rw [List.mem_flatMap]
  exact ⟨_, mem_of_lookup_eq_some hpage, hx⟩

theorem nodup_firstPages (hlabels : labels.Nodup) (hpages : (pages.flatMap Prod.snd).Nodup)
    : (firstPages labels pages).Nodup := by
  rw [List.nodup_flatMap] at hpages
  obtain ⟨hnodup, hdisjoint⟩ := hpages
  unfold firstPages
  rw [List.nodup_flatMap]
  constructor
  . intro label _
    cases hpage : pages.lookup label with
    | none => simp
    | some page => exact hnodup _ (mem_of_lookup_eq_some hpage)
  . apply hlabels.imp
    intro label other hne
    simp only [Function.onFun]
    intro x hx hother
    cases hpage : pages.lookup label with
    | none => simp [hpage] at hx
    | some page =>
      cases hotherPage : pages.lookup other with
      | none => simp [hotherPage] at hother
      | some otherPage =>
        rw [hpage, Option.getD_some] at hx
        rw [hotherPage, Option.getD_some] at hother
        have : Std.Symm (Function.onFun List.Disjoint (Prod.snd : String × List α → List α)) :=
          ⟨fun _ _ h _ hx hy => h hy hx⟩
        have hdisjoint := hdisjoint.forall (mem_of_lookup_eq_some hpage)
          (mem_of_lookup_eq_some hotherPage) (by simpa using fun heq => absurd heq hne)
        exact hdisjoint hx hother

theorem nodup_append_firstPages {outside : List α} (hlabels : labels.Nodup)
    (h : (outside ++ pages.flatMap Prod.snd).Nodup) : (outside ++ firstPages labels pages).Nodup := by
  rw [List.nodup_append] at h ⊢
  obtain ⟨houtside, hpages, hdisjoint⟩ := h
  refine ⟨houtside, nodup_firstPages hlabels hpages, ?_⟩
  intro x hx other hother
  exact hdisjoint x hx other (mem_flatMap_of_mem_firstPages hother)

/-- Nothing is lost just if all that stands on a page that is not chosen is nothing. -/
theorem flatMap_subset_firstPages_iff (hpages : (pages.flatMap Prod.snd).Nodup)
    : pages.flatMap Prod.snd ⊆ firstPages labels pages
        ↔ RestEmpty (· = []) labels pages := by
  constructor
  . rintro hsubset earlier label page later rfl
    rw [Decidable.or_iff_not_imp_left]
    intro hpage
    obtain ⟨x, hx⟩ := List.exists_mem_of_ne_nil page hpage
    rw [List.flatMap_append, List.flatMap_cons, List.nodup_append, List.nodup_append] at hpages
    obtain ⟨_, ⟨_, _, hlater⟩, hearlier⟩ := hpages
    have hmem : x ∈ (earlier ++ (label, page) :: later).flatMap Prod.snd := by simp [hx]
    obtain ⟨other, hother, otherPage, hlookup, hxother⟩ := mem_firstPages_iff.mp (hsubset hmem)
    -- `x` stands on this page only, so that the page that was chosen is this one.
    rw [List.lookup_append] at hlookup
    cases hfirst : earlier.lookup other with
    | some found =>
      rw [hfirst, Option.some_or, Option.some.injEq] at hlookup
      subst hlookup
      have hxearlier : x ∈ earlier.flatMap Prod.snd :=
        List.mem_flatMap.mpr ⟨_, mem_of_lookup_eq_some hfirst, hxother⟩
      exact absurd rfl (hearlier x hxearlier x (List.mem_append_left _ hx))
    | none =>
      rw [hfirst, Option.none_or, List.lookup_cons] at hlookup
      by_cases heq : other = label
      . subst heq
        refine ⟨hother, ?_⟩
        simp only [List.mem_map, not_exists, not_and]
        intro entry hentry heq
        rw [List.lookup_eq_none_iff] at hfirst
        have := hfirst entry hentry
        simp [heq] at this
      . have hne : (other == label) = false := by simpa using heq
        rw [hne] at hlookup
        have hxlater : x ∈ later.flatMap Prod.snd :=
          List.mem_flatMap.mpr ⟨_, mem_of_lookup_eq_some hlookup, hxother⟩
        exact absurd rfl (hlater x hx x hxlater)
  . intro hkept x hx
    obtain ⟨⟨label, page⟩, hmem, hx⟩ := List.mem_flatMap.mp hx
    obtain ⟨earlier, later, heq⟩ := List.append_of_mem hmem
    obtain hpage | ⟨hlabel, hearlier⟩ := hkept earlier label page later heq
    . simp [hpage] at hx
    . rw [mem_firstPages_iff]
      refine ⟨label, hlabel, page, ?_, hx⟩
      rw [List.lookup_eq_some_iff]
      refine ⟨earlier, later, heq, ?_⟩
      intro entry hentry
      have : entry.1 ≠ label := fun h => hearlier (h ▸ List.mem_map_of_mem hentry)
      simpa using this.symm

end DirectedMarkdown.Footnotes
