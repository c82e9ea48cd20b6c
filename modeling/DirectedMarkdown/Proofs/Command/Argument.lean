import DirectedMarkdown.Command.Argument
import DirectedMarkdown.Proofs.Except

/-!
This module contains what holds of the arguments of a command line: the items that are read are
given by a relation, and arguments that are read with some options are read in the same way with
more.
-/

namespace DirectedMarkdown.Command

variable {flags : List Flag}

/-- Options that are written in one argument. -/
inductive HoldsOptions (flags : List Flag) : Argument → Reading → Prop where
  | long {name : String} {value : Option String} {reading : Reading}
    (h : readLong flags name value = .ok reading) : HoldsOptions flags (.long name value) reading
  | short {letters : List Char} {reading : Reading}
    (h : readShort flags letters = .ok reading) : HoldsOptions flags (.short letters) reading

/-- Arguments that can be read, with the option that the first of them is the value of. -/
inductive Reads (flags : List Flag) : Option Flag → List String → List Item → Prop where
  | nil : Reads flags none [] []
  | word {argument : String} {rest : List String} {items : List Item}
    (hform : Argument.ofString argument = .word) (hrest : Reads flags none rest items)
    : Reads flags none (argument :: rest) (.word argument :: items)
  | value {flag : Flag} {argument : String} {rest : List String} {items : List Item}
    (hform : Argument.ofString argument = .word) (hrest : Reads flags none rest items)
    : Reads flags (some flag) (argument :: rest) (.value flag argument :: items)
  | separator {argument : String} {rest : List String}
    (hform : Argument.ofString argument = .separator)
    : Reads flags none (argument :: rest) (rest.map .word)
  | final {argument : String} {rest : List String} {reading : Reading}
    (hholds : HoldsOptions flags (Argument.ofString argument) reading)
    (hfinal : reading.items.any Item.isFinal = true)
    : Reads flags none (argument :: rest) reading.items
  | options {argument : String} {rest : List String} {reading : Reading} {items : List Item}
    (hholds : HoldsOptions flags (Argument.ofString argument) reading)
    (hfinal : reading.items.any Item.isFinal ≠ true)
    (hrest : Reads flags reading.pending rest items)
    : Reads flags none (argument :: rest) (reading.items ++ items)

theorem readItems_options {argument : String} {reading : Reading}
    (h : HoldsOptions flags (Argument.ofString argument) reading) (rest : List String)
    : readItems flags none (argument :: rest)
        = if reading.items.any Item.isFinal then .ok reading.items
          else (readItems flags reading.pending rest).map (reading.items ++ ·) := by
  rw [readItems]
  generalize Argument.ofString argument = form at h ⊢
  cases h with
  | long hread | short hread =>
    dsimp only
    rw [hread]

theorem holdsOptions_of_readItems {argument : String} {rest : List String} {items : List Item}
    (h : readItems flags none (argument :: rest) = .ok items)
    (hword : Argument.ofString argument ≠ .word)
    (hseparator : Argument.ofString argument ≠ .separator)
    : ∃ reading, HoldsOptions flags (Argument.ofString argument) reading := by
  rw [readItems] at h
  cases hform : Argument.ofString argument with
  | word => exact absurd hform hword
  | separator => exact absurd hform hseparator
  | long name value =>
    rw [hform] at h
    dsimp only at h
    cases hread : readLong flags name value with
    | error e => simp [hread] at h
    | ok reading => exact ⟨reading, .long hread⟩
  | short letters =>
    rw [hform] at h
    dsimp only at h
    cases hread : readShort flags letters with
    | error e => simp [hread] at h
    | ok reading => exact ⟨reading, .short hread⟩

theorem readItems_of_reads {pending : Option Flag} {arguments : List String} {items : List Item}
    (h : Reads flags pending arguments items)
    : readItems flags pending arguments = .ok items := by
  induction h with
  | nil => rfl
  | word hform _ ih | value hform _ ih =>
    rw [readItems, hform]
    simp [ih, Except.map]
  | separator hform => rw [readItems, hform]
  | final hholds hfinal => rw [readItems_options hholds, if_pos hfinal]
  | options hholds hfinal _ ih =>
    rw [readItems_options hholds, if_neg hfinal, ih]
    rfl

theorem reads_of_readItems {pending : Option Flag} {arguments : List String} {items : List Item}
    (h : readItems flags pending arguments = .ok items)
    : Reads flags pending arguments items := by
  induction arguments generalizing pending items with
  | nil =>
    cases pending with
    | none =>
      obtain rfl := Except.ok.inj h
      exact .nil
    | some flag => simp [readItems] at h
  | cons argument rest ih =>
    by_cases hword : Argument.ofString argument = .word
    . cases pending with
      | none =>
        rw [readItems, hword] at h
        obtain ⟨others, hothers, rfl⟩ := except_map_eq_ok h
        exact .word hword (ih hothers)
      | some flag =>
        rw [readItems, hword] at h
        obtain ⟨others, hothers, rfl⟩ := except_map_eq_ok h
        exact .value hword (ih hothers)
    . cases pending with
      | some flag =>
        -- The option before the argument wants a word.
        unfold readItems at h
        cases hform : Argument.ofString argument with
        | word => exact absurd hform hword
        | separator | long _ _ | short _ => simp [hform] at h
      | none =>
        by_cases hseparator : Argument.ofString argument = .separator
        . rw [readItems, hseparator] at h
          obtain rfl := Except.ok.inj h
          exact .separator hseparator
        . obtain ⟨reading, hholds⟩ := holdsOptions_of_readItems h hword hseparator
          rw [readItems_options hholds] at h
          split at h
          . next hfinal =>
            obtain rfl := Except.ok.inj h
            exact .final hholds hfinal
          . next hfinal =>
            obtain ⟨others, hothers, rfl⟩ := except_map_eq_ok h
            exact .options hholds hfinal (ih hothers)

theorem find?_append_of_eq_some {p : Flag → Bool} {flag : Flag} (more : List Flag)
    (h : flags.find? p = some flag) : (flags ++ more).find? p = some flag := by
  rw [List.find?_append, h]
  rfl

theorem readLong_append {name : String} {value : Option String} {reading : Reading}
    (more : List Flag) (h : readLong flags name value = .ok reading)
    : readLong (flags ++ more) name value = .ok reading := by
  unfold readLong at h ⊢
  cases hfind : flags.find? (·.long = name) with
  | none => simp [hfind] at h
  | some flag =>
    rw [hfind] at h
    rw [find?_append_of_eq_some more hfind]
    exact h

theorem readShort_append {letters : List Char} {reading : Reading} (more : List Flag)
    (h : readShort flags letters = .ok reading)
    : readShort (flags ++ more) letters = .ok reading := by
  induction letters generalizing reading with
  | nil => exact h
  | cons letter rest ih =>
    unfold readShort at h ⊢
    cases hfind : flags.find? (·.short? = some letter) with
    | none => simp [hfind] at h
    | some flag =>
      rw [hfind] at h
      rw [find?_append_of_eq_some more hfind]
      dsimp only at h ⊢
      split
      . next hvalue =>
        rw [if_pos hvalue] at h
        exact h
      . next hvalue =>
        rw [if_neg hvalue] at h
        split
        . next hlast =>
          rw [if_pos hlast] at h
          exact h
        . next hlast =>
          rw [if_neg hlast] at h
          obtain ⟨others, hothers, rfl⟩ := except_map_eq_ok h
          rw [ih hothers]
          rfl

theorem HoldsOptions.append {argument : Argument} {reading : Reading}
    (h : HoldsOptions flags argument reading) (more : List Flag)
    : HoldsOptions (flags ++ more) argument reading := by
  cases h with
  | long hread => exact .long (readLong_append more hread)
  | short hread => exact .short (readShort_append more hread)

theorem Reads.append {pending : Option Flag} {arguments : List String} {items : List Item}
    (h : Reads flags pending arguments items) (more : List Flag)
    : Reads (flags ++ more) pending arguments items := by
  induction h with
  | nil => exact .nil
  | word hform _ ih => exact .word hform ih
  | value hform _ ih => exact .value hform ih
  | separator hform => exact .separator hform
  | final hholds hfinal => exact .final (hholds.append more) hfinal
  | options hholds hfinal _ ih => exact .options (hholds.append more) hfinal ih

/-- The option of an item. -/
def Item.option? : Item → Option Flag
  | .flag option | .value option _ => some option
  | .word _ => none

/-- The options that are read, with the one that waits for its value, are among the given ones. -/
structure Reading.Within (flags : List Flag) (reading : Reading) : Prop where
  items : ∀ item ∈ reading.items, ∀ flag ∈ item.option?, flag ∈ flags
  pending : ∀ flag ∈ reading.pending, flag ∈ flags

theorem readLong_within {name : String} {value : Option String} {reading : Reading}
    (h : readLong flags name value = .ok reading) : reading.Within flags := by
  unfold readLong at h
  split at h
  . simp at h
  . next flag hfind =>
    have hmem := List.mem_of_find?_eq_some hfind
    split at h
    . obtain rfl := Except.ok.inj h
      exact ⟨by simpa [Item.option?] using hmem, by simp⟩
    . obtain rfl := Except.ok.inj h
      exact ⟨by simp, by simpa using hmem⟩
    . simp at h
    . obtain rfl := Except.ok.inj h
      exact ⟨by simpa [Item.option?] using hmem, by simp⟩

theorem readShort_within {letters : List Char} {reading : Reading}
    (h : readShort flags letters = .ok reading) : reading.Within flags := by
  induction letters generalizing reading with
  | nil =>
    obtain rfl := Except.ok.inj h
    exact ⟨by simp, by simp⟩
  | cons letter rest ih =>
    unfold readShort at h
    split at h
    . simp at h
    . next flag hfind =>
      have hmem := List.mem_of_find?_eq_some hfind
      split at h
      . split at h
        . obtain rfl := Except.ok.inj h
          exact ⟨by simp, by simpa using hmem⟩
        . obtain rfl := Except.ok.inj h
          exact ⟨by simpa [Item.option?] using hmem, by simp⟩
        . obtain rfl := Except.ok.inj h
          exact ⟨by simpa [Item.option?] using hmem, by simp⟩
      . split at h
        . obtain rfl := Except.ok.inj h
          exact ⟨by simpa [Item.option?] using hmem, by simp⟩
        . obtain ⟨others, hothers, rfl⟩ := except_map_eq_ok h
          obtain ⟨hitems, hpending⟩ := ih hothers
          exact ⟨by simpa [Item.option?] using ⟨hmem, hitems⟩, hpending⟩

theorem HoldsOptions.within {argument : Argument} {reading : Reading}
    (h : HoldsOptions flags argument reading) : reading.Within flags := by
  cases h with
  | long hread => exact readLong_within hread
  | short hread => exact readShort_within hread

theorem Reads.option_mem {pending : Option Flag} {arguments : List String} {items : List Item}
    (h : Reads flags pending arguments items) (hpending : ∀ flag ∈ pending, flag ∈ flags)
    : ∀ item ∈ items, ∀ flag ∈ item.option?, flag ∈ flags := by
  induction h with
  | nil => simp
  | word _ _ ih => simpa [Item.option?] using ih (by simp)
  | value _ _ ih => simpa [Item.option?] using ⟨hpending _ rfl, ih (by simp)⟩
  | separator _ => simp [Item.option?]
  | final hholds _ => exact hholds.within.items
  | options hholds _ _ ih =>
    intro item hmem
    rw [List.mem_append] at hmem
    cases hmem with
    | inl hmem => exact hholds.within.items item hmem
    | inr hmem => exact ih hholds.within.pending item hmem

end DirectedMarkdown.Command
