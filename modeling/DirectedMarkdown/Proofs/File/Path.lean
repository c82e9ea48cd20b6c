import DirectedMarkdown.File.Path
import DirectedMarkdown.Proofs.List.Append
import DirectedMarkdown.Proofs.Text.Split
import Mathlib.Data.List.Basic
import Mathlib.Data.List.Induction

/-!
This module contains paths in view of the name at their end: what stands in front of the name ends
in a slash, and of what stands behind it nothing counts. An extension is put to the end of the name.
-/

namespace DirectedMarkdown.Path

/-- The name of a file or a directory, as opposed to dots that lead along a path. -/
structure IsName (name : List Char) : Prop where
  ne_nil : name ≠ []
  slash_notMem : '/' ∉ name
  ne_current : name ≠ ['.']
  ne_parent : name ≠ ['.', '.']

/-- What may stand in front of a name. -/
inductive IsFront : List Char → Prop where
  | nil : IsFront []
  | slash (before : List Char) : IsFront (before ++ ['/'])

/-- What may stand behind a name without a meaning. -/
inductive IsTail : List Char → Prop where
  | nil : IsTail []
  | slash {rest : List Char} (hrest : IsTail rest) : IsTail ('/' :: rest)
  | dot {rest : List Char} (hrest : IsTail rest) : IsTail ('/' :: '.' :: rest)

theorem pieces_ofChars (s : List Char) : (ofChars s).pieces = s.splitOn '/' := by
  unfold pieces chars ofChars
  rw [Text.splitOn_singleton, String.toList_ofList]

theorem chars_ofChars (s : List Char) : (ofChars s).chars = s := by
  simp [chars, ofChars]

theorem ofChars_chars (path : Path) : ofChars path.chars = path := by
  simp [chars, ofChars]

theorem pieces_eq (path : Path) : path.pieces = path.chars.splitOn '/' := by
  rw [← ofChars_chars path, pieces_ofChars, chars_ofChars]

theorem slash_notMem_of_mem_pieces {path : Path} {piece : List Char} (h : piece ∈ path.pieces)
    : '/' ∉ piece := by
  rw [pieces_eq] at h
  exact Text.notMem_of_mem_splitOn h

theorem steps_of_pieces {path : Path} {first : List Char} {rest : List (List Char)}
    (h : path.pieces = first :: rest)
    : path.steps
        = (if first = [] ∧ rest ≠ [] then some Step.root
            else if first = ['.'] then some .current
            else Step.ofPiece? first).toList
          ++ rest.filterMap Step.ofPiece? := by
  unfold steps
  rw [h]

theorem steps_slash (before more : List Char)
    : (ofChars (before ++ '/' :: more)).steps
        = (ofChars (before ++ ['/'])).steps ++ (more.splitOn '/').filterMap Step.ofPiece? := by
  obtain ⟨first, rest, hfirst⟩ :=
    List.exists_cons_of_ne_nil (List.splitOn_ne_nil '/' before)
  have hmore : ∀ more : List Char,
      (ofChars (before ++ '/' :: more)).pieces = first :: (rest ++ more.splitOn '/') := by
    intro more
    rw [pieces_ofChars, List.splitOn_append_cons_self, hfirst, List.cons_append]
  rw [steps_of_pieces (hmore more), steps_of_pieces (hmore [])]
  rw [List.filterMap_append, List.filterMap_append, List.append_assoc]
  simp [Step.ofPiece?]

theorem IsName.ofPiece? {name : List Char} (h : IsName name)
    : Step.ofPiece? name = some (.name (String.ofList name)) := by
  simp [Step.ofPiece?, h.ne_nil, h.ne_current, h.ne_parent]

theorem ofPiece?_eq_none_iff {piece : List Char}
    : Step.ofPiece? piece = none ↔ piece = [] ∨ piece = ['.'] := by
  unfold Step.ofPiece?
  split
  . simpa
  . next h =>
    split <;> simpa using h

theorem isName_of_ofPiece? {piece : List Char} {name : String} (hslash : '/' ∉ piece)
    (h : Step.ofPiece? piece = some (.name name)) : IsName piece ∧ piece = name.toList := by
  unfold Step.ofPiece? at h
  split at h
  . simp at h
  . next hplain =>
    rw [not_or] at hplain
    split at h
    . simp at h
    . next hparent =>
      simp only [Option.some.injEq, Step.name.injEq] at h
      refine ⟨⟨hplain.1, hslash, hplain.2, hparent⟩, ?_⟩
      rw [← h, String.toList_ofList]

theorem IsTail.splitOn {tail : List Char} (h : IsTail tail) {name : List Char} (hname : '/' ∉ name)
    : ∃ blanks, (name ++ tail).splitOn '/' = name :: blanks
        ∧ ∀ blank ∈ blanks, blank = [] ∨ blank = ['.'] := by
  induction h generalizing name with
  | nil =>
    refine ⟨[], ?_, by simp⟩
    rw [List.append_nil, List.splitOn_eq_singleton hname]
  | slash _ ih =>
    obtain ⟨blanks, heq, hblanks⟩ := @ih [] (by simp)
    refine ⟨[] :: blanks, ?_, by simpa using hblanks⟩
    rw [List.splitOn_append_cons_self_of_not_mem hname, ← heq]
    rfl
  | dot _ ih =>
    obtain ⟨blanks, heq, hblanks⟩ := @ih ['.'] (by simp)
    refine ⟨['.'] :: blanks, ?_, by simpa using hblanks⟩
    rw [List.splitOn_append_cons_self_of_not_mem hname, ← heq]
    rfl

/-- Blank pieces behind a name are a tail of it. -/
theorem exists_tail_of_blanks (name : List Char) (blanks : List (List Char))
    (h : ∀ blank ∈ blanks, blank = [] ∨ blank = ['.'])
    : ∃ tail, IsTail tail ∧ ['/'].intercalate (name :: blanks) = name ++ tail := by
  induction blanks generalizing name with
  | nil => exact ⟨[], .nil, by simp⟩
  | cons blank blanks ih =>
    rw [List.forall_mem_cons] at h
    obtain ⟨tail, htail, heq⟩ := ih blank h.2
    rw [List.intercalate_cons_cons, heq]
    rcases h.1 with rfl | rfl
    . exact ⟨'/' :: tail, .slash htail, by simp⟩
    . exact ⟨'/' :: '.' :: tail, .dot htail, by simp⟩

section

variable {front name tail : List Char} (hfront : IsFront front) (hname : IsName name)
  (htail : IsTail tail)

include hfront hname htail

theorem steps_name
    : (ofChars (front ++ name ++ tail)).steps
        = (ofChars front).steps ++ [.name (String.ofList name)] := by
  obtain ⟨blanks, hsplit, hblanks⟩ := htail.splitOn hname.slash_notMem
  have hnone : blanks.filterMap Step.ofPiece? = [] := by
    rw [List.filterMap_eq_nil_iff]
    intro blank hblank
    exact ofPiece?_eq_none_iff.mpr (hblanks blank hblank)
  cases hfront with
  | nil =>
    have hpieces : (ofChars (name ++ tail)).pieces = name :: blanks := by
      rw [pieces_ofChars, hsplit]
    rw [List.nil_append, steps_of_pieces hpieces, hnone]
    simp only [hname.ne_nil, hname.ne_current, false_and, if_false, hname.ofPiece?]
    rfl
  | slash before =>
    rw [List.append_assoc, List.append_assoc, List.singleton_append, steps_slash, hsplit]
    rw [List.filterMap_cons, hname.ofPiece?, hnone]

theorem fileName?_name
    : (ofChars (front ++ name ++ tail)).fileName? = some (String.ofList name) := by
  unfold fileName?
  rw [steps_name hfront hname htail, List.getLast?_concat]

end

/-- A path that ends in a name is the name with its front and its tail. -/
theorem exists_of_fileName? {path : Path} {name : String} (h : path.fileName? = some name)
    : ∃ front tail, IsFront front ∧ IsName name.toList ∧ IsTail tail
        ∧ path = ofChars (front ++ name.toList ++ tail) := by
  have hlast : path.steps.getLast? = some (.name name) := by
    unfold fileName? at h
    split at h
    . next hlast => rw [hlast, Option.some.inj h]
    . simp at h
  have hslash : ∀ piece ∈ path.pieces, '/' ∉ piece := fun _ => slash_notMem_of_mem_pieces
  have hchars : path = ofChars (['/'].intercalate path.pieces) := by
    rw [pieces_eq, List.intercalate_splitOn, ofChars_chars]
  obtain ⟨first, rest, hfirst⟩ := List.exists_cons_of_ne_nil
    (pieces_eq path ▸ List.splitOn_ne_nil '/' path.chars : path.pieces ≠ [])
  rw [hfirst] at hslash hchars
  rw [steps_of_pieces hfirst, List.getLast?_append, List.getLast?_filterMap] at hlast
  cases hrest : rest.reverse.findSome? Step.ofPiece? with
  | none =>
    -- The name is the first piece.
    have hblanks : ∀ blank ∈ rest, blank = [] ∨ blank = ['.'] := by
      intro blank hblank
      rw [List.findSome?_eq_none_iff] at hrest
      exact ofPiece?_eq_none_iff.mp (hrest blank (List.mem_reverse.mpr hblank))
    have hstart : Step.ofPiece? first = some (.name name) := by
      rw [hrest, Option.none_or] at hlast
      split at hlast
      . simp at hlast
      . split at hlast
        . simp at hlast
        . cases hpiece : Step.ofPiece? first <;> simp_all
    obtain ⟨hname, rfl⟩ := isName_of_ofPiece? (hslash first List.mem_cons_self) hstart
    obtain ⟨tail, htail, heq⟩ := exists_tail_of_blanks name.toList rest hblanks
    exact ⟨[], tail, .nil, hname, htail, by rw [hchars, heq, List.nil_append]⟩
  | some step =>
    rw [hrest, Option.some_or] at hlast
    obtain ⟨back, piece, front, hsplit, hpiece, hback⟩ := List.findSome?_eq_some_iff.mp hrest
    have hrest : rest = front.reverse ++ piece :: back.reverse := by
      rw [← List.reverse_reverse rest, hsplit]
      simp
    rw [hrest] at hchars hslash
    obtain ⟨hname, rfl⟩ := isName_of_ofPiece? (hslash piece (by simp)) (hpiece.trans hlast)
    obtain ⟨tail, htail, heq⟩ := exists_tail_of_blanks name.toList back.reverse fun blank hblank =>
      ofPiece?_eq_none_iff.mp (hback blank (List.mem_reverse.mp hblank))
    refine ⟨['/'].intercalate (first :: front.reverse) ++ ['/'], tail, .slash _, hname, htail, ?_⟩
    rw [hchars, ← List.cons_append, intercalate_append (by simp) (by simp), heq]
    simp

/-- The extension of a name stands behind its last dot, which is not the first character. -/
theorem splitExtension_append {stem old : List Char} (hstem : stem ≠ []) (hold : '.' ∉ old)
    : splitExtension (stem ++ '.' :: old) = (stem, some old) := by
  have hreverse : (stem ++ '.' :: old).reverse = old.reverse ++ '.' :: stem.reverse := by simp
  have hplain : ∀ c ∈ old.reverse, decide (c ≠ '.') := by
    intro c hc
    have : c ≠ '.' := fun heq => hold (heq ▸ List.mem_reverse.mp hc)
    simpa using this
  unfold splitExtension
  rw [hreverse, dropWhile_append_of_head? hplain (by simp),
    takeWhile_append_of_head? hplain (by simp)]
  obtain ⟨c, rest, hcons⟩ := List.exists_cons_of_ne_nil (List.reverse_ne_nil_iff.mpr hstem)
  rw [← List.reverse_reverse stem, hcons]
  simp

theorem splitExtension_of_notMem {name : List Char} (h : '.' ∉ name.tail)
    : splitExtension name = (name, none) := by
  unfold splitExtension
  cases name with
  | nil => rfl
  | cons c rest =>
    rw [List.tail_cons] at h
    have hplain : ∀ d ∈ rest.reverse, decide (d ≠ '.') := by
      intro d hd
      have : d ≠ '.' := fun heq => h (heq ▸ List.mem_reverse.mp hd)
      simpa using this
    rw [List.reverse_cons, List.dropWhile_append_of_pos hplain]
    by_cases hc : c = '.' <;> simp [hc]

theorem exists_extension_of_mem {name : List Char} (h : '.' ∈ name.tail)
    : ∃ stem old, stem ≠ [] ∧ '.' ∉ old ∧ name = stem ++ '.' :: old := by
  obtain ⟨old, front, hsplit, hold⟩ := List.eq_append_cons_of_mem (List.mem_reverse.mpr h)
  have htail : name.tail = front.reverse ++ '.' :: old.reverse := by
    rw [← List.reverse_reverse name.tail, hsplit]
    simp
  cases name with
  | nil => simp at h
  | cons c rest =>
    rw [List.tail_cons] at htail
    refine ⟨c :: front.reverse, old.reverse, by simp, by simpa using hold, ?_⟩
    rw [htail, List.cons_append]

theorem IsTail.dropTrailing_append {tail : List Char} (h : IsTail tail) (rest : List Char)
    : dropTrailing (tail.reverse ++ rest) = dropTrailing rest := by
  induction h generalizing rest with
  | nil => rfl
  | slash _ ih =>
    rw [List.reverse_cons, List.append_assoc, ih]
    rfl
  | dot _ ih =>
    rw [List.reverse_cons, List.reverse_cons, List.append_assoc, List.append_assoc, ih]
    rfl

theorem IsName.dropTrailing_append {name : List Char} (h : IsName name) (rest : List Char)
    : dropTrailing (name.reverse ++ rest) = name.reverse ++ rest := by
  have hslash : '/' ∉ name.reverse := by simpa using h.slash_notMem
  have hne : name.reverse ≠ [] := by simpa using h.ne_nil
  have hcurrent : name.reverse ≠ ['.'] := by
    rw [Ne, List.reverse_eq_iff]
    exact h.ne_current
  generalize name.reverse = reversed at *
  match reversed with
  | [] => simp at hne
  | [c] =>
    rw [List.singleton_append]
    unfold dropTrailing
    split <;> simp_all
  | c :: d :: others =>
    rw [List.cons_append, List.cons_append]
    unfold dropTrailing
    split <;> simp_all

theorem isPrefix_splitExtension (name : List Char) : (splitExtension name).1 <+: name := by
  by_cases h : '.' ∈ name.tail
  . obtain ⟨stem, old, hstem, hold, rfl⟩ := exists_extension_of_mem h
    rw [splitExtension_append hstem hold]
    exact List.prefix_append stem _
  . refine ⟨[], ?_⟩
    rw [List.append_nil, splitExtension_of_notMem h]

theorem setExtension_name {front name tail : List Char} {extension : String}
    (hfront : IsFront front) (hname : IsName name) (htail : IsTail tail)
    (hextension : extension ≠ "")
    : (ofChars (front ++ name ++ tail)).setExtension extension
        = ofChars (front ++ (splitExtension name).1 ++ '.' :: extension.toList) := by
  have hnamed : (dropTrailing (front ++ name ++ tail).reverse).reverse = front ++ name := by
    rw [List.reverse_append, htail.dropTrailing_append, List.reverse_append,
      hname.dropTrailing_append]
    simp
  have hprefix := isPrefix_splitExtension name
  have hkept : (front ++ name).take ((front ++ name).length
      - ((String.ofList name).length - (splitExtension name).1.length))
      = front ++ (splitExtension name).1 := by
    have hcount : (front ++ name).length
        - ((String.ofList name).length - (splitExtension name).1.length)
        = (front ++ (splitExtension name).1).length := by
      have := hprefix.length_le
      simp only [List.length_append, String.length_ofList]
      omega
    rw [hcount]
    exact (List.prefix_iff_eq_take.mp ((List.prefix_append_right_inj front).mpr hprefix)).symm
  unfold setExtension
  rw [fileName?_name hfront hname htail]
  simp only [chars_ofChars, hnamed, String.toList_ofList, hkept]
  simp [hextension]

theorem extension?_name {front name tail : List Char} (hfront : IsFront front) (hname : IsName name)
    (htail : IsTail tail)
    : (ofChars (front ++ name ++ tail)).extension?
        = (splitExtension name).2.map String.ofList := by
  unfold extension?
  rw [fileName?_name hfront hname htail, Option.bind_some, String.toList_ofList]

theorem IsName.of_extension {stem old : List Char} (hstem : stem ≠ []) (hslash : '/' ∉ stem)
    (hold : '/' ∉ old) (hne : stem ≠ ['.'] ∨ old ≠ []) : IsName (stem ++ '.' :: old) := by
  refine ⟨by simp, by simp [hslash, hold], ?_, ?_⟩
  . simp [List.append_eq_cons_iff, hstem]
  . rw [Ne, List.append_eq_cons_iff]
    rintro (⟨hnil, _⟩ | ⟨rest, rfl, hrest⟩)
    . exact hstem hnil
    . cases rest <;> simp_all

theorem IsTail.take {tail : List Char} (h : IsTail tail) (n : Nat) : IsTail (tail.take n) := by
  induction h generalizing n with
  | nil => simpa using IsTail.nil
  | slash _ ih =>
    cases n with
    | zero => exact .nil
    | succ n => exact .slash (ih n)
  | dot _ ih =>
    match n with
    | 0 => exact .nil
    | 1 => exact .slash .nil
    | n + 2 => exact .dot (ih n)

/-- As many characters as the extension has are taken off the end: of the tail, or of both. -/
theorem exists_kept {front stem old tail : List Char} (hstem : stem ≠ [])
    (hname : IsName (stem ++ '.' :: old)) (htail : IsTail tail) (hdots : tail ≠ [] ∨ stem ≠ ['.'])
    : ∃ kept rest, IsName (stem ++ '.' :: kept) ∧ IsTail rest ∧ kept <+: old
        ∧ (front ++ (stem ++ '.' :: old) ++ tail).take
            ((front ++ (stem ++ '.' :: old) ++ tail).length - old.length)
          = front ++ (stem ++ '.' :: kept) ++ rest := by
  by_cases hlength : old.length ≤ tail.length ∧ tail ≠ []
  . refine ⟨old, tail.take (tail.length - old.length), hname, htail.take _, List.prefix_rfl, ?_⟩
    rw [List.length_append, Nat.add_sub_assoc hlength.1, List.take_length_add_append]
  . have hle : tail.length ≤ old.length := by
      by_cases htail : tail = []
      . simp [htail]
      . have : ¬old.length ≤ tail.length := fun hle => hlength ⟨hle, htail⟩
        omega
    have hslash : '/' ∉ stem ∧ '/' ∉ old := by simpa using hname.slash_notMem
    refine ⟨old.take tail.length, [], ?_, .nil, List.take_prefix _ _, ?_⟩
    . apply IsName.of_extension hstem hslash.1 fun hmem => hslash.2 (List.mem_of_mem_take hmem)
      refine hdots.symm.imp_right fun htail => ?_
      have : 0 < tail.length := List.length_pos_iff.mpr htail
      rw [Ne, List.take_eq_nil_iff, List.length_eq_zero_iff]
      rintro (hnil | rfl)
      . exact htail hnil
      . simp at hle
        exact htail hle
    . have hsplit : front ++ (stem ++ '.' :: old) ++ tail
          = (front ++ stem ++ ['.']) ++ (old ++ tail) := by simp
      have hcount : ((front ++ stem ++ ['.']) ++ (old ++ tail)).length - old.length
          = (front ++ stem ++ ['.']).length + tail.length := by
        simp only [List.length_append]
        omega
      rw [hsplit, hcount, List.take_length_add_append, List.take_append_of_le_length hle]
      simp

/--
An extension takes the place of the one before, whatever stands behind the name. Only of dots at the
end of a path, the last one is not taken for the start of an extension.
-/
theorem withExtension_name {front name tail : List Char} {extension : String}
    (hfront : IsFront front) (hname : IsName name) (htail : IsTail tail)
    (hextension : extension ≠ "")
    (hdots : tail ≠ [] ∨ (splitExtension name).1 ≠ ['.'] ∨ (splitExtension name).2 = none)
    : (ofChars (front ++ name ++ tail)).withExtension extension
        = ofChars (front ++ (splitExtension name).1 ++ '.' :: extension.toList) := by
  unfold withExtension
  rw [extension?_name hfront hname htail]
  by_cases h : '.' ∈ name.tail
  . obtain ⟨stem, old, hstem, hold, rfl⟩ := exists_extension_of_mem h
    rw [splitExtension_append hstem hold] at hdots ⊢
    obtain ⟨kept, rest, hkept, hrest, hinside, htake⟩ :=
      @exists_kept front _ _ _ hstem hname htail (by simpa using hdots)
    simp only [Option.map_some, chars_ofChars, String.length_ofList]
    rw [htake, setExtension_name hfront hkept hrest hextension]
    rw [splitExtension_append hstem fun hmem => hold (hinside.subset hmem)]
  . rw [splitExtension_of_notMem h]
    have hset := setExtension_name hfront hname htail hextension
    rwa [splitExtension_of_notMem h] at hset

theorem setExtension_of_fileName?_eq_none {path : Path} (h : path.fileName? = none)
    (extension : String) : path.setExtension extension = path := by
  unfold setExtension
  rw [h]

theorem withExtension_of_fileName?_eq_none {path : Path} (h : path.fileName? = none)
    (extension : String) : path.withExtension extension = path := by
  have hnone : path.extension? = none := by
    unfold extension?
    rw [h, Option.bind_none]
  unfold withExtension
  rw [hnone]
  exact setExtension_of_fileName?_eq_none h extension

theorem steps_parent {front : List Char} (hfront : IsFront front)
    : (ofChars (front ++ ['.', '.'])).steps = (ofChars front).steps ++ [.parent] := by
  cases hfront with
  | nil => rfl
  | slash before =>
    rw [List.append_assoc, List.singleton_append, steps_slash]
    rfl

theorem fileName?_parent {front : List Char} (hfront : IsFront front)
    : (ofChars (front ++ ['.', '.'])).fileName? = none := by
  unfold fileName?
  rw [steps_parent hfront, List.getLast?_concat]

/-- Of a name with two dots in front, the dots are left, and they are no name. -/
theorem withExtension_dots {front old : List Char} (hfront : IsFront front) (hold : '.' ∉ old)
    (hslash : '/' ∉ old) (extension : String)
    : (ofChars (front ++ '.' :: '.' :: old)).withExtension extension
        = ofChars (front ++ ['.', '.']) := by
  cases old with
  | nil => exact withExtension_of_fileName?_eq_none (fileName?_parent hfront) extension
  | cons c rest =>
    have hname : IsName (['.'] ++ '.' :: (c :: rest)) :=
      IsName.of_extension (by simp) (by simp) hslash (.inr (by simp))
    have hextension := extension?_name hfront hname .nil
    rw [splitExtension_append (by simp) hold, List.append_nil] at hextension
    have htake : (front ++ '.' :: '.' :: (c :: rest)).take
        ((front ++ '.' :: '.' :: (c :: rest)).length - (c :: rest).length)
        = front ++ ['.', '.'] := by
      have hsplit : front ++ '.' :: '.' :: (c :: rest) = (front ++ ['.', '.']) ++ (c :: rest) := by
        simp
      rw [hsplit, List.length_append, Nat.add_sub_cancel, List.take_left]
    unfold withExtension
    rw [show front ++ '.' :: '.' :: c :: rest = front ++ (['.'] ++ '.' :: c :: rest) from rfl,
      hextension]
    simp only [Option.map_some, chars_ofChars, String.length_ofList]
    rw [List.singleton_append, htake]
    exact setExtension_of_fileName?_eq_none (fileName?_parent hfront) extension

/-- A path that names no directory that could be made: an empty one, or the root. -/
def IsBare (path : Path) : Prop :=
  path.steps = [] ∨ path.steps = [.root]

instance (path : Path) : Decidable path.IsBare :=
  inferInstanceAs (Decidable (_ ∨ _))

theorem ofPiece?_ne_root (piece : List Char) : Step.ofPiece? piece ≠ some .root := by
  unfold Step.ofPiece?
  split
  . simp
  . split <;> simp

/-- Such a path is the root, if it is not empty. -/
theorem root_of_isBare {path : Path} (h : path.IsBare) (hempty : path.written ≠ "")
    : path.steps = [.root] ∧ path.isAbsolute = true
        ∧ ∀ blank ∈ path.pieces, blank = [] ∨ blank = ['.'] := by
  have hroot : ∀ step ∈ path.steps, step = .root := by
    rcases h with h | h <;> simp [h]
  have hchars : ['/'].intercalate path.pieces = path.chars := by
    rw [pieces_eq, List.intercalate_splitOn]
  obtain ⟨first, rest, hfirst⟩ :=
    List.exists_cons_of_ne_nil (pieces_eq path ▸ List.splitOn_ne_nil '/' path.chars)
  rw [steps_of_pieces hfirst, List.forall_mem_append] at hroot
  have hblanks : ∀ blank ∈ rest, blank = [] ∨ blank = ['.'] := by
    intro blank hblank
    rw [← ofPiece?_eq_none_iff, Option.eq_none_iff_forall_ne_some]
    rintro step hstep
    obtain rfl := hroot.2 step (List.mem_filterMap.mpr ⟨blank, hblank, hstep⟩)
    exact ofPiece?_ne_root blank hstep
  -- A first piece that were not empty would be a step of its own.
  have hnil : first = [] := by
    by_contra hne
    rw [if_neg fun hnil => hne hnil.1] at hroot
    split at hroot
    . simpa using hroot.1 .current
    . next hcurrent =>
      cases hpiece : Step.ofPiece? first with
      | none => exact absurd (ofPiece?_eq_none_iff.mp hpiece) (by simp [hne, hcurrent])
      | some step =>
        obtain rfl := hroot.1 step (by simp [hpiece])
        exact ofPiece?_ne_root first hpiece
  subst hnil
  cases rest with
  | nil =>
    rw [hfirst, List.intercalate_singleton] at hchars
    exact absurd hchars.symm (by simpa [chars] using hempty)
  | cons blank rest =>
    rw [hfirst, List.intercalate_cons_cons] at hchars
    have habsolute : path.isAbsolute = true := by
      unfold isAbsolute
      simp [← hchars]
    rw [hfirst, List.forall_mem_cons]
    refine ⟨h.resolve_left ?_, habsolute, .inl rfl, hblanks⟩
    rw [steps_of_pieces hfirst]
    simp

/-- What stands in front of a path that is seen from a directory. -/
def front (directory : Path) : List Char :=
  directory.chars
    ++ if directory.chars.isEmpty ∨ directory.chars.getLast? = some '/' then [] else ['/']

theorem isFront_front (directory : Path) : IsFront directory.front := by
  unfold front
  split
  . next h =>
    rw [List.append_nil]
    cases h with
    | inl hempty =>
      rw [List.isEmpty_iff.mp hempty]
      exact .nil
    | inr hlast =>
      obtain ⟨before, hbefore⟩ := List.getLast?_eq_some_iff.mp hlast
      rw [hbefore]
      exact .slash before
  . exact .slash directory.chars

theorem join_eq (directory : Path) {s : List Char} (h : s.head? ≠ some '/')
    : directory.join (ofChars s) = ofChars (directory.front ++ s) := by
  unfold join isAbsolute front
  rw [chars_ofChars, if_neg (by simpa using h)]

theorem holdsNul_of_join {directory : Path} {s : List Char} (h : s.head? ≠ some '/')
    (hjoin : (directory.join (ofChars s)).holdsNul = false) : directory.holdsNul = false := by
  rw [join_eq directory h] at hjoin
  unfold holdsNul front at *
  simp_all [chars_ofChars]

theorem splitOn_front {front : List Char} (hfront : IsFront front) (s : List Char)
    : (front ++ s).splitOn '/' = (front.splitOn '/').dropLast ++ s.splitOn '/' := by
  cases hfront with
  | nil =>
    rw [List.nil_append, List.splitOn_nil]
    rfl
  | slash before =>
    rw [List.append_assoc, List.singleton_append, List.splitOn_append_cons_self,
      List.splitOn_append_cons_self, List.splitOn_nil, List.dropLast_concat]

theorem utf8ByteSize_le_join (directory : Path) {s : List Char} (h : s.head? ≠ some '/')
    : directory.written.utf8ByteSize ≤ (directory.join (ofChars s)).written.utf8ByteSize := by
  rw [join_eq directory h]
  unfold front ofChars chars
  dsimp only
  rw [List.append_assoc, String.ofList_append, String.ofList_toList, String.utf8ByteSize_append]
  exact Nat.le_add_right _ _

theorem pieces_front {front s : List Char} (hfront : IsFront front) (hs : '/' ∉ s)
    : (ofChars (front ++ s)).pieces = (front.splitOn '/').dropLast ++ [s] := by
  rw [pieces_ofChars, splitOn_front hfront, List.splitOn_eq_singleton hs]

theorem exists_front_of_pieces {path : Path} {before : List (List Char)} {last : List Char}
    (h : path.pieces = before ++ [last])
    : ∃ front, IsFront front ∧ path = ofChars (front ++ last) := by
  have hpath : path = ofChars (['/'].intercalate (before ++ [last])) := by
    rw [← h, pieces_eq, List.intercalate_splitOn, ofChars_chars]
  by_cases hbefore : before = []
  . refine ⟨[], .nil, ?_⟩
    rw [hpath, hbefore, List.nil_append, List.intercalate_singleton, List.nil_append]
  . refine ⟨['/'].intercalate before ++ ['/'], .slash _, ?_⟩
    rw [hpath, intercalate_append hbefore (by simp), List.intercalate_singleton, List.append_assoc]

theorem isAbsolute_join {directory : Path} (h : directory.written ≠ "") {s : List Char}
    (hs : s.head? ≠ some '/')
    : (directory.join (ofChars s)).isAbsolute = directory.isAbsolute := by
  have hne : directory.chars ≠ [] := by simpa [chars] using h
  rw [join_eq directory hs]
  unfold isAbsolute front
  rw [chars_ofChars, List.append_assoc, head?_append_of_ne_nil hne]

theorem isAbsolute_name {front name : List Char} (hfront : IsFront front) (hname : IsName name)
    (tail : List Char)
    : (ofChars (front ++ name ++ tail)).isAbsolute = (front.head? = some '/' : Bool) := by
  unfold isAbsolute
  rw [chars_ofChars]
  cases hfront with
  | nil =>
    rw [List.nil_append, head?_append_of_ne_nil hname.ne_nil]
    have : name.head? ≠ some '/' := fun hhead => hname.slash_notMem (List.mem_of_head? hhead)
    simpa using this
  | slash before =>
    rw [List.append_assoc (before ++ ['/']), head?_append_of_ne_nil (by simp)]

theorem steps_front (directory : Path) : (ofChars directory.front).steps = directory.steps := by
  unfold front
  split
  . rw [List.append_nil, ofChars_chars]
  . next h =>
    rw [not_or, List.isEmpty_iff] at h
    obtain ⟨first, rest, hfirst⟩ :=
      List.exists_cons_of_ne_nil (List.splitOn_ne_nil '/' directory.chars)
    have hslash : (ofChars (directory.chars ++ ['/'])).pieces = first :: (rest ++ [[]]) := by
      rw [pieces_ofChars, List.splitOn_append_cons_self, hfirst]
      rfl
    have hpieces : directory.pieces = first :: rest := by
      rw [← hfirst, ← pieces_ofChars, ofChars_chars]
    -- Only an empty path would become the root by the slash.
    have hfirst : first = [] → rest ≠ [] := by
      rintro rfl rfl
      have : ['/'].intercalate (directory.chars.splitOn '/') = directory.chars :=
        List.intercalate_splitOn '/'
      rw [hfirst] at this
      exact h.1 this.symm
    rw [steps_of_pieces hslash, steps_of_pieces hpieces, List.filterMap_append]
    by_cases hnil : first = [] <;> simp [hnil, hfirst, Step.ofPiece?]

theorem steps_join_name (directory : Path) {name : List Char} (hname : IsName name)
    : (directory.join (ofChars name)).steps
        = directory.steps ++ [.name (String.ofList name)] := by
  have hhead : name.head? ≠ some '/' := by
    intro hhead
    exact hname.slash_notMem (List.mem_of_head? hhead)
  have hsteps := steps_name directory.isFront_front hname .nil
  rw [List.append_nil, steps_front] at hsteps
  rw [join_eq directory hhead, hsteps]

theorem IsTail.append {tail other : List Char} (h : IsTail tail) (hother : IsTail other)
    : IsTail (tail ++ other) := by
  induction h with
  | nil => exact hother
  | slash _ ih => exact .slash ih
  | dot _ ih => exact .dot ih

/-- A lone dot behind a directory is a part of the tail of its name. -/
theorem exists_tail_current {directory : Path} {front name tail : List Char} (hname : IsName name)
    (htail : IsTail tail) (heq : directory = ofChars (front ++ name ++ tail))
    : ∃ other, IsTail other ∧ other ≠ []
        ∧ directory.join (ofChars ['.']) = ofChars (front ++ name ++ other) := by
  have hchars : directory.chars = front ++ name ++ tail := by rw [heq, chars_ofChars]
  have hne : directory.chars ≠ [] := by
    rw [hchars]
    simp [hname.ne_nil]
  rw [join_eq directory (by simp), Path.front, hchars]
  split
  . next h =>
    rw [hchars, List.isEmpty_iff] at *
    have hlast := h.resolve_left hne
    cases tail using List.reverseRecOn with
    | nil =>
      rw [List.append_nil, List.getLast?_append_of_ne_nil _ hname.ne_nil] at hlast
      exact absurd (List.mem_of_getLast? hlast) hname.slash_notMem
    | append_singleton before c =>
      rw [← List.append_assoc, List.getLast?_concat, Option.some.injEq] at hlast
      subst hlast
      have hbefore : IsTail before := by
        have := htail.take before.length
        rwa [List.take_left] at this
      exact ⟨before ++ ['/', '.'], hbefore.append (.dot .nil), by simp, by simp⟩
  . exact ⟨tail ++ ['/', '.'], htail.append (.dot .nil), by simp, by simp⟩

theorem steps_join_current (directory : Path)
    : (directory.join (ofChars ['.'])).steps
        = if directory.written = "" then [.current] else directory.steps := by
  have hfront := directory.isFront_front
  rw [join_eq directory (by simp), ← directory.steps_front]
  split
  . next h =>
    have : directory.front = [] := by simp [front, chars, h]
    rw [this]
    rfl
  . next h =>
    have hne : directory.front ≠ [] := by simp [front, chars, h]
    generalize directory.front = front at *
    cases hfront with
    | nil => exact absurd rfl hne
    | slash before =>
      rw [List.append_assoc, List.singleton_append, steps_slash]
      exact List.append_nil _

end DirectedMarkdown.Path
