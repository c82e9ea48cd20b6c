import DirectedMarkdown.Proofs.Except
import DirectedMarkdown.Toml.Parser

/-!
This module contains the names in the tables of a document. No name comes twice in a table that the
document has an entry for, whether a header, names with dots, or braces made it.
-/

namespace DirectedMarkdown.Toml

/-- Entries with different names. -/
def Distinct {α : Type} (entries : List (String × α)) : Prop :=
  (entries.map Prod.fst).Nodup

/-- The entries of a value have different names, if it is a table. -/
def Value.IsDistinct : Value → Prop
  | table entries => Distinct entries
  | _ => True

namespace Node

/-- The entries of a part have different names, if it is a table. -/
def IsDistinct : Node → Prop
  | value v => v.IsDistinct
  | table _ entries => Distinct entries
  | elements _ _ => True

/-- The entries have different names, and so have those of the tables among them. -/
structure WellNamed (entries : Entries) : Prop where
  distinct : Distinct entries
  parts : ∀ entry ∈ entries, entry.2.IsDistinct

/-- A change of a table that keeps names different. -/
structure Keeps (change : Entries → Option Entries) : Prop where
  distinct : ∀ entries next, change entries = some next → Distinct entries → Distinct next
  wellNamed : ∀ entries next, change entries = some next → WellNamed entries → WellNamed next

section Alter

variable {name : String} {change : Option Node → Option Node} {entries next : Entries}

theorem names_alter (h : alter name change entries = some next)
    : next.map Prod.fst
        = if name ∈ entries.map Prod.fst then entries.map Prod.fst
          else entries.map Prod.fst ++ [name] := by
  induction entries generalizing next with
  | nil =>
    simp only [alter, Option.map_eq_some_iff] at h
    obtain ⟨node, _, rfl⟩ := h
    rfl
  | cons entry rest ih =>
    unfold alter at h
    split at h
    . next heq =>
      simp only [Option.map_eq_some_iff] at h
      obtain ⟨node, _, rfl⟩ := h
      simp [heq]
    . next hne =>
      simp only [Option.map_eq_some_iff] at h
      obtain ⟨altered, haltered, rfl⟩ := h
      have : ¬name = entry.1 := fun heq => hne heq.symm
      rw [List.map_cons, ih haltered]
      by_cases hname : name ∈ rest.map Prod.fst <;> simp_all

theorem distinct_alter (h : alter name change entries = some next) (hdistinct : Distinct entries)
    : Distinct next := by
  unfold Distinct at *
  rw [names_alter h]
  split
  . exact hdistinct
  . next hname =>
    rw [List.nodup_append]
    refine ⟨hdistinct, by simp, ?_⟩
    rintro other hother _ hlast rfl
    rw [List.mem_singleton] at hlast
    exact hname (hlast ▸ hother)

theorem mem_of_mem_alter (h : alter name change entries = some next) {entry : String × Node}
    (hentry : entry ∈ next)
    : entry ∈ entries
        ∨ ∃ before, (∀ node, before = some node → (name, node) ∈ entries)
          ∧ change before = some entry.2 := by
  induction entries generalizing next with
  | nil =>
    simp only [alter, Option.map_eq_some_iff] at h
    obtain ⟨node, hnode, rfl⟩ := h
    rw [List.mem_singleton] at hentry
    exact .inr ⟨none, by simp, by rw [hnode, hentry]⟩
  | cons first rest ih =>
    unfold alter at h
    split at h
    . next heq =>
      simp only [Option.map_eq_some_iff] at h
      obtain ⟨node, hnode, rfl⟩ := h
      rw [List.mem_cons] at hentry
      cases hentry with
      | inl hnew =>
        refine .inr ⟨some first.2, ?_, by rw [hnode, hnew]⟩
        rintro _ ⟨⟩
        rw [← heq]
        exact List.mem_cons_self
      | inr hrest => exact .inl (List.mem_cons_of_mem _ hrest)
    . simp only [Option.map_eq_some_iff] at h
      obtain ⟨altered, haltered, rfl⟩ := h
      rw [List.mem_cons] at hentry
      cases hentry with
      | inl hfirst => exact .inl (hfirst ▸ List.mem_cons_self)
      | inr haltered' =>
        rcases ih haltered haltered' with hrest | ⟨before, hbefore, hchange⟩
        . exact .inl (List.mem_cons_of_mem _ hrest)
        . exact .inr
            ⟨before, fun node hnode => List.mem_cons_of_mem _ (hbefore node hnode), hchange⟩

/-- A part may be changed to one with different names. -/
theorem keeps_alter (name : String)
    (hchange : ∀ before after, change before = some after →
      (∀ node, before = some node → node.IsDistinct) → after.IsDistinct)
    : Keeps (alter name change) where
  distinct := fun _ _ => distinct_alter
  wellNamed := by
    intro entries next h hentries
    refine ⟨distinct_alter h hentries.distinct, ?_⟩
    intro entry hentry
    rcases mem_of_mem_alter h hentry with hmem | ⟨before, hbefore, hafter⟩
    . exact hentries.parts entry hmem
    . apply hchange before entry.2 hafter
      intro node hnode
      exact hentries.parts (name, node) (hbefore node hnode)

end Alter

theorem distinct_within {made origin : Origin} {change : Origin → Entries → Option Entries}
    (hchange : ∀ origin entries next, change origin entries = some next →
      Distinct entries → Distinct next)
    {path : List String} {entries next : Entries}
    (h : within made change path origin entries = some next) (hdistinct : Distinct entries)
    : Distinct next := by
  cases path with
  | nil => exact hchange origin entries next h hdistinct
  | cons name path => exact distinct_alter h hdistinct

theorem Keeps.within {made : Origin} {change : Origin → Entries → Option Entries}
    (h : ∀ origin, Keeps (change origin)) (path : List String) (origin : Origin)
    : Keeps (within made change path origin) := by
  cases path with
  | nil => exact h origin
  | cons name path =>
    apply keeps_alter
    intro before after hafter hbefore
    have hnew : ∀ {origin inner next}, Node.within made change path origin inner = some next →
        Distinct inner → Distinct next := distinct_within fun origin => (h origin).distinct
    match before with
    | none =>
      simp only [Option.map_eq_some_iff] at hafter
      obtain ⟨inner, hinner, rfl⟩ := hafter
      exact hnew hinner List.nodup_nil
    | some (value _) => simp at hafter
    | some (table origin inner) =>
      dsimp only at hafter
      split at hafter
      . simp at hafter
      . simp only [Option.map_eq_some_iff] at hafter
        obtain ⟨next, hnext, rfl⟩ := hafter
        exact hnew hnext (hbefore _ rfl)
    | some (elements earlier last) =>
      simp only [Option.map_eq_some_iff] at hafter
      obtain ⟨next, _, rfl⟩ := hafter
      trivial

theorem keeps_openTable (path : List String) (name : String) : Keeps (openTable path name) := by
  apply Keeps.within
  intro _
  apply keeps_alter
  intro before after hafter hbefore
  split at hafter
  . rw [← Option.some.inj hafter]
    exact List.nodup_nil
  . next inner =>
    have hinner := hbefore (table .implied inner) rfl
    rw [← Option.some.inj hafter]
    exact hinner
  . simp at hafter

theorem keeps_openElement (path : List String) (name : String)
    : Keeps (openElement path name) := by
  apply Keeps.within
  intro _
  apply keeps_alter
  intro before after hafter _
  split at hafter
  . rw [← Option.some.inj hafter]
    trivial
  . rw [← Option.some.inj hafter]
    trivial
  . simp at hafter

theorem keeps_assign (path : List String) (name : String) {v : Value} (h : v.IsDistinct)
    (origin : Origin) : Keeps (assign path name v origin) := by
  apply Keeps.within
  intro origin
  split
  . exact ⟨by simp, by simp⟩
  . apply keeps_alter
    intro before after hafter _
    split at hafter
    . rw [← Option.some.inj hafter]
      exact h
    . simp at hafter

theorem distinct_assign {path : List String} {name : String} {v : Value} {origin : Origin}
    {entries next : Entries} (h : assign path name v origin entries = some next)
    (hdistinct : Distinct entries) : Distinct next := by
  refine distinct_within ?_ h hdistinct
  intro origin entries next hnext
  split at hnext
  . simp at hnext
  . exact distinct_alter hnext

theorem names_entriesToTable (entries : Entries)
    : (entriesToTable entries).map Prod.fst = entries.map Prod.fst := by
  induction entries with
  | nil => rfl
  | cons entry rest ih =>
    obtain ⟨name, node⟩ := entry
    simp [entriesToTable, entryToValue, ih]

theorem exists_of_mem_entriesToTable {entries : Entries} {entry : String × Value}
    (h : entry ∈ entriesToTable entries)
    : ∃ node, (entry.1, node) ∈ entries ∧ entry.2 = node.toValue := by
  induction entries with
  | nil => simp [entriesToTable] at h
  | cons first rest ih =>
    obtain ⟨name, node⟩ := first
    rw [entriesToTable, entryToValue, List.mem_cons] at h
    cases h with
    | inl heq =>
      rw [heq]
      exact ⟨node, List.mem_cons_self, rfl⟩
    | inr hrest =>
      obtain ⟨node, hnode, hvalue⟩ := ih hrest
      exact ⟨node, List.mem_cons_of_mem _ hnode, hvalue⟩

theorem IsDistinct.toValue {node : Node} (h : node.IsDistinct) : node.toValue.IsDistinct := by
  cases node with
  | value v => exact h
  | table origin entries =>
    show Distinct (entriesToTable entries)
    unfold Distinct
    rw [names_entriesToTable]
    exact h
  | elements earlier last => trivial

end Node

theorem distinct_entriesToTable {entries : Node.Entries}
    : Distinct (Node.entriesToTable entries) ↔ Distinct entries := by
  unfold Distinct
  rw [Node.names_entriesToTable]

theorem distinct_of_go {assignments : List (Key × Value)} {entries last : Node.Entries}
    (h : Table.ofAssignments?.go entries assignments = some last) (hentries : Distinct entries)
    : Distinct last := by
  induction assignments generalizing entries with
  | nil =>
    rw [← Option.some.inj h]
    exact hentries
  | cons assignment rest ih =>
    unfold Table.ofAssignments?.go at h
    split at h
    . simp at h
    . next after hafter => exact ih h (Node.distinct_assign hafter hentries)

theorem distinct_ofAssignments? {assignments : List (Key × Value)} {table : Table}
    (h : Table.ofAssignments? assignments = some table) : Distinct table := by
  unfold Table.ofAssignments? at h
  rw [Option.map_eq_some_iff] at h
  obtain ⟨entries, hgo, rfl⟩ := h
  rw [distinct_entriesToTable]
  exact distinct_of_go hgo List.nodup_nil

theorem isDistinct_of_readItems? {fuel depth : Nat} {items : List Value} {s rest : List Char}
    {v : Value} (h : readItems? fuel depth items s = some (v, rest)) : v.IsDistinct := by
  induction fuel generalizing items s with
  | zero => simp [readItems?] at h
  | succ fuel ih =>
    unfold readItems? at h
    split at h
    . simp only [Option.some.injEq, Prod.mk.injEq] at h
      rw [← h.1]
      trivial
    . split at h
      . simp at h
      . split at h
        . exact ih h
        . simp only [Option.some.injEq, Prod.mk.injEq] at h
          rw [← h.1]
          trivial
        . simp at h

theorem isDistinct_of_ofWord? {word : List Char} {v : Value} (h : Value.ofWord? word = some v)
    : v.IsDistinct := by
  unfold Value.ofWord? at h
  split at h
  . rw [← Option.some.inj h]
    trivial
  . rw [← Option.some.inj h]
    trivial
  . split at h
    . rw [← Option.some.inj h]
      trivial
    . rw [← Option.some.inj h]
      trivial
    . rw [← Option.some.inj h]
      trivial
    . simp at h

theorem isDistinct_of_readValue? {fuel depth : Nat} {s rest : List Char} {v : Value}
    (h : readValue? fuel depth s = some (v, rest)) : v.IsDistinct := by
  cases fuel with
  | zero => simp [readValue?] at h
  | succ fuel =>
    unfold readValue? at h
    split at h
    . rw [Option.map_eq_some_iff] at h
      obtain ⟨_, _, heq⟩ := h
      rw [← (Prod.mk.inj heq).1]
      trivial
    . rw [Option.map_eq_some_iff] at h
      obtain ⟨_, _, heq⟩ := h
      rw [← (Prod.mk.inj heq).1]
      trivial
    . split at h
      . simp at h
      . exact isDistinct_of_readItems? h
    . split at h
      . simp at h
      . split at h
        . simp at h
        . rw [Option.map_eq_some_iff] at h
          obtain ⟨table, htable, heq⟩ := h
          rw [← (Prod.mk.inj heq).1]
          exact distinct_ofAssignments? htable
    . dsimp only at h
      rw [Option.map_eq_some_iff] at h
      obtain ⟨_, hword, heq⟩ := h
      rw [← (Prod.mk.inj heq).1]
      exact isDistinct_of_ofWord? hword

/-- The value of an assignment has different names if it is a table. -/
def Statement.IsDistinct : Statement → Prop
  | assign _ v => v.IsDistinct
  | _ => True

theorem isDistinct_of_readStatement? {s rest : List Char} {statement : Statement}
    (h : readStatement? s = some (statement, rest)) : statement.IsDistinct := by
  unfold readStatement? at h
  split at h
  . split at h
    . rw [← (Prod.mk.inj (Option.some.inj h)).1]
      trivial
    . simp at h
  . split at h
    . rw [← (Prod.mk.inj (Option.some.inj h)).1]
      trivial
    . simp at h
  . split at h
    . rw [Option.map_eq_some_iff] at h
      obtain ⟨_, hvalue, heq⟩ := h
      rw [← (Prod.mk.inj heq).1]
      exact isDistinct_of_readValue? hvalue
    . simp at h

theorem isDistinct_of_readStatements {fuel : Nat} {s : List Char} {statements : List Statement}
    (h : readStatements fuel s = .ok statements)
    : ∀ statement ∈ statements, statement.IsDistinct := by
  induction fuel generalizing s statements with
  | zero => simp [readStatements] at h
  | succ fuel ih =>
    unfold readStatements at h
    split at h
    . rw [← Except.ok.inj h]
      simp
    . split at h
      . simp at h
      . next statement rest hstatement =>
        have hfirst := isDistinct_of_readStatement? hstatement
        split at h
        . rw [← Except.ok.inj h, List.forall_mem_singleton]
          exact hfirst
        . obtain ⟨others, hothers, rfl⟩ := except_map_eq_ok h
          rw [List.forall_mem_cons]
          exact ⟨hfirst, ih hothers⟩
        . obtain ⟨others, hothers, rfl⟩ := except_map_eq_ok h
          rw [List.forall_mem_cons]
          exact ⟨hfirst, ih hothers⟩
        . simp at h

open Node in
theorem wellNamed_of_go {current : List String} {entries : Entries} {statements : List Statement}
    {table : Table} (h : Table.ofStatements.go current entries statements = .ok table)
    (hstatements : ∀ statement ∈ statements, statement.IsDistinct) (hentries : WellNamed entries)
    : ∃ last, WellNamed last ∧ table = entriesToTable last := by
  induction statements generalizing current entries with
  | nil => exact ⟨entries, hentries, (Except.ok.inj h).symm⟩
  | cons statement rest ih =>
    rw [List.forall_mem_cons] at hstatements
    cases statement with
    | table key =>
      unfold Table.ofStatements.go at h
      split at h
      . simp at h
      . next after hafter =>
        have hkeeps := keeps_openTable key.path key.name
        exact ih h hstatements.2 (hkeeps.wellNamed entries after hafter hentries)
    | element key =>
      unfold Table.ofStatements.go at h
      split at h
      . simp at h
      . next after hafter =>
        have hkeeps := keeps_openElement key.path key.name
        exact ih h hstatements.2 (hkeeps.wellNamed entries after hafter hentries)
    | assign key v =>
      unfold Table.ofStatements.go at h
      split at h
      . simp at h
      . next after hafter =>
        have hkeeps : Keeps (Node.within .implied (assign key.path key.name v) current .header) :=
          Keeps.within (keeps_assign key.path key.name hstatements.1) current .header
        exact ih h hstatements.2 (hkeeps.wellNamed entries after hafter hentries)

/-- The tables that a document has entries for have different names. -/
theorem isDistinct_of_ofText {document : String} {table : Table}
    (h : Table.ofText document = .ok table) {name : String} {v : Value}
    (hentry : (name, v) ∈ table) : v.IsDistinct := by
  unfold Table.ofText at h
  dsimp only at h
  split at h
  . simp at h
  . next statements hread =>
    obtain ⟨last, hlast, rfl⟩ := wellNamed_of_go h (isDistinct_of_readStatements hread)
      ⟨List.nodup_nil, by simp⟩
    obtain ⟨node, hnode, rfl⟩ := Node.exists_of_mem_entriesToTable hentry
    exact (hlast.parts (name, node) hnode).toValue

end DirectedMarkdown.Toml
