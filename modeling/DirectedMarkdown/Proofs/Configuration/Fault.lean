import DirectedMarkdown.Proofs.Configuration.Layer

/-!
This module contains why a configuration cannot be loaded: for its file, for the document in it,
for an entry of the table of settings in the order of their names, for the extension, or for an
override. The first fault on this way is the one that is reported.
-/

namespace DirectedMarkdown.Configuration

open Session Surroundings

/-- An entry of a document has a value, and the field with its name, if any, takes it. -/
def EntrySound (name : String) (written : Toml.Value) : Prop :=
  ∃ value, Stands written value ∧ Fits name value

/-- What is wrong with an entry of a document. -/
inductive EntryFault (name : String) (written : Toml.Value) : Fault → Prop where
  | notSimple : (∀ value, ¬Stands written value) → EntryFault name written (.notSimple name)
  | wrongKind {field : Field} {value : Value}
    : field.name = name → Stands written value → value.kindName ≠ field.kind.expected →
      EntryFault name written (.wrongKind name field.kind.expected value.kindName)

/-- An override gives a value to a field. -/
def OverrideSound (name word : String) : Prop :=
  ∃ field : Field, field.name = name ∧ ∃ value, Sets field word value

/-- What is wrong with an override. -/
inductive OverrideFault (name word : String) : Fault → Prop where
  | unknownSetting
    : (∀ field : Field, field.name ≠ name) → OverrideFault name word (.unknownSetting name)
  | notSwitch {field : Field}
    : field.name = name → field.kind.expected = "boolean" → word ∉ onWords ++ offWords →
      OverrideFault name word (.notSwitch name word)

/-- What is wrong with an extension. -/
inductive ExtensionFault : String → Fault → Prop where
  | empty : ExtensionFault "" .emptyExtension
  | notBare {extension : String}
    : extension ≠ "" → ¬IsBare extension → ExtensionFault extension (.notBareExtension extension)

/-- What is wrong with the first of the entries that is not sound. -/
inductive FirstFault {α : Type} (sound : String → α → Prop) (fault : String → α → Fault → Prop)
    : List (String × α) → Fault → Prop where
  | here {name : String} {written : α} {rest : List (String × α)} {e : Fault}
    : fault name written e → FirstFault sound fault ((name, written) :: rest) e
  | later {name : String} {written : α} {rest : List (String × α)} {e : Fault}
    : sound name written → FirstFault sound fault rest e →
      FirstFault sound fault ((name, written) :: rest) e

/-- The first thing that is wrong with a document. -/
inductive DocumentFault (document : String) : LoadError → Prop where
  | toml {e : Toml.Error}
    : Toml.Table.ofText document = .error e → DocumentFault document (.malformed (.toml e))
  | formatter {entries : Toml.Table}
    : Toml.Table.ofText document = .ok entries → formatterTable? entries = none →
      DocumentFault document (.malformed (.unexpected "formatter"))
  | output {entries table : Toml.Table}
    : Toml.Table.ofText document = .ok entries → formatterTable? entries = some table →
      outputExtension? entries = none → DocumentFault document (.malformed (.unexpected "output"))
  | entry {table ascending : Toml.Table} {extension : String} {fault : Fault}
    : Holds document table extension → ascending.Perm table → ascending.Pairwise (·.1 < ·.1) →
      FirstFault EntrySound EntryFault ascending fault → DocumentFault document (.invalid fault)
  | extension {table : Toml.Table} {extension : String} {fault : Fault}
    : Holds document table extension → (∀ entry ∈ table, EntrySound entry.1 entry.2) →
      ExtensionFault extension fault → DocumentFault document (.invalid fault)

/-- The file that a configuration is read from: the one that is named, or else the one found. -/
inductive Chosen (session : Session) : Option Path → Path → Prop where
  | named {path : Path}
    : session.tree.isThere session.directory path → Chosen session (some path) path
  | found {path : Path} : (session.run discover).1 = some path → Chosen session none path

/-- The first thing that is wrong when a configuration is loaded. -/
inductive LoadFault (session : Session) (adjustments : Adjustments)
    : Option Path → LoadError → Prop where
  | notFound {path : Path}
    : ¬session.tree.isThere session.directory path →
      LoadFault session adjustments (some path) (.notFound path)
  | file {named : Option Path} {path : Path} {e : FileError}
    : Chosen session named path → session.tree.readFile session.directory path = .error e →
      LoadFault session adjustments named (.file e)
  | document {named : Option Path} {path : Path} {document : String} {e : LoadError}
    : Chosen session named path → session.tree.readFile session.directory path = .ok document →
      DocumentFault document e → LoadFault session adjustments named e
  | override {named : Option Path} {source : Source} {fault : Fault}
    : Supplies session named source → source.Sound →
      FirstFault OverrideSound OverrideFault adjustments.overrides fault →
      LoadFault session adjustments named (.invalid fault)

variable {name word extension : String} {written : Toml.Value} {value : Value} {fault : Fault}

theorem entryFault_of_readSetting (h : readSetting name written = .error fault)
    : EntryFault name written fault := by
  unfold readSetting at h
  split at h
  . next found hvalue =>
    obtain rfl := Except.error.inj h
    have hnone : ∀ value, ¬Stands written value := by
      intro value hstands
      rw [← settingValue_eq_ok_iff name, hvalue] at hstands
      nomatch hstands
    unfold settingValue at hvalue
    split at hvalue <;> cases hvalue <;> exact .notSimple hnone
  . next value hvalue =>
    have hstands := (settingValue_eq_ok_iff name).mp hvalue
    have hcheck := except_map_eq_error h
    unfold checkKind at hcheck
    split at hcheck
    . nomatch hcheck
    . next field hfield =>
      split at hcheck
      . nomatch hcheck
      . next hrefused =>
        obtain rfl := Except.error.inj hcheck
        refine .wrongKind (Field.ofName?_eq_some_iff.mp hfield) hstands ?_
        intro hkind
        exact hrefused (FieldKind.accepts_iff.mpr (.inr hkind))

theorem overrideFault_of_overrideValue (h : overrideValue name word = .error fault)
    : OverrideFault name word fault := by
  unfold overrideValue at h
  split at h
  . next hnone =>
    obtain rfl := Except.error.inj h
    refine .unknownSetting fun field hname => ?_
    rw [Field.ofName?_eq_some_iff.mpr hname] at hnone
    nomatch hnone
  . next field hfield =>
    split at h
    . next hboolean =>
      split at h
      . nomatch h
      . next hswitch =>
        obtain rfl := Except.error.inj h
        refine .notSwitch (Field.ofName?_eq_some_iff.mp hfield) hboolean ?_
        intro hword
        obtain ⟨value, hsets⟩ := exists_sets_iff.mpr fun _ => hword
        obtain ⟨position, hposition, _⟩ := hsets.exists_switch? hboolean
        rw [hswitch] at hposition
        nomatch hposition
    . nomatch h

theorem extensionFault_of_checkExtension (h : checkExtension extension = .error fault)
    : ExtensionFault extension fault := by
  have hbare : ¬IsBare extension := by
    rw [← checkExtension_eq_ok_iff, h]
    nofun
  unfold checkExtension at h
  split at h
  . next hempty =>
    obtain rfl := String.isEmpty_iff.mp hempty
    obtain rfl := Except.error.inj h
    exact .empty
  . next hempty =>
    split at h
    . obtain rfl := Except.error.inj h
      exact .notBare (fun heq => hempty (String.isEmpty_iff.mpr heq)) hbare
    . nomatch h

theorem firstFault_of_enterAll {α : Type} {read : String → α → Except Fault Value}
    {sound : String → α → Prop} {fault : String → α → Fault → Prop}
    (hsound : ∀ {name written value}, read name written = .ok value → sound name written)
    (hfault : ∀ {name written e}, read name written = .error e → fault name written e)
    {snapshot : Snapshot} {entries : List (String × α)} {e : Fault}
    (h : enterAll read snapshot entries = .error e) : FirstFault sound fault entries e := by
  induction entries generalizing snapshot with
  | nil => nomatch h
  | cons entry rest ih =>
    rw [enterAll] at h
    split at h
    . next found hread =>
      obtain rfl := Except.error.inj h
      exact .here (hfault hread)
    . next value hread => exact .later (hsound hread) (ih h)

theorem entrySound_of_readSetting (h : readSetting name written = .ok value)
    : EntrySound name written :=
  ⟨value, readSetting_eq_ok_iff.mp h⟩

theorem overrideSound_of_overrideValue (h : overrideValue name word = .ok value)
    : OverrideSound name word := by
  obtain ⟨field, hname, hsets⟩ := overrideValue_eq_ok_iff.mp h
  exact ⟨field, hname, value, hsets⟩

theorem ascending_sorted {table : Toml.Table} (h : Toml.Distinct table)
    : (sorted table).Pairwise (·.1 < ·.1) := by
  have hle : (sorted table).Pairwise (·.1 ≤ ·.1) := by
    unfold sorted
    refine (List.pairwise_mergeSort ?_ ?_ table).imp of_decide_eq_true
    . intro a b c hab hbc
      exact decide_eq_true (String.le_trans (of_decide_eq_true hab) (of_decide_eq_true hbc))
    . intro a b
      simp [String.le_total a.1 b.1]
  have hne : (sorted table).Pairwise (·.1 ≠ ·.1) := by
    have hnames : ((sorted table).map Prod.fst).Nodup :=
      ((perm_sorted table).map Prod.fst).nodup_iff.mpr h
    exact List.pairwise_map.mp hnames
  exact (hle.and hne).imp fun h => Std.lt_of_le_of_ne h.1 h.2

theorem documentFault_of_ofText {document : String} {e : LoadError}
    (h : ofText document = .error e) : DocumentFault document e := by
  unfold ofText at h
  split at h
  . next hdocument =>
    obtain rfl := Except.error.inj h
    exact .toml hdocument
  . next entries hentries =>
    split at h
    . next htable =>
      obtain rfl := Except.error.inj h
      exact .formatter hentries htable
    . next table htable hextension =>
      obtain rfl := Except.error.inj h
      exact .output hentries htable hextension
    . next table extension htable hextension =>
      have hholds : Holds document table extension := .intro hentries htable hextension
      rw [readSettings_eq] at h
      split at h
      . next hread =>
        obtain rfl := Except.error.inj h
        exact .entry hholds (perm_sorted table) (ascending_sorted hholds.distinct)
          (firstFault_of_enterAll entrySound_of_readSetting entryFault_of_readSetting hread)
      . next snapshot hread =>
        split at h
        . next hcheck =>
          obtain rfl := Except.error.inj h
          have hsound := exists_enterAll_eq_ok_iff.mp ⟨snapshot, hread⟩
          refine .extension hholds (fun entry hentry => ?_)
            (extensionFault_of_checkExtension hcheck)
          obtain ⟨value, hvalue⟩ := hsound entry ((perm_sorted table).mem_iff.mpr hentry)
          exact entrySound_of_readSetting hvalue
        . nomatch h

section

variable {session : Session} {named : Option Path} {adjustments : Adjustments} {e : LoadError}

theorem loadFault_of_ofFile {path : Path} (hchosen : Chosen session named path)
    (h : (session.run (ofFile path)).1 = .error e) : LoadFault session adjustments named e := by
  unfold ofFile at h
  rw [run_bind, run_readFile] at h
  split at h
  . next hread =>
    obtain rfl := Except.error.inj h
    exact .file hchosen hread
  . next document hread =>
    exact .document hchosen hread (documentFault_of_ofText (except_map_eq_error h))

theorem loadFault_of_base (h : (session.run (base named)).1 = .error e)
    : LoadFault session adjustments named e := by
  unfold base at h
  split at h
  . next path =>
    rw [run_bind] at h
    change (session.run (if session.tree.isThere session.directory path then _ else _)).1 = _ at h
    split at h
    . next hthere => exact loadFault_of_ofFile (.named hthere) h
    . next hthere =>
      obtain rfl := Except.error.inj h
      exact .notFound hthere
  . rw [run_bind, Command.looks_discover session] at h
    split at h
    . next hfound => exact loadFault_of_ofFile (.found hfound) h
    . nomatch h

theorem loadFault_of_load (h : (session.run (load named adjustments)).1 = .error e)
    : LoadFault session adjustments named e := by
  unfold load at h
  rw [run_bind] at h
  split at h
  . next found hbase =>
    obtain rfl := Except.error.inj h
    exact loadFault_of_base hbase
  . next configuration hbase =>
    obtain ⟨source, hsource⟩ := exists_supplies_of_base hbase
    have hsound := source.exists_configuration_eq_ok_iff.mp
      ⟨configuration, hsource.run_base.symm.trans hbase⟩
    split at h
    . next fault hadjust =>
      obtain rfl := Except.error.inj h
      unfold adjust at hadjust
      rw [override_eq] at hadjust
      exact .override hsource hsound
        (firstFault_of_enterAll overrideSound_of_overrideValue overrideFault_of_overrideValue
          hadjust)
    . nomatch h

end

end DirectedMarkdown.Configuration
