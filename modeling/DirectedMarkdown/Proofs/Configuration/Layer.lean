import DirectedMarkdown.Proofs.Command.Run
import DirectedMarkdown.Proofs.Configuration.Reading

/-!
This module contains the layers of a configuration: the table of settings in its document, over it
the switches that are given, and over these the overrides. The topmost layer with a name counts, and
every layer has to be sound, whatever lies over it.
-/

namespace DirectedMarkdown.Configuration

open Session Surroundings

/-- What a configuration is made of before it is adjusted. -/
structure Source where
  table : Toml.Table
  extension : String
  path : Option Path

/-- A document with this table of settings and this extension. -/
inductive Holds (document : String) : Toml.Table → String → Prop where
  | intro {entries table : Toml.Table} {extension : String}
    : Toml.Table.ofText document = .ok entries → formatterTable? entries = some table
      → outputExtension? entries = some extension → Holds document table extension

/-- The file that is named, or the one that is found, holds the source. -/
inductive Supplies (session : Session) : Option Path → Source → Prop where
  | named {path : Path} {document : String} {table : Toml.Table} {extension : String}
    : session.tree.isThere session.directory path
      → session.tree.readFile session.directory path = .ok document
      → Holds document table extension
      → Supplies session (some path) ⟨table, extension, some path⟩
  | found {path : Path} {document : String} {table : Toml.Table} {extension : String}
    : (session.run discover).1 = some path
      → session.tree.readFile session.directory path = .ok document
      → Holds document table extension
      → Supplies session none ⟨table, extension, some path⟩
  | missing : (session.run discover).1 = none → Supplies session none ⟨[], "html", none⟩

namespace Source

/-- Every entry has a value that its field expects, if it has a field, and the extension is bare. -/
structure Sound (source : Source) : Prop where
  entries : ∀ entry ∈ source.table, ∃ value, Stands entry.2 value ∧ Fits entry.1 value
  extension : IsBare source.extension

/-- The configuration that is made of a source. -/
def configuration (source : Source) : Except LoadError Configuration :=
  match readSettings Snapshot.empty (sorted source.table) with
  | .error fault => .error (.invalid fault)
  | .ok snapshot =>
    match checkExtension source.extension with
    | .error fault => .error (.invalid fault)
    | .ok () => .ok { snapshot, extension := source.extension, path := source.path }

end Source

namespace Adjustments

/-- The position that is given to a switch. -/
def position? (adjustments : Adjustments) : Field → Option Bool
  | .html5ElementSuffix => adjustments.html5
  | .setBreaksEnabled => adjustments.breaks
  | .setUrlsLinked => adjustments.urls
  | _ => Option.none

/-- Each override names a field, and a switch gets one of the words for its positions. -/
def Sound (adjustments : Adjustments) : Prop :=
  ∀ entry ∈ adjustments.overrides, ∃ field : Field, field.name = entry.1
    ∧ (field.kind.expected = "boolean" → entry.2 ∈ onWords ++ offWords)

end Adjustments

/-- The value of a setting: of the last override, or else of the switch, or else in the table. -/
inductive Layered (table : Toml.Table) (adjustments : Adjustments) (name : String)
    : Option Value → Prop where
  | override {field : Field} {word : String} {value : Value}
    : field.name = name → IsLast adjustments.overrides name word → Sets field word value
      → Layered table adjustments name (some value)
  | flag {field : Field} {position : Bool}
    : name ∉ adjustments.overrides.map Prod.fst
      → field.name = name → adjustments.position? field = some position
      → Layered table adjustments name (some (.flag position))
  | table {written : Toml.Value} {value : Value}
    : name ∉ adjustments.overrides.map Prod.fst
      → (∀ field : Field, field.name = name → adjustments.position? field = none)
      → (name, written) ∈ table → Stands written value
      → Layered table adjustments name (some value)
  | missing
    : name ∉ adjustments.overrides.map Prod.fst
      → (∀ field : Field, field.name = name → adjustments.position? field = none)
      → name ∉ table.map Prod.fst
      → Layered table adjustments name none

namespace Adjustments

variable (adjustments : Adjustments)

theorem mem_flags_iff {name : String} {position : Bool}
    : (name, position) ∈ adjustments.flags
        ↔ ∃ field : Field, field.name = name ∧ adjustments.position? field = some position := by
  unfold flags
  simp only [List.mem_filterMap, List.mem_cons, List.not_mem_nil, or_false, Option.map_eq_some_iff,
    Prod.mk.injEq]
  constructor
  . rintro ⟨_, rfl | rfl | rfl, _, hposition, rfl, rfl⟩
    . exact ⟨.html5ElementSuffix, rfl, hposition⟩
    . exact ⟨.setBreaksEnabled, rfl, hposition⟩
    . exact ⟨.setUrlsLinked, rfl, hposition⟩
  . rintro ⟨field, rfl, hposition⟩
    cases field with
    | html5ElementSuffix => exact ⟨_, .inl rfl, position, hposition, rfl, rfl⟩
    | setBreaksEnabled => exact ⟨_, .inr (.inl rfl), position, hposition, rfl, rfl⟩
    | setUrlsLinked => exact ⟨_, .inr (.inr rfl), position, hposition, rfl, rfl⟩
    | _ => simp [position?] at hposition

theorem distinct_flags : Toml.Distinct adjustments.flags := by
  -- The names are among those of the three switches, in the same order.
  have hsublist : (adjustments.flags.map Prod.fst).Sublist
      [Field.html5ElementSuffix.name, Field.setBreaksEnabled.name, Field.setUrlsLinked.name] := by
    unfold flags
    cases adjustments.html5 <;> cases adjustments.breaks <;> cases adjustments.urls <;> simp
  exact hsublist.nodup (by decide +kernel)

theorem position?_eq_none {field : Field} (h : field.kind.expected = "string")
    : adjustments.position? field = Option.none := by
  cases field with
  | html5ElementSuffix | setBreaksEnabled | setUrlsLinked =>
    simp [Field.kind, FieldKind.expected] at h
  | _ => rfl

theorem sound_iff
    : adjustments.Sound
        ↔ ∀ entry ∈ adjustments.overrides, ∃ value, overrideValue entry.1 entry.2 = .ok value := by
  unfold Sound
  simp only [overrideValue_eq_ok_iff, ← exists_sets_iff]
  refine forall₂_congr fun entry _ => ?_
  constructor
  . rintro ⟨field, hname, value, hsets⟩
    exact ⟨value, field, hname, hsets⟩
  . rintro ⟨value, field, hname, hsets⟩
    exact ⟨field, hname, value, hsets⟩

end Adjustments

theorem perm_sorted (table : Toml.Table) : (sorted table).Perm table :=
  List.mergeSort_perm _ _

theorem distinct_of_formatterTable? {document : String} {entries table : Toml.Table}
    (hentries : Toml.Table.ofText document = .ok entries)
    (htable : formatterTable? entries = some table) : Toml.Distinct table := by
  unfold formatterTable? at htable
  split at htable
  . obtain rfl := Option.some.inj htable
    exact List.nodup_nil
  . next found hlookup =>
    split at htable
    . obtain rfl := Option.some.inj htable
      obtain ⟨before, after, hsplit, _⟩ := List.lookup_eq_some_iff.mp hlookup
      exact Toml.isDistinct_of_ofText hentries (hsplit ▸ List.mem_append_cons_self)
    . simp at htable
  . obtain rfl := Option.some.inj htable
    exact List.nodup_singleton _
  . simp at htable

theorem Holds.distinct {document : String} {table : Toml.Table} {extension : String}
    (h : Holds document table extension) : Toml.Distinct table := by
  obtain ⟨hentries, htable, _⟩ := h
  exact distinct_of_formatterTable? hentries htable

section Base

variable {session : Session} {named : Option Path} {source : Source}

theorem Supplies.distinct (h : Supplies session named source) : Toml.Distinct source.table := by
  cases h with
  | named _ _ hholds => exact hholds.distinct
  | found _ _ hholds => exact hholds.distinct
  | missing => exact List.nodup_nil

theorem run_ofFile {path : Path} {document : String} {table : Toml.Table} {extension : String}
    (hread : session.tree.readFile session.directory path = .ok document)
    (hholds : Holds document table extension)
    : (session.run (ofFile path)).1
        = (Source.mk table extension (some path)).configuration := by
  obtain ⟨hentries, htable, hextension⟩ := hholds
  unfold ofFile ofText Source.configuration
  rw [run_bind, run_readFile, hread]
  dsimp only
  rw [hentries, run_pure]
  dsimp only
  rw [htable, hextension]
  dsimp only
  cases readSettings Snapshot.empty (sorted table) with
  | error fault => rfl
  | ok snapshot => cases checkExtension extension <;> rfl

theorem exists_holds_of_ofFile {path : Path} {configuration : Configuration}
    (h : (session.run (ofFile path)).1 = .ok configuration)
    : ∃ document table extension, session.tree.readFile session.directory path = .ok document
        ∧ Holds document table extension := by
  unfold ofFile at h
  rw [run_bind, run_readFile] at h
  cases hread : session.tree.readFile session.directory path with
  | error e => simp [hread, run_pure] at h
  | ok document =>
    rw [hread] at h
    dsimp only at h
    rw [run_pure] at h
    unfold ofText at h
    split at h
    . simp [Except.map] at h
    . next entries hentries =>
      split at h
      . simp [Except.map] at h
      . simp [Except.map] at h
      . next table extension htable hextension =>
        exact ⟨document, table, extension, rfl, .intro hentries htable hextension⟩

theorem Supplies.run_base (h : Supplies session named source)
    : (session.run (base named)).1 = source.configuration := by
  unfold base
  cases h with
  | named hthere hread hholds =>
    rw [run_bind]
    show (session.run (if session.tree.isThere session.directory _ then _ else _)).1 = _
    rw [if_pos hthere]
    exact run_ofFile hread hholds
  | found hfound hread hholds =>
    rw [run_bind, Command.looks_discover session, hfound]
    exact run_ofFile hread hholds
  | missing hmissing =>
    rw [run_bind, hmissing, Source.configuration, (perm_sorted []).eq_nil]
    rfl

/-- A configuration that is loaded has a source. -/
theorem exists_supplies_of_base {configuration : Configuration}
    (h : (session.run (base named)).1 = .ok configuration)
    : ∃ source, Supplies session named source := by
  unfold base at h
  split at h
  . next path =>
    rw [run_bind] at h
    change (session.run (if session.tree.isThere session.directory path then _ else _)).1 = _ at h
    split at h
    . next hthere =>
      obtain ⟨document, table, extension, hread, hholds⟩ := exists_holds_of_ofFile h
      exact ⟨_, .named hthere hread hholds⟩
    . simp [run_pure] at h
  . rw [run_bind, Command.looks_discover session] at h
    split at h
    . next path hfound =>
      obtain ⟨document, table, extension, hread, hholds⟩ := exists_holds_of_ofFile h
      exact ⟨_, .found hfound hread hholds⟩
    . next hmissing => exact ⟨_, .missing hmissing⟩

end Base

section Load

variable {session : Session} {path : Option Path} {source : Source} {adjustments : Adjustments}
  {configuration : Configuration}

theorem Source.exists_configuration_eq_ok_iff
    : (∃ configuration, source.configuration = .ok configuration) ↔ source.Sound := by
  have hentries : (∃ snapshot, readSettings Snapshot.empty (sorted source.table) = .ok snapshot)
      ↔ ∀ entry ∈ source.table, ∃ value, Stands entry.2 value ∧ Fits entry.1 value := by
    rw [readSettings_eq, exists_enterAll_eq_ok_iff]
    simp only [readSetting_eq_ok_iff, (perm_sorted source.table).mem_iff]
  have hextension : checkExtension source.extension = .ok () ↔ IsBare source.extension :=
    checkExtension_eq_ok_iff
  unfold configuration
  constructor
  . rintro ⟨configuration, h⟩
    split at h
    . simp at h
    . next snapshot hread =>
      split at h
      . simp at h
      . next hcheck => exact ⟨hentries.mp ⟨snapshot, hread⟩, hextension.mp hcheck⟩
  . intro hsound
    obtain ⟨snapshot, hread⟩ := hentries.mpr hsound.entries
    rw [hread, hextension.mpr hsound.extension]
    exact ⟨_, rfl⟩

theorem Source.eq_of_configuration (h : source.configuration = .ok configuration)
    : enterAll readSetting Snapshot.empty (sorted source.table) = .ok configuration.snapshot
        ∧ configuration.extension = source.extension ∧ configuration.path = source.path := by
  unfold Source.configuration at h
  rw [readSettings_eq] at h
  split at h
  . simp at h
  . next snapshot hread =>
    split at h
    . simp at h
    . obtain rfl := Except.ok.inj h
      exact ⟨hread, rfl, rfl⟩

theorem adjust_eq_ok_iff {snapshot next : Snapshot}
    : adjust snapshot adjustments = .ok next
        ↔ ∃ switched,
          enterAll (fun _ position => .ok (.flag position)) snapshot adjustments.flags
            = .ok switched
          ∧ enterAll overrideValue switched adjustments.overrides = .ok next := by
  unfold adjust
  rw [override_eq, ← foldl_flags_eq]
  simp

theorem exists_adjust_eq_ok_iff (snapshot : Snapshot)
    : (∃ next, adjust snapshot adjustments = .ok next) ↔ adjustments.Sound := by
  rw [adjustments.sound_iff]
  constructor
  . rintro ⟨next, h⟩
    obtain ⟨switched, _, hoverrides⟩ := adjust_eq_ok_iff.mp h
    exact exists_enterAll_eq_ok_iff.mp ⟨next, hoverrides⟩
  . intro h
    obtain ⟨switched, hflags⟩ : ∃ switched,
        enterAll (fun _ position => .ok (.flag position)) snapshot adjustments.flags
          = .ok switched := exists_enterAll_eq_ok_iff.mpr fun entry _ => ⟨_, rfl⟩
    obtain ⟨next, hoverrides⟩ := exists_enterAll_eq_ok_iff.mpr h
    exact ⟨next, adjust_eq_ok_iff.mpr ⟨switched, hflags, hoverrides⟩⟩

theorem run_load_eq_ok_iff
    : (session.run (load path adjustments)).1 = .ok configuration
        ↔ ∃ before, (session.run (base path)).1 = .ok before
          ∧ adjust before.snapshot adjustments = .ok configuration.snapshot
          ∧ configuration.extension = before.extension ∧ configuration.path = before.path := by
  unfold load
  rw [run_bind]
  cases hbase : (session.run (base path)).1 with
  | error e => simp [run_pure]
  | ok before =>
    obtain ⟨snapshot, extension, path⟩ := configuration
    dsimp only
    cases hadjust : adjust before.snapshot adjustments with
    | error fault => simp [run_pure, hadjust]
    | ok next =>
      simp only [run_pure, Except.ok.injEq, Configuration.mk.injEq, exists_eq_left', hadjust]
      tauto

theorem Layered.of_adjust {table : Toml.Table} {before next : Snapshot}
    (hdistinct : Toml.Distinct table)
    (hread : enterAll readSetting Snapshot.empty (sorted table) = .ok before)
    (hadjust : adjust before adjustments = .ok next) (name : String)
    : Layered table adjustments name (next.get? name) := by
  obtain ⟨switched, hflags, hoverrides⟩ := adjust_eq_ok_iff.mp hadjust
  by_cases hoverridden : name ∈ adjustments.overrides.map Prod.fst
  . obtain ⟨word, hlast⟩ := exists_isLast hoverridden
    obtain ⟨value, hvalue, hget⟩ := get?_enterAll_of_isLast hoverrides hlast
    obtain ⟨field, hname, hsets⟩ := overrideValue_eq_ok_iff.mp hvalue
    rw [hget]
    exact .override hname hlast hsets
  rw [get?_enterAll_of_notMem hoverrides hoverridden]
  by_cases hswitched : name ∈ adjustments.flags.map Prod.fst
  . obtain ⟨⟨_, position⟩, hmem, rfl⟩ := List.mem_map.mp hswitched
    have hlast := isLast_of_distinct adjustments.distinct_flags hmem
    obtain ⟨value, hvalue, hget⟩ := get?_enterAll_of_isLast hflags hlast
    obtain rfl := Except.ok.inj hvalue
    obtain ⟨field, hname, hposition⟩ := adjustments.mem_flags_iff.mp hmem
    rw [hget]
    exact .flag hoverridden hname hposition
  rw [get?_enterAll_of_notMem hflags hswitched]
  have hnone : ∀ field : Field, field.name = name → adjustments.position? field = none := by
    intro field hname
    rw [Option.eq_none_iff_forall_not_mem]
    intro position hposition
    exact hswitched
      (List.mem_map_of_mem (adjustments.mem_flags_iff.mpr ⟨field, hname, hposition⟩))
  have hperm := perm_sorted table
  by_cases hwritten : name ∈ table.map Prod.fst
  . obtain ⟨⟨_, written⟩, hmem, rfl⟩ := List.mem_map.mp hwritten
    have hsorted : Toml.Distinct (sorted table) := (hperm.map Prod.fst).nodup_iff.mpr hdistinct
    have hlast := isLast_of_distinct hsorted (hperm.mem_iff.mpr hmem)
    obtain ⟨value, hvalue, hget⟩ := get?_enterAll_of_isLast hread hlast
    rw [hget]
    exact .table hoverridden hnone hmem (readSetting_eq_ok_iff.mp hvalue).1
  . have hsorted : name ∉ (sorted table).map Prod.fst := by
      rwa [(hperm.map Prod.fst).mem_iff]
    rw [get?_enterAll_of_notMem hread hsorted]
    exact .missing hoverridden hnone hwritten

theorem Layered.unique {table : Toml.Table} (hdistinct : Toml.Distinct table) {name : String}
    {value other : Option Value} (h : Layered table adjustments name value)
    (hother : Layered table adjustments name other) : value = other := by
  cases h with
  | override hname hlast hsets =>
    cases hother with
    | override hname' hlast' hsets' =>
      obtain rfl := Field.name_injective (hname.trans hname'.symm)
      obtain rfl := hlast.unique hlast'
      rw [hsets.unique hsets']
    | flag hnot _ _ => exact absurd hlast.mem_names hnot
    | table hnot _ _ _ => exact absurd hlast.mem_names hnot
    | missing hnot _ _ => exact absurd hlast.mem_names hnot
  | flag hnot hname hposition =>
    cases hother with
    | override _ hlast' _ => exact absurd hlast'.mem_names hnot
    | flag _ hname' hposition' =>
      obtain rfl := Field.name_injective (hname.trans hname'.symm)
      rw [Option.some.inj (hposition.symm.trans hposition')]
    | table _ hnone _ _ => simp [hnone _ hname] at hposition
    | missing _ hnone _ => simp [hnone _ hname] at hposition
  | table hnot hnone hmem hstands =>
    cases hother with
    | override _ hlast' _ => exact absurd hlast'.mem_names hnot
    | flag _ hname' hposition' => simp [hnone _ hname'] at hposition'
    | table _ _ hmem' hstands' =>
      obtain rfl := (isLast_of_distinct hdistinct hmem).unique (isLast_of_distinct hdistinct hmem')
      rw [hstands.unique hstands']
    | missing _ _ hmissing => exact absurd (List.mem_map_of_mem hmem) hmissing
  | missing hnot hnone hmissing =>
    cases hother with
    | override _ hlast' _ => exact absurd hlast'.mem_names hnot
    | flag _ hname' hposition' => simp [hnone _ hname'] at hposition'
    | table _ _ hmem' _ => exact absurd (List.mem_map_of_mem hmem') hmissing
    | missing => rfl

end Load

/--
Of the layers of a configuration, the topmost one with a name counts. A text is the same in the
table and in an override.
-/
theorem load_layered {session : Session} {path : Option Path} {source : Source}
    (hsource : Supplies session path source) (adjustments : Adjustments)
    : ((∃ configuration, (session.run (load path adjustments)).1 = .ok configuration)
          ↔ source.Sound ∧ adjustments.Sound)
      ∧ ∀ configuration, (session.run (load path adjustments)).1 = .ok configuration →
        configuration.extension = source.extension ∧ configuration.path = source.path
          ∧ (∀ name, Layered source.table adjustments name (configuration.snapshot.get? name))
          ∧ ∀ (field : Field) (content : String), field.kind.expected = "string" →
            IsLast adjustments.overrides field.name content
              ∨ field.name ∉ adjustments.overrides.map Prod.fst
                ∧ (field.name, .text content) ∈ source.table →
            configuration.snapshot.get? field.name = some (.text content) := by
  have hdistinct := hsource.distinct
  simp only [run_load_eq_ok_iff, hsource.run_base]
  constructor
  . rw [← source.exists_configuration_eq_ok_iff]
    constructor
    . rintro ⟨configuration, before, hbefore, hadjust, _⟩
      exact ⟨⟨before, hbefore⟩, (exists_adjust_eq_ok_iff _).mp ⟨_, hadjust⟩⟩
    . rintro ⟨⟨before, hbefore⟩, hsound⟩
      obtain ⟨next, hadjust⟩ := (exists_adjust_eq_ok_iff before.snapshot).mpr hsound
      exact ⟨{ before with snapshot := next }, before, hbefore, hadjust, rfl, rfl⟩
  . rintro configuration ⟨before, hbefore, hadjust, hextension, hpath⟩
    obtain ⟨hread, hextension', hpath'⟩ := Source.eq_of_configuration hbefore
    have hlayered := Layered.of_adjust hdistinct hread hadjust
    refine ⟨hextension.trans hextension', hpath.trans hpath', hlayered, ?_⟩
    intro field content hstring hcontent
    apply (hlayered field.name).unique hdistinct
    rcases hcontent with hlast | ⟨hnot, hmem⟩
    . exact .override rfl hlast (.text hstring)
    . refine .table hnot ?_ hmem (.text content)
      intro other hother
      obtain rfl := Field.name_injective hother
      exact adjustments.position?_eq_none hstring

/-- The same name stands in several layers, and is overridden twice. -/
theorem load_layered_everywhere
    : let document := "[formatter]\ncodeClass = 7\nsetUrlsLinked = true\nfuture = 'f'\n"
      let session := Session.start { entries := [(["mdtf.toml"], .file document.toUTF8)] } [] ""
      let adjustments : Adjustments :=
        { html5 := some true, breaks := none, urls := some false,
          overrides := [("codeClass", "a"), ("html5ElementSuffix", "off"), ("codeClass", "b")] }
      ∃ configuration, (session.run (load none adjustments)).1 = .ok configuration
        ∧ configuration.snapshot.get? "codeClass" = some (.text "b")
        ∧ configuration.extension = "html" := by
  intro document session adjustments
  let entries := (Toml.Table.ofText document).toOption.get (by decide +kernel)
  let table := (formatterTable? entries).get (by decide +kernel)
  have hsource : Supplies session none ⟨table, "html", some ⟨"/mdtf.toml"⟩⟩ := by
    have hfile : session.tree.readFile session.directory ⟨"/mdtf.toml"⟩ = .ok document := by
      decide +kernel
    apply Supplies.found (by decide +kernel) hfile
    exact .intro (except_eq_ok_get _) (Option.some_get _).symm (by decide +kernel)
  have hread : ∀ entry ∈ table, (readSetting entry.1 entry.2).isOk := by decide +kernel
  have hsound : Source.Sound ⟨table, "html", some ⟨"/mdtf.toml"⟩⟩ := by
    refine ⟨?_, ⟨by simp, by simp⟩⟩
    intro entry hentry
    have hok := hread entry hentry
    cases hvalue : readSetting entry.1 entry.2 with
    | error fault => simp [hvalue, Except.isOk, Except.toBool] at hok
    | ok value => exact ⟨value, readSetting_eq_ok_iff.mp hvalue⟩
  have hadjustments : adjustments.Sound := by
    simp only [Adjustments.Sound, adjustments, List.forall_mem_cons]
    exact ⟨⟨.codeClass, rfl, nofun⟩, ⟨.html5ElementSuffix, rfl, by decide⟩,
      ⟨.codeClass, rfl, nofun⟩, by simp⟩
  obtain ⟨configuration, h⟩ := (load_layered hsource adjustments).1.mpr ⟨hsound, hadjustments⟩
  obtain ⟨hextension, _, _, htext⟩ := (load_layered hsource adjustments).2 configuration h
  refine ⟨configuration, h, ?_, hextension⟩
  apply htext .codeClass "b" rfl
  exact .inl ⟨[("codeClass", "a"), ("html5ElementSuffix", "off")], [], rfl, by simp⟩

end DirectedMarkdown.Configuration
