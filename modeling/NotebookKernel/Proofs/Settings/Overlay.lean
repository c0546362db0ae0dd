import NotebookKernel.Settings
import NotebookKernel.Proofs.Program.Trace
import Mathlib.Logic.Function.Basic

/-!
Settings are a document laid over the preset.

Settings have a value under each known key, and so has a document that states the key. The value of
loaded settings is the document's, or else the preset's, and the document is refused as a whole if
what it states under a known key is of another kind. `Settings.load_overlays` says so of both ways
to load a file.
-/

namespace NotebookKernel.Settings

/-! ## Keys -/

/-- What a key takes. -/
inductive Kind where
  | text
  | texts
  | natural

/-- The value is of the kind. -/
def Kind.Admits : Kind → Toml.Value → Prop
  | text, v => ∃ s, v = .text s
  | texts, v => ∃ l : List String, v = .array (l.map .text)
  | natural, v => ∃ n : Nat, v = .integer n

/-- The keys that settings know. -/
inductive Key where
  | command
  | args
  | program
  | entryBreakpoint
  | language
  | envBlocklist
  | timeoutMs
  | pollIntervalMs
  | chunkSize
  | includeRoots
  | logFile

namespace Key

/-- The section that a key stands in. -/
def sectionName : Key → String
  | command | args => "adapter"
  | program | entryBreakpoint | language | envBlocklist => "target"
  | timeoutMs => "evaluation"
  | pollIntervalMs | chunkSize => "relay"
  | includeRoots => "preprocessor"
  | logFile => "log"

/-- The name of a key in its section. -/
def name : Key → String
  | command => "command"
  | args => "args"
  | program => "program"
  | entryBreakpoint => "entry_breakpoint"
  | language => "language"
  | envBlocklist => "env_blocklist"
  | timeoutMs => "timeout_ms"
  | pollIntervalMs => "poll_interval_ms"
  | chunkSize => "chunk_size"
  | includeRoots => "include_roots"
  | logFile => "file"

/-- What a key takes. -/
def kind : Key → Kind
  | command | program | entryBreakpoint | language | logFile => .text
  | args | envBlocklist | includeRoots => .texts
  | timeoutMs | pollIntervalMs | chunkSize => .natural

/-- The value that settings have under a key. A program and a log file there need not be. -/
def valueIn (s : Settings) : Key → Option Toml.Value
  | command => some (.text s.adapter.command)
  | args => some (.array (s.adapter.args.map .text))
  | program => s.target.program.map .text
  | entryBreakpoint => some (.text s.target.entryBreakpoint)
  | language => some (.text s.target.language)
  | envBlocklist => some (.array (s.target.envBlocklist.map .text))
  | timeoutMs => some (.integer s.timeoutMs)
  | pollIntervalMs => some (.integer s.relay.pollIntervalMs)
  | chunkSize => some (.integer s.relay.chunkSize)
  | includeRoots => some (.array (s.includeRoots.map .text))
  | logFile => s.logFile.map .text

/-- Every key. -/
def all : List Key :=
  [command, args, program, entryBreakpoint, language, envBlocklist, timeoutMs, pollIntervalMs,
    chunkSize, includeRoots, logFile]

theorem mem_all (key : Key) : key ∈ all := by
  cases key <;> simp [all]

instance {p : Key → Prop} [DecidablePred p] : Decidable (∀ key, p key) :=
  decidable_of_iff (∀ key ∈ all, p key) ⟨fun h key => h key key.mem_all, fun h key _ => h key⟩

end Key

/-- The entries of a section; there are none if the document does not have it. -/
def sectionOf (name : String) (entries : List (String × Toml.Value)) : List (String × Toml.Value) :=
  match entries.lookup name with
  | some (.table inner) => inner
  | _ => []

/-- The value that a document states under a key. -/
def Key.statedIn (entries : List (String × Toml.Value)) (key : Key) : Option Toml.Value :=
  (sectionOf key.sectionName entries).lookup key.name

/-- The sections that settings know are tables, where the document has them. -/
def Tabular (entries : List (String × Toml.Value)) : Prop :=
  ∀ key : Key, ∀ v ∈ entries.lookup key.sectionName, ∃ inner, v = .table inner

instance (v : Toml.Value) : Decidable (∃ inner, v = .table inner) :=
  match v with
  | .table inner => .isTrue ⟨inner, rfl⟩
  | .text _ | .integer _ | .float | .boolean _ | .datetime | .array _ => .isFalse (by simp)

instance (entries : List (String × Toml.Value)) : Decidable (Tabular entries) :=
  inferInstanceAs (Decidable (∀ _, _))

/-! ## Values of one kind -/

section Kinds

variable {v : Toml.Value}

theorem text?_eq_some_iff {s : String} : text? v = some s ↔ v = .text s := by
  cases v <;> simp [text?]

theorem natural?_eq_some_iff {n : Nat} : natural? v = some n ↔ v = .integer n := by
  cases v with
  | integer m =>
    simp only [natural?, Option.ite_none_right_eq_some, Option.some.injEq, Toml.Value.integer.injEq]
    omega
  | _ => simp [natural?]

theorem mapM_text?_eq_some_iff {items : List Toml.Value} {l : List String} :
    items.mapM text? = some l ↔ items = l.map .text := by
  induction items generalizing l with
  | nil => cases l <;> simp
  | cons item rest ih =>
    simp only [List.mapM_cons, Option.pure_def, Option.bind_eq_bind, Option.bind_eq_some_iff,
      Option.some.injEq, text?_eq_some_iff, ih]
    cases l with
    | nil => simp
    | cons s l =>
      simp only [List.cons.injEq, List.map_cons]
      constructor
      · rintro ⟨_, rfl, _, rfl, rfl, rfl⟩
        exact ⟨rfl, rfl⟩
      · rintro ⟨rfl, rfl⟩
        exact ⟨s, rfl, l, rfl, rfl, rfl⟩

theorem texts?_eq_some_iff {l : List String} : texts? v = some l ↔ v = .array (l.map .text) := by
  cases v <;> simp [texts?, mapM_text?_eq_some_iff]

theorem optionalText?_eq_some_iff {o : Option String} :
    optionalText? v = some o ↔ o.map .text = some v := by
  rw [optionalText?, Option.map_eq_some_iff]
  cases o with
  | none => simp
  | some s =>
    simp only [Option.some.injEq, exists_eq_right, text?_eq_some_iff, Option.map_some]
    exact eq_comm

theorem exists_text (v : Toml.Value) (admits : Kind.text.Admits v) :
    ∃ s, some (.text s) = some v := by
  simpa [Kind.Admits, eq_comm] using admits

theorem exists_optionalText (v : Toml.Value) (admits : Kind.text.Admits v) :
    ∃ o : Option String, o.map .text = some v := by
  obtain ⟨s, rfl⟩ := admits
  exact ⟨some s, rfl⟩

theorem exists_texts (v : Toml.Value) (admits : Kind.texts.Admits v) :
    ∃ l : List String, some (.array (l.map .text)) = some v := by
  simpa [Kind.Admits, eq_comm] using admits

theorem exists_natural (v : Toml.Value) (admits : Kind.natural.Admits v) :
    ∃ n : Nat, some (.integer n) = some v := by
  simpa [Kind.Admits, eq_comm] using admits

end Kinds

/-! ## A value over its preset -/

section Overlay

variable {stated : Option Toml.Value}

/-- A value is laid over its preset when it is read as what is written in its place. -/
theorem orPreset_eq_some_iff {α : Type} {read : Toml.Value → Option α}
    (write : α → Option Toml.Value) (reads : ∀ v a, read v = some a ↔ write a = some v)
    (distinct : Function.Injective write) {preset a : α} :
    orPreset read preset stated = some a ↔ write a = stated.or (write preset) := by
  cases stated with
  | none => rw [orPreset, Option.some.injEq, Option.none_or, distinct.eq_iff, eq_comm]
  | some v => rw [orPreset, reads, Option.some_or]

theorem orPreset_text?_iff {preset s : String} :
    orPreset text? preset stated = some s ↔
      some (.text s) = stated.or (some (.text preset)) := by
  apply orPreset_eq_some_iff (fun s => some (.text s))
  · intro v s
    rw [text?_eq_some_iff, Option.some.injEq, eq_comm]
  · intro s t same
    simpa using same

theorem orPreset_optionalText?_iff {preset o : Option String} :
    orPreset optionalText? preset stated = some o ↔
      o.map .text = stated.or (preset.map .text) := by
  apply orPreset_eq_some_iff (Option.map Toml.Value.text)
  · intro v o
    exact optionalText?_eq_some_iff
  · apply Option.map_injective
    intro s t same
    simpa using same

theorem orPreset_texts?_iff {preset l : List String} :
    orPreset texts? preset stated = some l ↔
      some (.array (l.map .text)) = stated.or (some (.array (preset.map .text))) := by
  apply orPreset_eq_some_iff (fun l : List String => some (.array (l.map .text)))
  · intro v l
    rw [texts?_eq_some_iff, Option.some.injEq, eq_comm]
  · intro l m same
    rw [Option.some.injEq, Toml.Value.array.injEq] at same
    apply (List.map_inj_right _).mp same
    intro s t
    exact Toml.Value.text.inj

theorem orPreset_natural?_iff {preset n : Nat} :
    orPreset natural? preset stated = some n ↔
      some (.integer n) = stated.or (some (.integer preset)) := by
  apply orPreset_eq_some_iff (fun n : Nat => some (.integer n))
  · intro v n
    rw [natural?_eq_some_iff, Option.some.injEq, eq_comm]
  · intro n m same
    rw [Option.some.injEq, Toml.Value.integer.injEq] at same
    exact Int.ofNat_inj.mp same

end Overlay

/-! ## Sections over their presets -/

section Sections

variable {entries : List (String × Toml.Value)} {s : Settings}

/-- A section that a document does not have is one without entries. -/
theorem orPreset_section {α : Type} {read : Toml.Value → Option α} {preset : α}
    (tabular : Tabular entries) (key : Key) (empty : read (.table []) = some preset) :
    orPreset read preset (entries.lookup key.sectionName) =
      read (.table (sectionOf key.sectionName entries)) := by
  unfold sectionOf
  cases found : entries.lookup key.sectionName with
  | none => exact empty.symm
  | some v =>
    obtain ⟨inner, rfl⟩ := tabular key v found
    rfl

section Tables

variable {inner : List (String × Toml.Value)}

theorem adapterOf?_table_iff {a : DebuggerSettings} :
    adapterOf? (.table inner) = some a ↔
      some (.text a.command) = (inner.lookup "command").or (some (.text "lldb-dap")) ∧
      some (.array (a.args.map .text)) = (inner.lookup "args").or (some (.array [])) := by
  obtain ⟨command, args⟩ := a
  simp [adapterOf?, sectionValues?, Option.bind_eq_some_iff, orPreset_text?_iff,
    orPreset_texts?_iff]

theorem targetOf?_table_iff {t : TargetSettings} :
    targetOf? (.table inner) = some t ↔
      t.program.map .text = (inner.lookup "program").or none ∧
      some (.text t.entryBreakpoint) =
        (inner.lookup "entry_breakpoint").or (some (.text "repl_main")) ∧
      some (.text t.language) = (inner.lookup "language").or (some (.text "swift")) ∧
      some (.array (t.envBlocklist.map .text)) = (inner.lookup "env_blocklist").or
        (some (.array [.text "REPL_PROGRAM_PATH", .text "DBGK_INSTALL_DIR"])) := by
  obtain ⟨program, entryBreakpoint, language, envBlocklist⟩ := t
  simp only [targetOf?, sectionValues?, List.map_cons, List.map_nil, Option.bind_eq_bind,
    Option.bind_some, Option.pure_def, Option.bind_eq_some_iff, Option.some.injEq,
    TargetSettings.mk.injEq, orPreset_optionalText?_iff, orPreset_text?_iff, orPreset_texts?_iff]
  constructor
  · rintro ⟨_, program, _, entry, _, language, _, blocklist, rfl, rfl, rfl, rfl⟩
    exact ⟨program, entry, language, blocklist⟩
  · rintro ⟨program, entry, language, blocklist⟩
    exact ⟨_, program, _, entry, _, language, _, blocklist, rfl, rfl, rfl, rfl⟩

theorem timeoutOf?_table_iff {n : Nat} :
    timeoutOf? (.table inner) = some n ↔
      some (.integer n) = (inner.lookup "timeout_ms").or (some (.integer 0)) :=
  orPreset_natural?_iff

theorem relayOf?_table_iff {r : StreamSettings} :
    relayOf? (.table inner) = some r ↔
      some (.integer r.pollIntervalMs) =
        (inner.lookup "poll_interval_ms").or (some (.integer 100)) ∧
      some (.integer r.chunkSize) = (inner.lookup "chunk_size").or (some (.integer 1000)) := by
  obtain ⟨pollIntervalMs, chunkSize⟩ := r
  simp [relayOf?, sectionValues?, Option.bind_eq_some_iff, orPreset_natural?_iff]

theorem includeRootsOf?_table_iff {roots : List String} :
    includeRootsOf? (.table inner) = some roots ↔
      some (.array (roots.map .text)) = (inner.lookup "include_roots").or (some (.array [])) :=
  orPreset_texts?_iff

theorem logFileOf?_table_iff {file : Option String} :
    logFileOf? (.table inner) = some file ↔ file.map .text = (inner.lookup "file").or none :=
  orPreset_optionalText?_iff

end Tables

/-- Settings come of a document's sections, those it does not have taken as empty. -/
theorem ofEntries?_eq_some_iff_sections (tabular : Tabular entries) :
    ofEntries? entries = some s ↔
      adapterOf? (.table (sectionOf "adapter" entries)) = some s.adapter ∧
      targetOf? (.table (sectionOf "target" entries)) = some s.target ∧
      timeoutOf? (.table (sectionOf "evaluation" entries)) = some s.timeoutMs ∧
      relayOf? (.table (sectionOf "relay" entries)) = some s.relay ∧
      includeRootsOf? (.table (sectionOf "preprocessor" entries)) = some s.includeRoots ∧
      logFileOf? (.table (sectionOf "log" entries)) = some s.logFile := by
  have adapter : orPreset adapterOf? preset.adapter (entries.lookup "adapter") = _ :=
    orPreset_section tabular .command rfl
  have target : orPreset targetOf? preset.target (entries.lookup "target") = _ :=
    orPreset_section tabular .program rfl
  have evaluation : orPreset timeoutOf? preset.timeoutMs (entries.lookup "evaluation") = _ :=
    orPreset_section tabular .timeoutMs rfl
  have relay : orPreset relayOf? preset.relay (entries.lookup "relay") = _ :=
    orPreset_section tabular .chunkSize rfl
  have preprocessor :
      orPreset includeRootsOf? preset.includeRoots (entries.lookup "preprocessor") = _ :=
    orPreset_section tabular .includeRoots rfl
  have log : orPreset logFileOf? preset.logFile (entries.lookup "log") = _ :=
    orPreset_section tabular .logFile rfl
  unfold ofEntries?
  rw [adapter, target, evaluation, relay, preprocessor, log]
  obtain ⟨adapter, target, timeoutMs, relay, includeRoots, logFile⟩ := s
  simp only [Option.bind_eq_bind, Option.pure_def, Option.bind_eq_some_iff, Option.some.injEq,
    Settings.mk.injEq]
  constructor
  · rintro ⟨_, adapter, _, target, _, timeout, _, relay, _, roots, _, file, rfl, rfl, rfl, rfl, rfl,
      rfl⟩
    exact ⟨adapter, target, timeout, relay, roots, file⟩
  · rintro ⟨adapter, target, timeout, relay, roots, file⟩
    exact ⟨_, adapter, _, target, _, timeout, _, relay, _, roots, _, file, rfl, rfl, rfl, rfl, rfl,
      rfl⟩

/-- Settings from a document have the values that it states, and those of the preset elsewhere. -/
theorem ofEntries?_eq_some_iff (tabular : Tabular entries) :
    ofEntries? entries = some s ↔
      ∀ key : Key, key.valueIn s = (key.statedIn entries).or (key.valueIn preset) := by
  rw [ofEntries?_eq_some_iff_sections tabular, adapterOf?_table_iff, targetOf?_table_iff,
    timeoutOf?_table_iff, relayOf?_table_iff, includeRootsOf?_table_iff, logFileOf?_table_iff]
  constructor
  · rintro ⟨⟨command, args⟩, ⟨program, entry, language, blocklist⟩, timeout, ⟨interval, chunk⟩,
      roots, file⟩ key
    cases key
    all_goals assumption
  · intro overlay
    exact ⟨⟨overlay .command, overlay .args⟩,
      ⟨overlay .program, overlay .entryBreakpoint, overlay .language, overlay .envBlocklist⟩,
      overlay .timeoutMs, ⟨overlay .pollIntervalMs, overlay .chunkSize⟩, overlay .includeRoots,
      overlay .logFile⟩

/-! ## Which documents are taken -/

/-- Settings have values of the right kind. -/
theorem Key.kind_admits {key : Key} {v : Toml.Value} (has : key.valueIn s = some v) :
    key.kind.Admits v := by
  cases key with
  | program | logFile =>
    obtain ⟨s, -, rfl⟩ := Option.map_eq_some_iff.mp has
    exact ⟨s, rfl⟩
  | _ =>
    obtain rfl := Option.some.inj has
    exact ⟨_, rfl⟩

/-- A value that is of the right kind where it is stated can be laid over its preset. -/
theorem exists_overlay {kind : Kind} {α : Type} {write : α → Option Toml.Value}
    (writes : ∀ v, kind.Admits v → ∃ a, write a = some v) {stated : Option Toml.Value}
    (admits : ∀ v, stated = some v → kind.Admits v) (preset : α) :
    ∃ a, write a = stated.or (write preset) := by
  cases stated with
  | none => exact ⟨preset, rfl⟩
  | some v => exact writes v (admits v rfl)

/-- A document is taken when all that it states is of the right kind. -/
theorem ofEntries?_isSome_iff (tabular : Tabular entries) :
    (ofEntries? entries).isSome ↔
      ∀ (key : Key) (v : Toml.Value), key.statedIn entries = some v → key.kind.Admits v := by
  constructor
  · intro taken key v stated
    obtain ⟨s, given⟩ := Option.isSome_iff_exists.mp taken
    apply Key.kind_admits (s := s)
    rw [(ofEntries?_eq_some_iff tabular).mp given key, stated, Option.some_or]
  · intro admitted
    obtain ⟨command, _⟩ := exists_overlay exists_text (admitted .command) preset.adapter.command
    obtain ⟨args, _⟩ := exists_overlay exists_texts (admitted .args) preset.adapter.args
    obtain ⟨program, _⟩ :=
      exists_overlay exists_optionalText (admitted .program) preset.target.program
    obtain ⟨entryBreakpoint, _⟩ :=
      exists_overlay exists_text (admitted .entryBreakpoint) preset.target.entryBreakpoint
    obtain ⟨language, _⟩ := exists_overlay exists_text (admitted .language) preset.target.language
    obtain ⟨envBlocklist, _⟩ :=
      exists_overlay exists_texts (admitted .envBlocklist) preset.target.envBlocklist
    obtain ⟨timeoutMs, _⟩ := exists_overlay exists_natural (admitted .timeoutMs) preset.timeoutMs
    obtain ⟨pollIntervalMs, _⟩ :=
      exists_overlay exists_natural (admitted .pollIntervalMs) preset.relay.pollIntervalMs
    obtain ⟨chunkSize, _⟩ :=
      exists_overlay exists_natural (admitted .chunkSize) preset.relay.chunkSize
    obtain ⟨includeRoots, _⟩ :=
      exists_overlay exists_texts (admitted .includeRoots) preset.includeRoots
    obtain ⟨logFile, _⟩ := exists_overlay exists_optionalText (admitted .logFile) preset.logFile
    apply Option.isSome_iff_exists.mpr
    exists ⟨⟨command, args⟩, ⟨program, entryBreakpoint, language, envBlocklist⟩, timeoutMs,
      ⟨pollIntervalMs, chunkSize⟩, includeRoots, logFile⟩
    apply (ofEntries?_eq_some_iff tabular).mpr
    intro key
    cases key
    all_goals assumption

/-- Documents that state the same under the keys that settings know make the same settings. -/
theorem ofEntries?_congr {others : List (String × Toml.Value)} (tabular : Tabular entries)
    (others_tabular : Tabular others)
    (same : ∀ key : Key, key.statedIn others = key.statedIn entries) :
    ofEntries? others = ofEntries? entries := by
  apply Option.ext
  intro s
  rw [ofEntries?_eq_some_iff tabular, ofEntries?_eq_some_iff others_tabular]
  simp only [same]

end Sections

/-! ## Loading -/

/-- What loading settings can come to when the file at a path has a text. -/
def LoadsFrom (path text : String) (load : Act (Option Settings)) (result : Option Settings) :
    Prop :=
  ∃ log, load.Gives (⟨Host.Request.readText path, .ok text⟩ :: log) result

section Files

variable {path text home : String} {result : Option Settings}

theorem ofFileText_gives_iff :
    (∃ log, (ofFileText text).Gives log result) ↔ result = ofText? text := by
  unfold ofFileText
  cases ofText? text with
  | some s =>
    constructor
    · rintro ⟨log, run⟩
      exact run.of_done.2
    · rintro rfl
      exact ⟨[], .done _⟩
  | none =>
    constructor
    · rintro ⟨log, run⟩
      obtain ⟨_, _, -, rest⟩ := run.of_ask
      exact rest.of_done.2
    · rintro rfl
      exact ⟨_, .ask _ () (.done _)⟩

/-- A program that reads the file first goes on with its text. -/
theorem loadsFrom_ask_iff {next : Except Error String → Act (Option Settings)} :
    LoadsFrom path text (Program.ask (.readText path) next) result ↔
      ∃ log, (next (.ok text)).Gives log result := by
  constructor
  · rintro ⟨log, run⟩
    obtain ⟨answer, rest, same, later⟩ := run.of_ask
    cases same
    exact ⟨log, later⟩
  · rintro ⟨log, run⟩
    exact ⟨log, .ask _ _ run⟩

theorem loadsFrom_loadFile_iff :
    LoadsFrom path text (loadFile path) result ↔ result = ofText? text :=
  Iff.trans loadsFrom_ask_iff ofFileText_gives_iff

theorem loadsFrom_loadUser_iff :
    LoadsFrom (Path.join home userFile) text (loadUser (some home)) result ↔
      result = ofText? text :=
  Iff.trans loadsFrom_ask_iff ofFileText_gives_iff

end Files

/-! ## The preset's document -/

set_option maxRecDepth 100000 in
/-- The preset's document states the values of the preset and no others. -/
theorem presetDocument_states :
    ∃ entries, Toml.parse? presetDocument.toList = some entries ∧
      ofEntries? entries = some preset ∧
      ∀ key : Key, key.statedIn entries = key.valueIn preset := by
  -- The characters are spelled out first: the kernel is slow to take them from a text.
  have ⟨cs, spelled, reads⟩ : ∃ cs, presetDocument = String.ofList cs ∧
      (Toml.parse? cs).any fun entries => Tabular entries ∧ ofEntries? entries = some preset ∧
        ∀ key : Key, (key.statedIn entries).isSome = (key.valueIn preset).isSome :=
    ⟨_, rfl, by decide +kernel⟩
  rw [← String.toList_ofList (l := cs), ← spelled, Option.any_eq_true] at reads
  obtain ⟨entries, parsed, checked⟩ := reads
  obtain ⟨tabular, made, stated⟩ := of_decide_eq_true checked
  refine ⟨entries, parsed, made, ?_⟩
  intro key
  have laid := (ofEntries?_eq_some_iff tabular).mp made key
  cases found : key.statedIn entries with
  | some v => rw [laid, found, Option.some_or]
  | none =>
    have absent := (stated key).symm
    rw [found, Option.isSome_none, Option.isSome_eq_false_iff, Option.isNone_iff_eq_none] at absent
    rw [absent]

/-! ## Settings from a file -/

/-- Loading a file lays its document over the preset. The settings of a user and those of a named
file come to the same: to settings just if the file is a document whose known keys all have values
of their kinds. These settings then have the document's value under each key that it states, and the
value of the preset's own document under every other. Nothing else in a document matters, and the
relay never works with intervals or chunks of zero. -/
theorem load_overlays {text : String}
    (tables : ∀ entries, Toml.parse? text.toList = some entries → Tabular entries) :
    ∃ result : Option Settings,
      (∀ path r, LoadsFrom path text (loadFile path) r ↔ r = result) ∧
      (∀ home r, LoadsFrom (Path.join home userFile) text (loadUser (some home)) r ↔ r = result) ∧
      (result.isSome ↔ ∃ entries, Toml.parse? text.toList = some entries ∧
        ∀ (key : Key) v, key.statedIn entries = some v → key.kind.Admits v) ∧
      (∃ presetEntries, Toml.parse? presetDocument.toList = some presetEntries ∧
        ofText? presetDocument = some preset ∧
        ∀ s ∈ result, ∀ entries ∈ Toml.parse? text.toList, ∀ key : Key,
          key.valueIn s = (key.statedIn entries).or (key.statedIn presetEntries)) ∧
      (∀ entries ∈ Toml.parse? text.toList, ∀ others, Tabular others →
        (∀ key : Key, key.statedIn others = key.statedIn entries) → ofEntries? others = result) ∧
      (∀ s ∈ result, 1 ≤ s.relay.effective.chunkSize ∧ 1 ≤ s.relay.effective.pollIntervalMs ∧
        (1 ≤ s.relay.chunkSize → s.relay.effective.chunkSize = s.relay.chunkSize) ∧
        (1 ≤ s.relay.pollIntervalMs →
          s.relay.effective.pollIntervalMs = s.relay.pollIntervalMs)) := by
  obtain ⟨presetEntries, presetParsed, presetMade, presetStates⟩ := presetDocument_states
  refine ⟨ofText? text, fun path r => loadsFrom_loadFile_iff,
    fun home r => loadsFrom_loadUser_iff, ?taken,
    ⟨presetEntries, presetParsed, ?document, ?overlay⟩, ?others, ?relay⟩
  case document => rw [ofText?, presetParsed, Option.bind_some, presetMade]
  case taken =>
    unfold ofText?
    cases parsed : Toml.parse? text.toList with
    | none => simp
    | some entries => simp [ofEntries?_isSome_iff (tables entries parsed)]
  case overlay =>
    intro s loaded entries parsed key
    rw [Option.mem_def] at loaded parsed
    rw [ofText?, parsed, Option.bind_some, ofEntries?_eq_some_iff (tables entries parsed)] at loaded
    rw [loaded key, presetStates key]
  case others =>
    intro entries parsed others tabular same
    rw [Option.mem_def] at parsed
    rw [ofText?, parsed, Option.bind_some]
    exact ofEntries?_congr (tables entries parsed) tabular same
  case relay =>
    intro s _
    simp only [StreamSettings.effective]
    omega

/-- A document with one known key and one that is not known. -/
theorem load_overlays_chunkSize :
    (∀ entries, Toml.parse? "[relay]\nchunk_size = 64\nother = 1\n".toList = some entries →
      Tabular entries) ∧
    ∃ s : Settings, s.relay = ⟨100, 64⟩ ∧ 1 ≤ s.relay.effective.chunkSize ∧
      ∀ path r, LoadsFrom path "[relay]\nchunk_size = 64\nother = 1\n" (loadFile path) r ↔
        r = some s := by
  have tables : ∀ entries,
      Toml.parse? "[relay]\nchunk_size = 64\nother = 1\n".toList = some entries →
        Tabular entries := by
    intro entries parsed
    have checked : (Toml.parse? "[relay]\nchunk_size = 64\nother = 1\n".toList).all
        (Tabular ·) := by
      decide +kernel
    rw [parsed, Option.all_some] at checked
    exact of_decide_eq_true checked
  obtain ⟨result, file, -, -, -, -, relay⟩ := load_overlays tables
  have made : ofText? "[relay]\nchunk_size = 64\nother = 1\n" = some { relay := ⟨100, 64⟩ } := by
    decide +kernel
  have loaded := (file "" _).mp (loadsFrom_loadFile_iff.mpr made.symm)
  subst loaded
  exact ⟨tables, _, rfl, (relay _ rfl).1, file⟩

end NotebookKernel.Settings
