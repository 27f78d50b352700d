import Mathlib.Tactic.MkIffOfInductiveProp
import Runbook.Config.File
import Runbook.Proofs.Toml.Reading

/-!
# Configurations read from tables

`Config.InTable` says that a table holds a configuration: each key has the value of its field, a key
may be missing where the field is what it is by default, and so may a whole section; the commands
stand in their order. Of other keys it says nothing, at the top, in a section or in a command.

A file with such a table is read as the configuration (`Config.ofBytes_eq_ok_iff`), but for one
thing: a number that no reader can hold stops the reading wherever it stands, under an unknown key
as well (`Config.ofBytes_tooLong`).

Each structure is read in the same way. `known` is the structure as far as the keys that have been
met tell, and each field is read to what is known with its key (`Toml.readEntries_okIff`).
-/

namespace Runbook

open Toml

/-! ## What tables hold -/

/-- The value is the text that names the path. A path that no text names is in no table. -/
def IsPath (path : Option Pathname) (value : Value) : Prop :=
  ∃ text, path = some (.ofText text) ∧ value = .string text

instance (path : Option Pathname) : DecidablePred (IsPath path)
  | .string text => decidable_of_iff (path = some (.ofText text))
    ⟨fun h => ⟨text, h, rfl⟩, fun ⟨_, h, heq⟩ => Value.string.inj heq ▸ h⟩
  | .array _ | .integer _ | .badInteger | .float _ | .hugeFloat | .boolean _ | .datetime
  | .table _ => .isFalse nofun

/-- The table holds the settings. -/
@[mk_iff]
structure Settings.InTable (settings : Settings) (table : Table) : Prop where
  outputDir : table.Gives "output_dir" (IsPath settings.outputDir)
    (settings.outputDir = Settings.default.outputDir)
  propagateFailure : table.Gives "propagate_failure" (· = .boolean settings.propagateFailure)
    (settings.propagateFailure = Settings.default.propagateFailure)
  defaultTimeout : table.Gives "default_timeout" (IsString settings.defaultTimeout)
    (settings.defaultTimeout = Settings.default.defaultTimeout)
  color : table.Gives "color" (· = .string settings.color.name)
    (settings.color = Settings.default.color)

instance (settings : Settings) : DecidablePred settings.InTable := fun table =>
  decidable_of_iff _ (Settings.inTable_iff settings table).symm

/-- The table holds the policy. -/
@[mk_iff]
structure Policy.InTable (policy : Policy) (table : Table) : Prop where
  maxLines : table.Gives "max_lines" (· = .integer policy.maxLines.toNat)
    (policy.maxLines = Policy.default.maxLines)
  head : table.Gives "head" (· = .integer policy.head.toNat) (policy.head = Policy.default.head)
  tail : table.Gives "tail" (· = .integer policy.tail.toNat) (policy.tail = Policy.default.tail)

instance (policy : Policy) : DecidablePred policy.InTable := fun table =>
  decidable_of_iff _ (Policy.inTable_iff policy table).symm

/-- The table holds the command. Its line is always there. -/
@[mk_iff]
structure Entry.InTable (entry : Entry) (table : Table) : Prop where
  line : table.Gives "cmd" (· = .string entry.line) False
  name : table.Gives "name" (IsString entry.name) (entry.name = none)
  timeout : table.Gives "timeout" (IsString entry.timeout) (entry.timeout = none)

instance (entry : Entry) : DecidablePred entry.InTable := fun table =>
  decidable_of_iff _ (Entry.inTable_iff entry table).symm

/-- The value is an array of tables that hold the commands in their order. -/
def AreTables (entries : List Entry) (value : Value) : Prop :=
  ∃ items, value = .array items ∧
    List.Forall₂ (fun item (entry : Entry) => IsTable entry.InTable item) items entries

instance (entries : List Entry) : DecidablePred (AreTables entries)
  | .array items => decidable_of_iff
    (List.Forall₂ (fun item (entry : Entry) => IsTable entry.InTable item) items entries)
    ⟨fun h => ⟨items, rfl, h⟩, fun ⟨_, heq, h⟩ => Value.array.inj heq ▸ h⟩
  | .string _ | .integer _ | .badInteger | .float _ | .hugeFloat | .boolean _ | .datetime
  | .table _ => .isFalse nofun

/-- The table holds the configuration. -/
@[mk_iff]
structure Config.InTable (config : Config) (table : Table) : Prop where
  settings : table.Gives "config" (IsTable config.settings.InTable)
    (config.settings = Config.default.settings)
  report : table.Gives "report" (IsTable config.report.InTable)
    (config.report = Config.default.report)
  commands : table.Gives "command" (AreTables config.commands)
    (config.commands = Config.default.commands)

instance (config : Config) : DecidablePred config.InTable := fun table =>
  decidable_of_iff _ (Config.inTable_iff config table).symm

/-! ## Sections -/

/-- The settings as far as the keys `seen` tell. -/
def Settings.known (settings : Settings) (seen : List Text) : Settings where
  outputDir := pick seen "output_dir" settings.outputDir default.outputDir
  propagateFailure := pick seen "propagate_failure" settings.propagateFailure
    default.propagateFailure
  defaultTimeout := pick seen "default_timeout" settings.defaultTimeout default.defaultTimeout
  color := pick seen "color" settings.color default.color

/-- Each setting is read to what is known with its key. -/
theorem Settings.read_known {settings : Settings} {table : Table} (h : settings.InTable table) :
    ∀ field ∈ fields, ∀ value, (field.name, value) ∈ table → ∀ seen,
      OkIff (field.read (settings.known seen) value) value.Fits
        (settings.known (seen ++ [field.name])) := by
  simp only [fields, List.forall_mem_cons]
  refine ⟨?outputDir, ?propagateFailure, ?defaultTimeout, ?color, nofun⟩ <;>
    intro value hvalue seen <;>
    simp (disch := decide +kernel) only [known, pick_append_self, pick_append_of_ne]
  case outputDir =>
    obtain ⟨dir, hdir, rfl⟩ := h.outputDir.value value hvalue
    rw [hdir]
    exact .of_eq_ok rfl (.string dir)
  case propagateFailure =>
    obtain rfl := h.propagateFailure.value value hvalue
    exact .of_eq_ok rfl (.boolean _)
  case defaultTimeout =>
    obtain ⟨limit, hlimit, rfl⟩ := h.defaultTimeout.value value hvalue
    rw [hlimit]
    exact .of_eq_ok rfl (.string limit)
  case color =>
    obtain rfl := h.color.value value hvalue
    rw [readChoice, readChoice.choose, ColorChoice.ofName?_name]
    exact .of_eq_ok rfl (.string _)

/-- A key of no setting tells nothing. -/
theorem Settings.known_append {settings : Settings} {key : Text}
    (h : ∀ field ∈ fields, field.name ≠ key) (seen : List Text) :
    settings.known (seen ++ [key]) = settings.known seen := by
  simp only [fields, List.forall_mem_cons] at h
  obtain ⟨hdir, hpropagates, hlimit, hcolor, -⟩ := h
  rw [known, pick_append_of_ne hdir, pick_append_of_ne hpropagates, pick_append_of_ne hlimit,
    pick_append_of_ne hcolor]
  rfl

/-- Settings are read from a table that holds them. -/
theorem Settings.readEntries_okIff {settings : Settings} {table : Table}
    (h : settings.InTable table) :
    OkIff (readEntries fields .default table) (∀ entry ∈ table, entry.2.Fits) settings := by
  refine Toml.readEntries_okIff rfl ?_ (read_known h) fun _ => known_append
  rw [known, h.outputDir.pick_keys, h.propagateFailure.pick_keys, h.defaultTimeout.pick_keys,
    h.color.pick_keys]

/-- The policy as far as the keys `seen` tell. -/
def Policy.known (policy : Policy) (seen : List Text) : Policy where
  maxLines := pick seen "max_lines" policy.maxLines default.maxLines
  head := pick seen "head" policy.head default.head
  tail := pick seen "tail" policy.tail default.tail

/-- Each count is read to what is known with its key. -/
theorem Policy.read_known {policy : Policy} {table : Table} (h : policy.InTable table) :
    ∀ field ∈ fields, ∀ value, (field.name, value) ∈ table → ∀ seen,
      OkIff (field.read (policy.known seen) value) value.Fits
        (policy.known (seen ++ [field.name])) := by
  simp only [fields, List.forall_mem_cons]
  refine ⟨?maxLines, ?head, ?tail, nofun⟩ <;>
    intro value hvalue seen <;>
    simp (disch := decide +kernel) only [known, pick_append_self, pick_append_of_ne]
  case maxLines =>
    obtain rfl := h.maxLines.value value hvalue
    exact (readCount_okIff _).map
  case head =>
    obtain rfl := h.head.value value hvalue
    exact (readCount_okIff _).map
  case tail =>
    obtain rfl := h.tail.value value hvalue
    exact (readCount_okIff _).map

/-- A key of no count tells nothing. -/
theorem Policy.known_append {policy : Policy} {key : Text}
    (h : ∀ field ∈ fields, field.name ≠ key) (seen : List Text) :
    policy.known (seen ++ [key]) = policy.known seen := by
  simp only [fields, List.forall_mem_cons] at h
  obtain ⟨hmaxLines, hhead, htail, -⟩ := h
  rw [known, pick_append_of_ne hmaxLines, pick_append_of_ne hhead, pick_append_of_ne htail]
  rfl

/-- A policy is read from a table that holds it. -/
theorem Policy.readEntries_okIff {policy : Policy} {table : Table}
    (h : policy.InTable table) :
    OkIff (readEntries fields .default table) (∀ entry ∈ table, entry.2.Fits) policy := by
  refine Toml.readEntries_okIff rfl ?_ (read_known h) fun _ => known_append
  rw [known, h.maxLines.pick_keys, h.head.pick_keys, h.tail.pick_keys]

/-! ## Commands -/

/-- The command as far as the keys `seen` tell. -/
def Entry.known (entry : Entry) (seen : List Text) : PartialEntry where
  line := pick seen "cmd" (some entry.line) none
  name := pick seen "name" entry.name none
  timeout := pick seen "timeout" entry.timeout none

/-- Each part of a command is read to what is known with its key. -/
theorem Entry.read_known {entry : Entry} {table : Table} (h : entry.InTable table) :
    ∀ field ∈ PartialEntry.fields, ∀ value, (field.name, value) ∈ table → ∀ seen,
      OkIff (field.read (entry.known seen) value) value.Fits
        (entry.known (seen ++ [field.name])) := by
  simp only [PartialEntry.fields, List.forall_mem_cons]
  refine ⟨?line, ?name, ?timeout, nofun⟩ <;>
    intro value hvalue seen <;>
    simp (disch := decide +kernel) only [known, pick_append_self, pick_append_of_ne]
  case line =>
    obtain rfl := h.line.value value hvalue
    exact .of_eq_ok rfl (.string _)
  case name =>
    obtain ⟨name, hname, rfl⟩ := h.name.value value hvalue
    rw [hname]
    exact .of_eq_ok rfl (.string name)
  case timeout =>
    obtain ⟨limit, hlimit, rfl⟩ := h.timeout.value value hvalue
    rw [hlimit]
    exact .of_eq_ok rfl (.string limit)

/-- A key of no part tells nothing. -/
theorem Entry.known_append {entry : Entry} {key : Text}
    (h : ∀ field ∈ PartialEntry.fields, field.name ≠ key) (seen : List Text) :
    entry.known (seen ++ [key]) = entry.known seen := by
  simp only [PartialEntry.fields, List.forall_mem_cons] at h
  obtain ⟨hline, hname, htimeout, -⟩ := h
  rw [known, pick_append_of_ne hline, pick_append_of_ne hname, pick_append_of_ne htimeout]
  rfl

/-- The parts of a command are read from a table that holds it. -/
theorem Entry.readEntries_okIff {entry : Entry} {table : Table} (h : entry.InTable table) :
    OkIff (readEntries PartialEntry.fields ⟨none, none, none⟩ table)
      (∀ entry ∈ table, entry.2.Fits) ⟨some entry.line, entry.name, entry.timeout⟩ := by
  have hline : pick (table.map Prod.fst) "cmd" (some entry.line) none = some entry.line :=
    if_pos (Decidable.of_not_not h.line.default)
  refine Toml.readEntries_okIff rfl ?_ (read_known h) fun _ => known_append
  rw [known, hline, h.name.pick_keys, h.timeout.pick_keys]

/-- A command is read from a table that holds it. -/
theorem Entry.ofValue_okIff {entry : Entry} {value : Value} (h : IsTable entry.InTable value) :
    OkIff (ofValue value) value.Fits entry := by
  unfold ofValue
  refine .congr ?_ (and_iff_left trivial)
  refine .bind (readStructure_okIff (fun _ => readEntries_okIff) h) ?_
  obtain ⟨entries, rfl, -⟩ := h
  exact .of_eq_ok rfl trivial

/-- Commands are read from an array of tables that hold them. -/
theorem readCommands_okIff {entries : List Entry} {value : Value} (h : AreTables entries value) :
    OkIff (readArray Entry.ofValue value) value.Fits entries := by
  obtain ⟨items, rfl, hitems⟩ := h
  exact (OkIff.mapM (hitems.imp fun _ _ => Entry.ofValue_okIff)).congr
    Value.fits_array_iff.symm

/-! ## Configurations -/

/-- The configuration as far as the keys `seen` tell. -/
def Config.known (config : Config) (seen : List Text) : Config where
  settings := pick seen "config" config.settings default.settings
  report := pick seen "report" config.report default.report
  commands := pick seen "command" config.commands default.commands

/-- Each section is read to what is known with its key. -/
theorem Config.read_known {config : Config} {table : Table} (h : config.InTable table) :
    ∀ field ∈ fields, ∀ value, (field.name, value) ∈ table → ∀ seen,
      OkIff (field.read (config.known seen) value) value.Fits
        (config.known (seen ++ [field.name])) := by
  simp only [fields, List.forall_mem_cons]
  refine ⟨?settings, ?report, ?commands, nofun⟩ <;>
    intro value hvalue seen <;>
    simp (disch := decide +kernel) only [known, pick_append_self, pick_append_of_ne]
  case settings =>
    exact (readStructure_okIff (fun _ => Settings.readEntries_okIff)
      (h.settings.value value hvalue)).map
  case report =>
    exact (readStructure_okIff (fun _ => Policy.readEntries_okIff)
      (h.report.value value hvalue)).map
  case commands => exact (readCommands_okIff (h.commands.value value hvalue)).map

/-- A key of no section tells nothing. -/
theorem Config.known_append {config : Config} {key : Text}
    (h : ∀ field ∈ fields, field.name ≠ key) (seen : List Text) :
    config.known (seen ++ [key]) = config.known seen := by
  simp only [fields, List.forall_mem_cons] at h
  obtain ⟨hsettings, hreport, hcommands, -⟩ := h
  rw [known, pick_append_of_ne hsettings, pick_append_of_ne hreport, pick_append_of_ne hcommands]
  rfl

/-- A configuration is read from a table that holds it. -/
theorem Config.ofTable_okIff {config : Config} {table : Table} (h : config.InTable table) :
    OkIff (ofTable table) (∀ entry ∈ table, entry.2.Fits) config := by
  refine Toml.readEntries_okIff rfl ?_ (read_known h) fun _ => known_append
  rw [known, h.settings.pick_keys, h.report.pick_keys, h.commands.pick_keys]

/-- A file whose table holds a configuration is read just if all numbers in the table can be held,
and then it is read as that configuration: each key that is left out stands for its default,
whatever else is there, the commands keep their order, and unknown keys change nothing. -/
theorem Config.ofBytes_eq_ok_iff {bytes : ByteArray} {text : Text} {table : Table} {config : Config}
    (htext : Utf8.decode? bytes.toList = some text) (htable : parse? text = some table)
    (h : config.InTable table) (loaded : Config) :
    ofBytes bytes = .ok loaded ↔ (∀ entry ∈ table, entry.2.Fits) ∧ loaded = config := by
  have hdocument : OkIff (ofDocument text) (∀ entry ∈ table, entry.2.Fits) config := by
    rw [ofDocument, htable]
    exact (ofTable_okIff h).mapError
  have hread : OkIff (ofBytes bytes) (∀ entry ∈ table, entry.2.Fits) config := by
    rw [ofBytes, htext]
    exact hdocument.mapError
  exact hread loaded

/-- A file without settings and with a part of the policy, and with unknown keys at the top, in the
policy and in the first of two commands. -/
theorem Config.ofBytes_partial :
    let text : Text := "title = \"nightly\"\n[report]\nhead = 5\nwide = true\n" ++
      "[[command]]\ncmd = \"make\"\ntags = [\"a\"]\n[[command]]\nname = \"b\"\ncmd = \"bench\"\n"
    let bytes : ByteArray := ⟨(Text.utf8 text).toArray⟩
    let make : Table := [("cmd", .string "make"), ("tags", .array [.string "a"])]
    let bench : Table := [("cmd", .string "bench"), ("name", .string "b")]
    let report : Table := [("head", .integer 5), ("wide", .boolean true)]
    let table : Table := [("command", .array [.table make, .table bench]),
      ("report", .table report), ("title", .string "nightly")]
    let config : Config :=
      ⟨.default, ⟨100, 5, 10⟩, [⟨"make", none, none⟩, ⟨"bench", some "b", none⟩]⟩
    Utf8.decode? bytes.toList = some text ∧ parse? text = some table ∧ config.InTable table ∧
      ofBytes bytes = .ok config := by
  intro text bytes make bench report table config
  have htext : Utf8.decode? bytes.toList = some text := by decide +kernel
  have htable : parse? text = some table := by decide +kernel
  have hconfig : config.InTable table := by decide +kernel
  have hfits : ∀ entry ∈ table, entry.2.Fits := by decide +kernel
  exact ⟨htext, htable, hconfig, (ofBytes_eq_ok_iff htext htable hconfig config).mpr ⟨hfits, rfl⟩⟩

/-- A file that configures nothing, with a whole number of 129 bits under an unknown key, is not
read. -/
theorem Config.ofBytes_tooLong :
    let text : Text := "x = 340282366920938463463374607431768211456\n"
    let bytes : ByteArray := ⟨(Text.utf8 text).toArray⟩
    let table : Table := [("x", .integer 340282366920938463463374607431768211456)]
    Utf8.decode? bytes.toList = some text ∧ parse? text = some table ∧ default.InTable table ∧
      ofBytes bytes = .error (.toml (.unfit .integerOverflow)) := by
  refine ⟨?_, ?_, ?_, ?_⟩ <;> decide +kernel

end Runbook
