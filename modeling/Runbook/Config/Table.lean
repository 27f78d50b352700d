import Runbook.Config.Basic
import Runbook.Toml.Document
import Runbook.Toml.Reading

/-!
# Configurations in tables

`Config.ofTable` reads a configuration from the table of a document: the section `config` for the
settings, the section `report` for the policy, and the array `command` for the commands. Each key
stands for itself: what is absent has its default, whatever else is there, and unknown keys have no
effect. Only the line of a command has no default.
-/

namespace Runbook

open Toml

/-- The keys of the section `config`. Reference: `ConfigSection`. -/
def Settings.fields : List (FieldReader Settings) := [
  ⟨"output_dir", fun settings value =>
    return { settings with outputDir := some (.ofText (← readText "path string" value)) }⟩,
  ⟨"propagate_failure", fun settings value =>
    return { settings with propagateFailure := (← readBool value) }⟩,
  ⟨"default_timeout", fun settings value =>
    return { settings with defaultTimeout := some (← readText "a string" value) }⟩,
  ⟨"color", fun settings value =>
    return { settings with
      color := (← readChoice ["auto", "always", "never"] ColorChoice.ofName? value) }⟩]

/-- The keys of the section `report`. Reference: `ReportSection`. -/
def Policy.fields : List (FieldReader Policy) := [
  ⟨"max_lines", fun policy value => return { policy with maxLines := (← readCount value) }⟩,
  ⟨"head", fun policy value => return { policy with head := (← readCount value) }⟩,
  ⟨"tail", fun policy value => return { policy with tail := (← readCount value) }⟩]

/-- A command whose line may not have been read yet. -/
structure PartialEntry where
  line : Option Text
  name : Option Text
  timeout : Option Text
  deriving Repr, DecidableEq

/-- The keys of a command. Reference: `CommandConfig`. -/
def PartialEntry.fields : List (FieldReader PartialEntry) := [
  ⟨"cmd", fun entry value => return { entry with line := some (← readText "a string" value) }⟩,
  ⟨"name", fun entry value => return { entry with name := some (← readText "a string" value) }⟩,
  ⟨"timeout", fun entry value =>
    return { entry with timeout := some (← readText "a string" value) }⟩]

/-- Reads a command. -/
def Entry.ofValue (value : Value) : Except DataError Entry := do
  let entry ← readStructure "struct CommandConfig" PartialEntry.fields ⟨none, none, none⟩ value
  match entry.line, value with
  | some line, _ => return ⟨line, entry.name, entry.timeout⟩
  | none, .array _ => throw (.tooShort 0 "struct CommandConfig with 3 elements")
  | none, _ => throw (.missingField "cmd")

/-- The keys of a configuration. Reference: `RawConfigFile`. -/
def Config.fields : List (FieldReader Config) := [
  ⟨"config", fun config value => return { config with
    settings := (← readStructure "struct ConfigSection" Settings.fields .default value) }⟩,
  ⟨"report", fun config value => return { config with
    report := (← readStructure "struct ReportSection" Policy.fields .default value) }⟩,
  ⟨"command", fun config value => return { config with
    commands := (← readArray Entry.ofValue value) }⟩]

/-- The configuration that a table holds. -/
def Config.ofTable (table : Table) : Except DataError Config :=
  readEntries Config.fields .default table

/-- The configuration that a document holds. Reference: `toml::from_str`. -/
def Config.ofDocument (text : Text) : Except ReadError Config :=
  match parse? text with
  | none => .error .malformed
  | some table => (Config.ofTable table).mapError .unfit

end Runbook
