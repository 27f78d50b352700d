import Runbook.Program

/-!
# Loading the configuration

`Loading` tells in which ways the loading of the configuration can end, by what the file system and
the check of the configuration say. It ends in exactly one of them (`loading`,
`Loading.eq_loadConfig`), and whichever it is, nothing has been done but to read the file, if there
is one (`loadConfig_effects`).
-/

namespace Runbook.Program

variable {σ : Type}

/-- What reading the configuration does to the system. -/
def reads (host : Host σ) (system : σ) (arguments : Arguments) : List Effect :=
  ((Config.locate arguments.config (host.isFile system)).map Effect.read).toList

/-- The ways in which the loading of the configuration can end. -/
inductive Loading (host : Host σ) (system : σ) (arguments : Arguments) :
    Checked Failed CheckedConfig → Prop
  /-- There is no file, so nothing is configured. -/
  | absent (h : Config.locate arguments.config (host.isFile system) = none) :
    Loading host system arguments (.ok .default)
  /-- The file cannot be read. -/
  | unreadable {path : Pathname} {reason : SystemError}
    (h : Config.locate arguments.config (host.isFile system) = some path)
    (hread : host.read system path = .error reason) :
    Loading host system arguments (refuse ⟨.loading path, .system reason⟩)
  /-- The file is no configuration. -/
  | malformed {path : Pathname} {bytes : ByteArray} {error : Error}
    (h : Config.locate arguments.config (host.isFile system) = some path)
    (hread : host.read system path = .ok bytes) (hconfig : Config.ofBytes bytes = .error error) :
    Loading host system arguments (refuse ⟨.loading path, error⟩)
  /-- The configuration does not pass its check. -/
  | rejected {path : Pathname} {bytes : ByteArray} {config : Config} {reason : ConfigError}
    (h : Config.locate arguments.config (host.isFile system) = some path)
    (hread : host.read system path = .ok bytes) (hconfig : Config.ofBytes bytes = .ok config)
    (hcheck : config.check = refuse reason) :
    Loading host system arguments (refuse ⟨.loading path, .config reason⟩)
  /-- The check of the configuration leaves the range of a word. -/
  | overflowed {path : Pathname} {bytes : ByteArray} {config : Config} {operation : Overflow}
    (h : Config.locate arguments.config (host.isFile system) = some path)
    (hread : host.read system path = .ok bytes) (hconfig : Config.ofBytes bytes = .ok config)
    (hcheck : config.check = .error (.overflow operation)) :
    Loading host system arguments (.error (.overflow operation))
  /-- The configuration passes its check. -/
  | accepted {path : Pathname} {bytes : ByteArray} {config : Config} {checked : CheckedConfig}
    (h : Config.locate arguments.config (host.isFile system) = some path)
    (hread : host.read system path = .ok bytes) (hconfig : Config.ofBytes bytes = .ok config)
    (hcheck : config.check = .ok checked) :
    Loading host system arguments (.ok checked)

section
variable {host : Host σ} {system : σ} {arguments : Arguments}

/-- A file that holds a configuration is loaded by checking it. -/
theorem load_of_ofBytes {bytes : ByteArray} {config : Config}
    (h : Config.ofBytes bytes = .ok config) :
    Config.load bytes = config.check.mapReason .config := by
  rw [Config.load, h]
  rfl

/-- Loading ends in one of the ways of `Loading`. -/
theorem loading (host : Host σ) (system : σ) (arguments : Arguments) :
    Loading host system arguments (loadConfig host system arguments).2.2 := by
  unfold loadConfig
  cases h : Config.locate arguments.config (host.isFile system) with
  | none => exact .absent h
  | some path =>
    simp only
    cases hread : host.read system path with
    | error reason => exact .unreadable h hread
    | ok bytes =>
      cases hconfig : Config.ofBytes bytes with
      | error error =>
        simp only [Config.load, hconfig]
        exact .malformed h hread hconfig
      | ok config =>
        simp only [load_of_ofBytes hconfig]
        cases hcheck : config.check with
        | ok checked => exact .accepted h hread hconfig hcheck
        | error fault =>
          cases fault with
          | refused reason => exact .rejected h hread hconfig hcheck
          | overflow operation => exact .overflowed h hread hconfig hcheck

/-- Loading ends in only one way. -/
theorem Loading.eq_loadConfig {loaded : Checked Failed CheckedConfig}
    (h : Loading host system arguments loaded) :
    (loadConfig host system arguments).2.2 = loaded := by
  cases h with
  | absent h => simp only [loadConfig, h]
  | unreadable h hread => simp only [loadConfig, h, hread]
  | malformed h hread hconfig =>
    simp only [loadConfig, h, hread, Config.load, hconfig]
    rfl
  | rejected h hread hconfig hcheck | overflowed h hread hconfig hcheck
  | accepted h hread hconfig hcheck =>
    simp only [loadConfig, h, hread, load_of_ofBytes hconfig, hcheck]
    rfl

/-- All that loading does is to read the file. -/
theorem loadConfig_effects (host : Host σ) (system : σ) (arguments : Arguments) :
    (loadConfig host system arguments).1 = reads host system arguments := by
  unfold loadConfig reads
  cases Config.locate arguments.config (host.isFile system) <;> rfl

end

end Runbook.Program
