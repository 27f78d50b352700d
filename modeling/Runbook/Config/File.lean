import Runbook.Config.Check
import Runbook.Config.Table
import Runbook.Error
import Runbook.Text.Utf8

/-!
# Configuration files

A run takes its configuration from the file that it is told, whether that file exists or not, and
otherwise from the default file of the working directory, if there is one. With neither it has the
configuration that says nothing.
-/

namespace Runbook.Config

/-- The configuration file of a working directory. Reference: `DEFAULT_CONFIG_FILE`. -/
def defaultFile : Pathname := .ofText "Benchseq.toml"

/-- The file to read the configuration from, if any: the one that is told, or else the default file
if it is a file. Reference: `resolve_config_path`. -/
def locate (told : Option Pathname) (isFile : Pathname → Bool) : Option Pathname :=
  match told with
  | some path => some path
  | none => if isFile defaultFile then some defaultFile else none

/-- The configuration that the bytes of a file hold. Reference: `load_from_path`. -/
def ofBytes (bytes : ByteArray) : Except Error Config :=
  match Utf8.decode? bytes.toList with
  | none => .error (.system .invalidText)
  | some text => (ofDocument text).mapError .toml

/-- The checked configuration that the bytes of a file hold. Reference: `load_and_validate`. -/
def load (bytes : ByteArray) : Checked Error CheckedConfig := do
  let config ← (ofBytes bytes).mapError .refused
  config.check.mapReason .config

end Runbook.Config
