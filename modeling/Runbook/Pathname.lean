import Runbook.Text.Utf8

/-!
# Names of paths

A path is named by bytes, and these need not be the bytes of a text. Where a name is shown, or put
into a command line, its bytes are read as UTF-8 with the replacement character for each part that
is not well-formed. So two names can look the same (`Pathname.display`); the names of texts do not.
-/

namespace Runbook

/-- The name of a path. Reference: `PathBuf`. -/
structure Pathname where
  bytes : List UInt8
  deriving Repr, DecidableEq

namespace Pathname

/-- The name that a text is. -/
def ofText (text : Text) : Pathname := ⟨Text.utf8 text⟩

/-- The name as it is shown. Reference: `Path::display`, `Path::to_string_lossy`. -/
def display (path : Pathname) : Text := Utf8.decodeLossy path.bytes

end Pathname

end Runbook
