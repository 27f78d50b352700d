import Runbook.Config.Error
import Runbook.Pathname

/-!
# The placeholder of the output directory

A command line may name the output directory by a placeholder. `Placeholder.split` cuts a line at
every occurrence, and `Placeholder.expand` puts the directory into the cuts, as it is: what is put
in is not looked at again. A line with a placeholder needs a directory; any other line stays as it
is.
-/

namespace Runbook.Placeholder

/-- What stands for the output directory in a command line. Reference: `OUTPUT_DIR_PLACEHOLDER`. -/
def mark : Text := "\x7boutput_dir\x7d"

/-- The pieces of a line between the placeholders, once `skip` characters have been passed over. -/
def splitFrom : Nat → Text → List Text
  | _, [] => [[]]
  | skip + 1, _ :: rest => splitFrom skip rest
  | 0, c :: rest =>
    if mark.isPrefixOf (c :: rest) then [] :: splitFrom (mark.length - 1) rest
    else (splitFrom 0 rest).modifyHead (c :: ·)

/-- The pieces of a line between the placeholders; a line without one is a single piece. -/
def split (line : Text) : List Text := splitFrom 0 line

/-- The line with the directory in the place of each placeholder. Reference: `expand_output_dir`. -/
def expand (line : Text) (dir : Option Pathname) : Except ConfigError Text :=
  match split line, dir with
  | [_], _ => .ok line
  | _, none => .error (.noOutputDir line)
  | pieces, some dir => .ok (List.intercalate dir.display pieces)

end Runbook.Placeholder
