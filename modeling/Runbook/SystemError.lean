import Runbook.Text.Numeral

/-!
# Errors of the system

What can go wrong when files are read, directories created and output written.
-/

namespace Runbook

/-- Why the system refused an operation. Reference: `std::io::Error`. -/
inductive SystemError where
  | notFound
  | permissionDenied
  | fileExists
  | notDirectory
  | isDirectory
  | nameTooLong
  | tooManyLinks
  | notEmpty
  | noSpace
  | noDevice
  | invalidArgument
  | nullInPath
  | invalidText
  | sinkFull
  /-- What is to be read is also what is written. -/
  | isOutput
  deriving Repr, DecidableEq

namespace SystemError

/-- The reason in words, without its number. -/
def reason : SystemError → Text
  | .notFound => "No such file or directory"
  | .permissionDenied => "Permission denied"
  | .fileExists => "File exists"
  | .notDirectory => "Not a directory"
  | .isDirectory => "Is a directory"
  | .nameTooLong => "File name too long"
  | .tooManyLinks => "Too many levels of symbolic links"
  | .notEmpty => "Directory not empty"
  | .noSpace => "No space left on device"
  | .noDevice => "No such device or address"
  | .invalidArgument => "Invalid argument"
  | .nullInPath => "file name contained an unexpected NUL byte"
  | .invalidText => "stream did not contain valid UTF-8"
  | .sinkFull => "sink full"
  | .isOutput => "input file is output file"

/-- The number by which the system knows the reason, if it is one of the system's own. -/
def number? : SystemError → Option Nat
  | .notFound => some 2
  | .permissionDenied => some 13
  | .fileExists => some 17
  | .notDirectory => some 20
  | .isDirectory => some 21
  | .nameTooLong => some 36
  | .tooManyLinks => some 40
  | .notEmpty => some 39
  | .noSpace => some 28
  | .noDevice => some 6
  | .invalidArgument => some 22
  | .nullInPath | .invalidText | .sinkFull | .isOutput => none

/-- The reason in words, and its number where it has one. Reference: the `Display` text of
`std::io::Error`. -/
def message (error : SystemError) : Text :=
  match error.number? with
  | some n => error.reason ++ " (os error " ++ Text.ofNat n ++ ")"
  | none => error.reason

end SystemError

end Runbook
