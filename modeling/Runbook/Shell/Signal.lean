import Runbook.Text.Numeral

/-!
# Signals

A signal is a number. By default most signals end a process, some are ignored, some stop it, and one
lets it go on. Two of them can be neither ignored nor caught.
-/

namespace Runbook.Shell

/-- The signal that ends a process whatever it does. -/
def sigKill : Nat := 9

/-- The signal of a write that nobody reads. -/
def sigPipe : Nat := 13

/-- The signal that asks a process to end. -/
def sigTerm : Nat := 15

/-- The signal of an interrupt. -/
def sigInt : Nat := 2

/-- The signal to quit. -/
def sigQuit : Nat := 3

/-- The signal that lets a stopped process go on. -/
def sigContinue : Nat := 18

/-- The signal that stops a process whatever it does. -/
def sigStop : Nat := 19

/-- The last signal. -/
def lastSignal : Nat := 64

/-- The names of the signals from 1 on. Those without a name go by their numbers. -/
def signalNames : List Text :=
  let named : List String := ["HUP", "INT", "QUIT", "ILL", "TRAP", "ABRT", "BUS", "FPE", "KILL",
    "USR1", "SEGV", "USR2", "PIPE", "ALRM", "TERM", "16", "CHLD", "CONT", "STOP", "TSTP", "TTIN",
    "TTOU", "URG", "XCPU", "XFSZ", "VTALRM", "PROF", "WINCH", "IO", "PWR", "SYS", "32", "33"]
  let after : List Text := (List.range 15).map fun i => "RTMIN+" ++ Text.ofNat (i + 1)
  let before : List Text := (List.range 14).map fun i => "RTMAX-" ++ Text.ofNat (14 - i)
  named.map String.toList ++ ["RTMIN".toList] ++ after ++ before ++ ["RTMAX".toList]

/-- What is said of a process that a signal ended, for the signals with a number below 32, from 1
on. -/
def signalMessages : List Text :=
  (["Hangup", "Interrupt", "Quit", "Illegal instruction", "Trace/breakpoint trap", "Aborted",
    "Bus error", "Floating point exception", "Killed", "User defined signal 1",
    "Segmentation fault", "User defined signal 2", "Broken pipe", "Alarm clock", "Terminated",
    "Stack fault", "Child exited", "Continued", "Stopped (signal)", "Stopped",
    "Stopped (tty input)", "Stopped (tty output)", "Urgent I/O condition",
    "CPU time limit exceeded", "File size limit exceeded", "Virtual timer expired",
    "Profiling timer expired", "Window changed", "I/O possible", "Power failure",
    "Bad system call"] : List String).map String.toList

/-- The signal that a text names, by its number or by its name; `EXIT` stands for zero. -/
def signalOf? (text : Text) : Option Nat :=
  if !text.isEmpty && text.all Char.isDigit then
    let n := Text.numeralValue text
    if n ≤ lastSignal then some n else none
  else
    let name := text.map Char.toUpper
    if name = "EXIT" then some 0
    else (signalNames.findIdx? (· = name)).map (· + 1)

/-- The signal that a text names to a program, before whose name `SIG` may stand. -/
def longSignalOf? (text : Text) : Option Nat :=
  let isLong := ("SIG" : Text).isPrefixOf (text.map Char.toUpper)
  signalOf? (if isLong then text.drop 3 else text)

/-- The number that names a process, or with a minus sign a group of processes. -/
def processNumber? (text : Text) : Option Int :=
  let (negative, digits) := match text with
    | '-' :: rest => (true, rest)
    | rest => (false, rest)
  if digits.isEmpty || !digits.all Char.isDigit then none
  else
    let n : Int := Text.numeralValue digits
    some (if negative then -n else n)

/-- What is said of a process that a signal ended. -/
def signalMessage (signal : Nat) : Text :=
  match signal with
  | 0 => []
  | n + 1 => (signalMessages[n]?).getD ("Unknown signal " ++ Text.ofNat signal)

/-- Whether a signal does nothing by default. -/
def ignoredByDefault (signal : Nat) : Bool :=
  signal = 17 || signal = sigContinue || signal = 23 || signal = 28

/-- Whether a signal stops a process by default. -/
def stopsByDefault (signal : Nat) : Bool :=
  signal = sigStop || signal = 20 || signal = 21 || signal = 22

end Runbook.Shell
