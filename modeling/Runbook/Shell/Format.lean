import Runbook.Shell.Format.Number

/-!
# Formatted output

`unescape` replaces the escapes of a text by the characters that they stand for, and `Format.print`
fills a format with arguments. A format is used again for as long as arguments are left over, and
arguments that are missing count as empty texts and as zero.
-/

namespace Runbook.Shell

/-! ## Escapes -/

/-- The character of a byte. -/
def byteChar (n : Nat) : Char :=
  rawChar (UInt8.ofNat n)

/-- Whether `c` is a digit in base eight. -/
def isOctal (c : Char) : Bool := '0' ≤ c && c ≤ '7'

/-- What an escape stands for. -/
inductive Escape where
  /-- A character, and how many characters after the backslash belong to the escape. -/
  | char (c : Char) (length : Nat)
  /-- Nothing more is written. -/
  | stop

/-- The escape whose characters after the backslash are at the start of a text. In an argument, in
contrast to a format, a zero may stand before the digits of a byte, and output may be stopped. -/
def escape (argument : Bool) (text : Text) : Escape :=
  let byte (skipped : Nat) : Escape :=
    let digits := ((text.drop skipped).take 3).takeWhile isOctal
    .char (byteChar (Text.numeralValueIn 8 digits)) (skipped + digits.length)
  match text with
  | 'a' :: _ => .char '\x07' 1
  | 'b' :: _ => .char '\x08' 1
  | 'e' :: _ => .char '\x1b' 1
  | 'f' :: _ => .char '\x0c' 1
  | 'n' :: _ => .char '\n' 1
  | 'r' :: _ => .char '\r' 1
  | 't' :: _ => .char '\t' 1
  | 'v' :: _ => .char '\x0b' 1
  | '\\' :: _ => .char '\\' 1
  | 'c' :: _ => if argument then .stop else .char '\\' 0
  | '0' :: _ => byte (if argument then 1 else 0)
  | c :: _ => if isOctal c then byte 0 else .char '\\' 0
  | [] => .char '\\' 0

/-- The text that an argument with escapes stands for, and whether output stops after it. -/
def unescape : Text → Text × Bool
  | [] => ([], false)
  | '\\' :: rest =>
    match escape true rest with
    | .stop => ([], true)
    | .char c length =>
      let (more, stopped) := unescape (rest.drop length)
      (c :: more, stopped)
  | c :: rest =>
    let (more, stopped) := unescape rest
    (c :: more, stopped)
termination_by text => text.length
decreasing_by
  all_goals simp only [List.length_cons, List.length_drop]
  all_goals omega

namespace Format

/-! ## Conversions -/

/-- How a value is put in place. -/
structure Layout where
  left : Bool
  plus : Bool
  space : Bool
  alternate : Bool
  zero : Bool
  width : Nat
  precision : Option Nat

/-- A text with a sign before it, made as wide as the layout says. -/
def Layout.fill (layout : Layout) (zeros : Bool) (sign text : Text) : Text :=
  let missing := layout.width - (sign.length + text.length)
  if layout.left then sign ++ text ++ List.replicate missing ' '
  else if zeros then sign ++ List.replicate missing '0' ++ text
  else List.replicate missing ' ' ++ sign ++ text

/-- The sign of a number. -/
def Layout.sign (layout : Layout) (negative : Bool) : Text :=
  if negative then ['-'] else if layout.plus then ['+'] else if layout.space then [' '] else []

/-- The digits of a whole number, as many as the layout wants. -/
def Layout.digits (layout : Layout) (base n : Nat) (upper : Bool) : Text :=
  let digits := if n = 0 && layout.precision = some 0 then [] else Nat.toDigits base n
  let digits := if upper then digits.map Char.toUpper else digits
  List.replicate (layout.precision.getD 0 - digits.length) '0' ++ digits

/-- Whether printing goes on. -/
inductive Course where
  | open
  /-- An escape has ended it. -/
  | stopped
  /-- The format is wrong. -/
  | refused
  deriving DecidableEq

/-- What printing has come to: the text so far, complaints, and whether it goes on. -/
structure Printed where
  text : Text
  complaints : List Text
  course : Course

/-- A floating-point number as a conversion writes it. -/
def Layout.real (layout : Layout) (kind : Char) (value : Binary) : Text :=
  let cased (text : Text) : Text := if kind.isUpper then text.map Char.toUpper else text
  match value with
  | .notANumber => layout.fill false (layout.sign false) (cased "nan")
  | .infinite negative => layout.fill false (layout.sign negative) (cased "inf")
  | .finite negative mantissa exponent =>
    let fraction := Fraction.ofBinary negative mantissa exponent
    let precision := layout.precision.getD 6
    let sign := layout.sign negative
    match kind.toLower with
    | 'a' => layout.fill layout.zero (sign ++ cased "0x")
        (cased (writeBinary mantissa exponent layout.alternate layout.precision))
    | 'e' => layout.fill layout.zero sign (cased (fraction.writeScaled layout.alternate precision))
    | 'g' => layout.fill layout.zero sign
        (cased (fraction.writeShort layout.alternate (max precision 1)))
    | _ => layout.fill layout.zero sign (fraction.write layout.alternate precision)

/-- The value of an argument as a conversion writes it. -/
def convert (layout : Layout) (kind : Char) (argument : Text) : Printed :=
  let zeros := layout.zero && layout.precision.isNone
  let unsigned (base : Nat) (upper : Bool) (mark : Text) : Printed :=
    let (value, complaint) := readInteger false argument
    let n := (value % UInt64.size).toNat
    let digits := layout.digits base n upper
    let mark := if !layout.alternate || (n = 0 && base ≠ 8) || digits.head? = some '0' then []
      else mark
    ⟨layout.fill zeros mark digits, complaint.toList, .open⟩
  let clip (text : Text) : Text := match layout.precision with
    | some n => text.take n
    | none => text
  match kind with
  | 's' => ⟨layout.fill false [] (clip argument), [], .open⟩
  | 'c' => ⟨layout.fill false [] [argument.headD Text.null], [], .open⟩
  | 'b' =>
    let (text, stopped) := unescape argument
    ⟨layout.fill false [] (clip text), [], if stopped then .stopped else .open⟩
  | 'd' | 'i' =>
    let (value, complaint) := readInteger true argument
    ⟨layout.fill zeros (layout.sign (value < 0)) (layout.digits 10 value.natAbs false),
      complaint.toList, .open⟩
  | 'u' => unsigned 10 false []
  | 'o' => unsigned 8 false ['0']
  | 'x' => unsigned 16 false "0x"
  | 'X' => unsigned 16 true "0X"
  | kind =>
    let (value, complaint) := readReal argument
    ⟨layout.real kind value, complaint.toList, .open⟩

/-- The conversions there are. -/
def conversions : Text := "scbdiuoxXfFeEgGaA"

/-- A number in a format, with the complaint about it if there is one, and what is left of the
format and of the arguments. An asterisk takes the number from the arguments. -/
def readCount (format : Text) (arguments : List Text) : (Int × Option Text) × Text × List Text :=
  match format with
  | '*' :: rest => (readInteger true (arguments.headD []), rest, arguments.tail)
  | format =>
    ((Text.numeralValue (format.takeWhile Char.isDigit), none), format.dropWhile Char.isDigit,
      arguments)

/-- Reads the layout of a conversion from behind its percent sign, and gives the complaints about
it and what is left of the format and of the arguments. -/
def readLayout (format : Text) (arguments : List Text) :
    (Layout × List Text) × Text × List Text :=
  let flags := format.takeWhile ("-+ #0" : Text).elem
  let ((width, wrongWidth), format, arguments) := readCount (format.drop flags.length) arguments
  let ((precision, wrongPrecision), format, arguments) := match format with
    | '.' :: rest =>
      let ((n, wrong), rest, arguments) := readCount rest arguments
      ((if n < 0 then none else some n.toNat, wrong), rest, arguments)
    | rest => ((none, none), rest, arguments)
  ((⟨flags.elem '-' || width < 0, flags.elem '+', flags.elem ' ', flags.elem '#', flags.elem '0',
    width.natAbs, precision⟩, wrongWidth.toList ++ wrongPrecision.toList), format, arguments)

/-- Goes through a format of at most `bound` characters once, and says which arguments are left. -/
def pass : Nat → Text → List Text → Printed × List Text
  | 0, _, arguments => (⟨[], [], .open⟩, arguments)
  | _, [], arguments => (⟨[], [], .open⟩, arguments)
  | bound + 1, c :: rest, arguments =>
    let before (text : Text) (complaints : List Text) (after : Printed × List Text) :
        Printed × List Text :=
      ({ after.1 with
        text := text ++ after.1.text, complaints := complaints ++ after.1.complaints }, after.2)
    match c, rest with
    | '\\', rest =>
      match escape false rest with
      | .stop => (⟨[], [], .stopped⟩, arguments)
      | .char c length => before [c] [] (pass bound (rest.drop length) arguments)
    | '%', '%' :: rest => before ['%'] [] (pass bound rest arguments)
    | '%', rest =>
      let ((layout, wrong), after, arguments) := readLayout rest arguments
      match after with
      | kind :: next =>
        if conversions.elem kind then
          let printed := convert layout kind (arguments.head?.getD [])
          if printed.course ≠ .open then (printed, arguments.tail)
          else before printed.text (wrong ++ printed.complaints)
            (pass bound next arguments.tail)
        else
          let directive := rest.take (rest.length - next.length)
          (⟨[], wrong ++ [("%" ++ directive ++ ": invalid directive" : Text)], .refused⟩, arguments)
      | [] => (⟨[], wrong ++ [("missing format character" : Text)], .refused⟩, arguments)
    | c, rest => before [c] [] (pass bound rest arguments)

/-- Uses a format again while arguments are left and each use takes some of them. -/
def passes (format : Text) : Nat → List Text → Printed
  | 0, _ => ⟨[], [], .open⟩
  | bound + 1, arguments =>
    let (printed, left) := pass format.length format arguments
    if printed.course ≠ .open || left.isEmpty || left.length = arguments.length then printed
    else
      let more := passes format bound left
      { more with
        text := printed.text ++ more.text, complaints := printed.complaints ++ more.complaints }

/-- A format filled with arguments. -/
def print (format : Text) (arguments : List Text) : Printed :=
  passes format (arguments.length + 1) arguments

end Format

/-- What `echo` writes: its arguments with a space between any two, and the escapes in them
replaced. -/
def echoed (arguments : List Text) : Text :=
  let (newline, words) := match arguments with
    | ['-', 'n'] :: rest => (false, rest)
    | words => (true, words)
  let (text, stopped) := unescape (List.intercalate [' '] words)
  if stopped || !newline then text else text ++ ['\n']

end Runbook.Shell
