import Runbook.Text.Numeral
import Runbook.Toml.Scalar

/-!
# Quotations in a document

Strings stand between double quotes, where a backslash begins an escape, or between single quotes,
where every character stands for itself. With three quotes on either side a string may go over
several lines: a line end just after the opening is dropped, a backslash at a line end joins the
lines up to the next visible character, and one or two quotes may stand just before the closing.

The readers of this module start after the opening quotes and give the string and what follows its
closing quotes.
-/

namespace Runbook.Toml

/-- Whether `c` may stand as itself in a comment or in a string. -/
def isPlainChar (c : Char) : Bool := c == '\t' || (' ' ≤ c && c ≠ '\x7f')

/-- The character that a letter after a backslash stands for. -/
def escapeOf? (c : Char) : Option Char :=
  if c = 'b' then some '\x08'
  else if c = 't' then some '\t'
  else if c = 'n' then some '\n'
  else if c = 'f' then some '\x0c'
  else if c = 'r' then some '\r'
  else if c = 'e' then some '\x1b'
  else if c = '"' then some '"'
  else if c = '\\' then some '\\'
  else none

/-- The character whose code point has the given digits in base sixteen. -/
def codePoint? (digits : Text) : Option Char :=
  let n := Text.numeralValueIn 16 digits
  if digits.all isHexDigit && n.isValidChar then some (Char.ofNat n) else none

/-- Puts a character, if there is one, in front of a string that was read. -/
def withChar (c : Option Char) (read : Option (Text × Text)) : Option (Text × Text) :=
  match c, read with
  | some c, some (text, rest) => some (c :: text, rest)
  | _, _ => none

/-- Reads a string up to a double quote. -/
def basicString : Text → Option (Text × Text)
  | [] => none
  | '"' :: rest => some ([], rest)
  | '\\' :: 'x' :: a :: b :: rest => withChar (codePoint? [a, b]) (basicString rest)
  | '\\' :: 'u' :: a :: b :: c :: d :: rest =>
    withChar (codePoint? [a, b, c, d]) (basicString rest)
  | '\\' :: 'U' :: a :: b :: c :: d :: e :: f :: g :: h :: rest =>
    withChar (codePoint? [a, b, c, d, e, f, g, h]) (basicString rest)
  | '\\' :: c :: rest => withChar (escapeOf? c) (basicString rest)
  | c :: rest => withChar (if isPlainChar c then some c else none) (basicString rest)

/-- Reads a string up to a single quote. -/
def literalString : Text → Option (Text × Text)
  | [] => none
  | '\'' :: rest => some ([], rest)
  | c :: rest => withChar (if isPlainChar c then some c else none) (literalString rest)

/-- Whether nothing but spaces and tabs stands before the next line end. -/
def endsLine (text : Text) : Bool :=
  match text.dropWhile fun c => c == ' ' || c == '\t' with
  | '\n' :: _ | '\r' :: '\n' :: _ => true
  | _ => false

/-- Reads a string up to three double quotes. While `joining`, spaces and line ends are passed over
up to the next visible character. -/
def multilineBasic : Bool → Text → Option (Text × Text)
  | _, [] => none
  | true, ' ' :: rest => multilineBasic true rest
  | true, '\t' :: rest => multilineBasic true rest
  | true, '\n' :: rest => multilineBasic true rest
  | true, '\r' :: '\n' :: rest => multilineBasic true rest
  | _, '"' :: '"' :: '"' :: '"' :: '"' :: rest => some (['"', '"'], rest)
  | _, '"' :: '"' :: '"' :: '"' :: rest => some (['"'], rest)
  | _, '"' :: '"' :: '"' :: rest => some ([], rest)
  | _, '\\' :: 'x' :: a :: b :: rest => withChar (codePoint? [a, b]) (multilineBasic false rest)
  | _, '\\' :: 'u' :: a :: b :: c :: d :: rest =>
    withChar (codePoint? [a, b, c, d]) (multilineBasic false rest)
  | _, '\\' :: 'U' :: a :: b :: c :: d :: e :: f :: g :: h :: rest =>
    withChar (codePoint? [a, b, c, d, e, f, g, h]) (multilineBasic false rest)
  | _, '\\' :: c :: rest =>
    if endsLine (c :: rest) then multilineBasic true rest
    else withChar (escapeOf? c) (multilineBasic false rest)
  | _, '\r' :: '\n' :: rest =>
    withChar (some '\r') (withChar (some '\n') (multilineBasic false rest))
  | _, c :: rest =>
    withChar (if c = '\n' || isPlainChar c then some c else none) (multilineBasic false rest)

/-- Reads a string up to three single quotes. -/
def multilineLiteral : Text → Option (Text × Text)
  | [] => none
  | '\'' :: '\'' :: '\'' :: '\'' :: '\'' :: rest => some (['\'', '\''], rest)
  | '\'' :: '\'' :: '\'' :: '\'' :: rest => some (['\''], rest)
  | '\'' :: '\'' :: '\'' :: rest => some ([], rest)
  | '\r' :: '\n' :: rest => withChar (some '\r') (withChar (some '\n') (multilineLiteral rest))
  | c :: rest =>
    withChar (if c = '\n' || isPlainChar c then some c else none) (multilineLiteral rest)

/-- A text without a line end at its very start. -/
def dropLineEnd : Text → Text
  | '\n' :: rest => rest
  | '\r' :: '\n' :: rest => rest
  | text => text

end Runbook.Toml
