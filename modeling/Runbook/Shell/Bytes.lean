import Runbook.Text.Utf8

/-!
# Bytes in the shell

What passes through the shell is bytes, whatever they mean. They are kept as text all the same: in a
text of the shell each character stands for the byte of its number, so none is above 255.
`rawText` and `readText` lead from other texts to those of the shell and back.
-/

namespace Runbook.Shell

/-- The character that stands for a byte. -/
def rawChar (b : UInt8) : Char := Char.ofNat b.toNat

/-- The byte that a character stands for. -/
def charByte (c : Char) : UInt8 := UInt8.ofNat c.toNat

/-- The bytes of a text, as a list. -/
def byteList (text : Text) : List UInt8 := text.map charByte

/-- The bytes of a text. -/
def toBytes (text : Text) : ByteArray := ⟨(byteList text).toArray⟩

/-- The text that stands for a list of bytes. -/
def ofByteList (bytes : List UInt8) : Text := bytes.map rawChar

/-- The text that stands for bytes. -/
def ofBytes (bytes : ByteArray) : Text := ofByteList bytes.toList

/-- The text of the shell that stands for the bytes of a text. -/
def rawText (text : Text) : Text := ofByteList (Text.utf8 text)

/-- What a text of the shell says, with the replacement character for what is not well-formed. -/
def readText (text : Text) : Text := Utf8.decodeLossy (byteList text)

/-- The content that comes of writing bytes at a position of another one. -/
def overwritten (content : ByteArray) (offset : Nat) (bytes : ByteArray) : ByteArray :=
  let before :=
    if offset ≤ content.size then content.extract 0 offset
    else content ++ ⟨Array.replicate (offset - content.size) 0⟩
  before ++ bytes ++ content.extract (offset + bytes.size) content.size

/-- Whether a character is space between words. -/
def isWhite (c : Char) : Bool := c == ' ' || ('\t' ≤ c && c ≤ '\r')

/-- A text without the spaces at its start. -/
def trimStart (text : Text) : Text := text.dropWhile isWhite

/-- A text without the spaces at either end. -/
def trim (text : Text) : Text := ((trimStart text).reverse.dropWhile isWhite).reverse

end Runbook.Shell
