import Runbook.Text.Basic

/-!
# UTF-8

`Text.utf8` writes a text as bytes. Reading goes one character at a time: `Utf8.next` takes from a
non-empty list of bytes either one character or one longest start of a character that cannot be
completed, and says what is left. `Utf8.decode?` refuses any such broken start, while
`Utf8.decodeLossy` puts the replacement character in its place.
-/

namespace Runbook

namespace Text

/-- The UTF-8 bytes of a text. -/
def utf8 (t : Text) : List UInt8 := t.flatMap String.utf8EncodeChar

end Text

namespace Utf8

/-- What the first byte of a character of several bytes promises: how many bytes follow, the bounds
of the next one, and the bits that it contributes itself. -/
structure Lead where
  following : Nat
  low : UInt8
  high : UInt8
  bits : Nat

/-- The promise of a first byte, unless no character of several bytes starts with it. -/
def Lead.ofByte? (b : UInt8) : Option Lead :=
  if 0xC2 ≤ b ∧ b ≤ 0xDF then some ⟨1, 0x80, 0xBF, b.toNat - 0xC0⟩
  else if b = 0xE0 then some ⟨2, 0xA0, 0xBF, 0⟩
  else if b = 0xED then some ⟨2, 0x80, 0x9F, 0xD⟩
  else if 0xE1 ≤ b ∧ b ≤ 0xEF then some ⟨2, 0x80, 0xBF, b.toNat - 0xE0⟩
  else if b = 0xF0 then some ⟨3, 0x90, 0xBF, 0⟩
  else if 0xF1 ≤ b ∧ b ≤ 0xF3 then some ⟨3, 0x80, 0xBF, b.toNat - 0xF0⟩
  else if b = 0xF4 then some ⟨3, 0x80, 0x8F, 4⟩
  else none

/-- Reads the bytes that are still to follow, the next of them between `low` and `high`, onto the
bits read so far. It stops before the first byte that does not fit. -/
def follow : Nat → UInt8 → UInt8 → Nat → List UInt8 → Option Nat × List UInt8
  | 0, _, _, bits, rest => (some bits, rest)
  | _ + 1, _, _, _, [] => (none, [])
  | n + 1, low, high, bits, b :: rest =>
    if low ≤ b ∧ b ≤ high then follow n 0x80 0xBF (bits * 64 + (b.toNat - 0x80)) rest
    else (none, b :: rest)

theorem follow_length_le (n : Nat) (low high : UInt8) (bits : Nat) (rest : List UInt8) :
    (follow n low high bits rest).2.length ≤ rest.length := by
  fun_induction follow n low high bits rest <;> grind

/-- One character, or nothing for one broken start of a character, read from the byte `b` and the
bytes after it, with what is left of them. -/
def next (b : UInt8) (rest : List UInt8) : Option Char × List UInt8 :=
  if b < 0x80 then (some (Char.ofNat b.toNat), rest)
  else match Lead.ofByte? b with
    | none => (none, rest)
    | some lead =>
      let read := follow lead.following lead.low lead.high lead.bits rest
      (read.1.map Char.ofNat, read.2)

theorem next_length_le (b : UInt8) (rest : List UInt8) :
    (next b rest).2.length ≤ rest.length := by
  unfold next
  split
  · simp
  · split
    · simp
    · exact follow_length_le ..

/-- The pieces of a byte string, after those in `done`, which is held last piece first. -/
def piecesFrom (done : List (Option Char)) : List UInt8 → List (Option Char)
  | [] => done.reverse
  | b :: rest => piecesFrom ((next b rest).1 :: done) (next b rest).2
termination_by bytes => bytes.length
decreasing_by
  exact Nat.lt_succ_of_le (next_length_le b rest)

/-- The pieces of a byte string: characters, and nothing for each longest broken start of one. -/
def pieces (bytes : List UInt8) : List (Option Char) := piecesFrom [] bytes

/-- The text that `bytes` encode, with the replacement character for each broken start. Reference:
`String::from_utf8_lossy`. -/
def decodeLossy (bytes : List UInt8) : Text := (pieces bytes).map (·.getD '\uFFFD')

/-- The text that `bytes` encode, if they are well-formed throughout. Reference:
`String::from_utf8`. -/
def decode? (bytes : List UInt8) : Option Text :=
  let read := pieces bytes
  if read.all Option.isSome then some (read.filterMap id) else none

end Utf8

end Runbook
