import Mathlib.Tactic.IntervalCases
import Runbook.Text.Utf8

/-!
# Reading what was written

`Utf8.decode?_utf8`: the bytes of a text are read back as this text. A first byte says how many
bytes follow and between which bounds the next of them lies (`Utf8.Lead`). After four of the first
bytes the bounds are narrower than usual, so that no character has two spellings and no surrogate
has one; the bytes that a character is written as lie within them (`Utf8.next_utf8EncodeChar`).

Bytes that are not those of a text can be read as well, with losses. No line feed comes about in
that way (`Utf8.newline_notMem_decodeLossy`).
-/

namespace Runbook.Utf8

/-! ## Bytes -/

/-- A byte within the bounds adds six bits, and leaves the usual bounds to those after it. -/
theorem follow_cons {n k bits : Nat} {low high : UInt8} (hlow : low.toNat ≤ k % 64 + 128)
    (hhigh : k % 64 + 128 ≤ high.toNat) (rest : List UInt8) :
    follow (n + 1) low high bits (UInt8.ofNat (k % 64 + 128) :: rest) =
      follow n 0x80 0xBF (bits * 64 + k % 64) rest := by
  have hbyte : (UInt8.ofNat (k % 64 + 128)).toNat = k % 64 + 128 :=
    UInt8.toNat_ofNat_of_lt' (show k % 64 + 128 < 256 by omega)
  have hbounds : low ≤ UInt8.ofNat (k % 64 + 128) ∧ UInt8.ofNat (k % 64 + 128) ≤ high := by
    rw [UInt8.le_iff_toNat_le, UInt8.le_iff_toNat_le, hbyte]
    exact ⟨hlow, hhigh⟩
  rw [follow, if_pos hbounds, hbyte, Nat.add_sub_cancel]

/-- Within the usual bounds are all bytes that carry six bits. -/
theorem follow_cons_usual (n k bits : Nat) (rest : List UInt8) :
    follow (n + 1) 0x80 0xBF bits (UInt8.ofNat (k % 64 + 128) :: rest) =
      follow n 0x80 0xBF (bits * 64 + k % 64) rest :=
  follow_cons (Nat.le_add_left 128 _)
    (Nat.add_le_add_right (Nat.le_of_lt_succ (Nat.mod_lt k (by decide))) 128) rest

/-- The first of two bytes. -/
theorem Lead.ofByte?_two {h : Nat} (hlow : 2 ≤ h) (hhigh : h < 32) :
    ofByte? (UInt8.ofNat (h + 192)) = some ⟨1, 0x80, 0xBF, h⟩ := by
  interval_cases h <;> rfl

/-- The first of three bytes. -/
theorem Lead.ofByte?_three {h : Nat} (hhigh : h < 16) :
    ofByte? (UInt8.ofNat (h + 224)) =
      some ⟨2, if h = 0 then 0xA0 else 0x80, if h = 13 then 0x9F else 0xBF, h⟩ := by
  interval_cases h <;> rfl

/-- The first of four bytes. -/
theorem Lead.ofByte?_four {h : Nat} (hhigh : h < 5) :
    ofByte? (UInt8.ofNat (h + 240)) =
      some ⟨3, if h = 0 then 0x90 else 0x80, if h = 4 then 0x8F else 0xBF, h⟩ := by
  interval_cases h <;> rfl

/-! ## Characters -/

/-- A character of ASCII is its only byte. -/
theorem next_of_lt {k : Nat} (h : k < 128) (rest : List UInt8) :
    next (UInt8.ofNat k) rest = (some (Char.ofNat k), rest) := by
  have hbyte : (UInt8.ofNat k).toNat = k :=
    UInt8.toNat_ofNat_of_lt' (Nat.lt_trans h (by decide))
  have hlt : UInt8.ofNat k < 0x80 := by
    rw [UInt8.lt_iff_toNat_lt, hbyte]
    exact h
  rw [next, if_pos hlt, hbyte]

/-- A character beyond ASCII is read from its first byte and those that follow it. -/
theorem next_of_lead {k n head value : Nat} {low high : UInt8} {more rest : List UInt8}
    (hlow : 128 ≤ k) (hhigh : k < 256)
    (hlead : Lead.ofByte? (UInt8.ofNat k) = some ⟨n, low, high, head⟩)
    (hfollow : follow n low high head more = (some value, rest)) :
    next (UInt8.ofNat k) more = (some (Char.ofNat value), rest) := by
  have hbyte : ¬ UInt8.ofNat k < 0x80 := by
    rw [UInt8.lt_iff_toNat_lt, UInt8.toNat_ofNat_of_lt' hhigh]
    exact Nat.not_lt.mpr hlow
  simp only [next, if_neg hbyte, hlead, hfollow, Option.map_some]

/-- The bytes of a character are read as this character, whatever comes after them. -/
theorem next_utf8EncodeChar (c : Char) (rest : List UInt8) :
    ∃ b more, String.utf8EncodeChar c = b :: more ∧ next b (more ++ rest) = (some c, rest) := by
  have hvalid : c.val.toNat < 0xD800 ∨ 0xDFFF < c.val.toNat ∧ c.val.toNat < 0x110000 := c.valid
  have hc : Char.ofNat c.val.toNat = c := Char.ofNat_toNat c
  rw [String.utf8EncodeChar]
  generalize c.val.toNat = v at hvalid hc
  subst hc
  split_ifs with hone htwo hthree
  · exact ⟨_, [], rfl, next_of_lt (Nat.lt_succ_of_le hone) rest⟩
  · refine ⟨_, [_], rfl, next_of_lead (by omega) (by omega) (Lead.ofByte?_two ?_ ?_) ?_⟩
    · omega
    · omega
    · rw [List.singleton_append, follow_cons_usual, follow]
      congr 2
      omega
  · -- Below 0x800 it would be one of two bytes, and from 0xD800 to 0xDFFF it would be a surrogate:
    -- that keeps the second byte within the narrower bounds.
    refine ⟨_, [_, _], rfl, next_of_lead (by omega) (by omega) (Lead.ofByte?_three ?_) ?_⟩
    · omega
    · rw [List.cons_append, List.singleton_append, follow_cons, follow_cons_usual, follow]
      · congr 2
        omega
      · split_ifs <;> simp only [UInt8.reduceToNat] <;> omega
      · split_ifs <;> simp only [UInt8.reduceToNat] <;> omega
  · -- The same for 0x10000 and 0x110000.
    refine ⟨_, [_, _, _], rfl, next_of_lead (by omega) (by omega) (Lead.ofByte?_four ?_) ?_⟩
    · omega
    · rw [List.cons_append, List.cons_append, List.singleton_append, follow_cons,
        follow_cons_usual, follow_cons_usual, follow]
      · congr 2
        omega
      · split_ifs <;> simp only [UInt8.reduceToNat] <;> omega
      · split_ifs <;> simp only [UInt8.reduceToNat] <;> omega

/-! ## Texts -/

/-- The pieces of the bytes of a text are its characters. -/
theorem piecesFrom_utf8 (t : Text) (done : List (Option Char)) :
    piecesFrom done (Text.utf8 t) = done.reverse ++ t.map some := by
  induction t generalizing done with
  | nil =>
    rw [Text.utf8, List.flatMap_nil, piecesFrom]
    simp
  | cons c t ih =>
    obtain ⟨b, more, hbytes, hnext⟩ := next_utf8EncodeChar c (Text.utf8 t)
    have hcons : Text.utf8 (c :: t) = b :: (more ++ Text.utf8 t) := by
      rw [Text.utf8, List.flatMap_cons, hbytes]
      rfl
    rw [hcons, piecesFrom, hnext, ih]
    simp

/-- The bytes of a text are read back as this text. -/
theorem decode?_utf8 (t : Text) : decode? (Text.utf8 t) = some t := by
  have hpieces : pieces (Text.utf8 t) = t.map some := piecesFrom_utf8 t []
  simp [decode?, hpieces, List.filterMap_map]

/-- The bytes of a text are read back as this text, though anything could be read from them. -/
theorem decodeLossy_utf8 (t : Text) : decodeLossy (Text.utf8 t) = t := by
  have hpieces : pieces (Text.utf8 t) = t.map some := piecesFrom_utf8 t []
  simp [decodeLossy, hpieces]

/-! ## Line feeds -/

/-- The bits that have been read stay in what is read. -/
theorem le_of_follow {n bits value : Nat} {low high : UInt8} {rest left : List UInt8}
    (h : follow n low high bits rest = (some value, left)) : bits ≤ value := by
  fun_induction follow n low high bits rest with
  | case1 => cases h; exact Nat.le_refl _
  | case2 | case4 => cases h
  | case3 n low high bits b rest hb ih => have := ih h; omega

/-- The least numbers that first bytes lead to are beyond the line feed: each carries bits of its
own, or does not let the next byte be small. -/
theorem Lead.le_of_ofByte? {b : UInt8} {lead : Lead} (h : ofByte? b = some lead) :
    ∃ more, lead.following = more + 1 ∧ 16 ≤ lead.bits * 64 + (lead.low.toNat - 128) := by
  unfold ofByte? at h
  split_ifs at h <;> cases h <;> simp [UInt8.le_iff_toNat_le] at * <;> omega

/-- A character of several bytes is beyond the line feed. -/
theorem le_of_follow_lead {b : UInt8} {lead : Lead} {rest left : List UInt8} {value : Nat}
    (hlead : Lead.ofByte? b = some lead)
    (h : follow lead.following lead.low lead.high lead.bits rest = (some value, left)) :
    16 ≤ value := by
  obtain ⟨more, hmore, hleast⟩ := Lead.le_of_ofByte? hlead
  rw [hmore] at h
  cases rest with
  | nil => cases h
  | cons second rest =>
    rw [follow] at h
    split at h
    · next hsecond =>
      have hlow := UInt8.le_iff_toNat_le.mp hsecond.1
      have hread := le_of_follow h
      omega
    · cases h

/-- A line feed is read from its own byte only. -/
theorem eq_of_next {b : UInt8} {rest : List UInt8} (h : (next b rest).1 = some '\n') : b = 10 := by
  have hnumber : ∀ {value : Nat}, Char.ofNat value = '\n' → value = 10 := by
    intro value hvalue
    by_cases hvalid : value.isValidChar
    · rw [Char.ofNat, dif_pos hvalid] at hvalue
      exact congrArg Char.toNat hvalue
    · rw [Char.ofNat, dif_neg hvalid] at hvalue
      cases hvalue
  unfold next at h
  split at h
  · exact UInt8.toNat_inj.mp (hnumber (Option.some.inj h))
  · split at h
    · cases h
    · next lead hlead =>
      obtain ⟨value, hvalue, hchar⟩ := Option.map_eq_some_iff.mp h
      have := le_of_follow_lead hlead (Prod.ext hvalue rfl)
      have := hnumber hchar
      omega

/-- What a reading leaves of bytes is the end of them. -/
theorem follow_suffix (n : Nat) (low high : UInt8) (bits : Nat) (rest : List UInt8) :
    (follow n low high bits rest).2 <:+ rest := by
  fun_induction follow n low high bits rest with
  | case1 | case2 | case4 => exact List.suffix_rfl
  | case3 n low high bits b rest hb ih => exact ih.trans (List.suffix_cons b rest)

theorem next_suffix (b : UInt8) (rest : List UInt8) : (next b rest).2 <:+ rest := by
  unfold next
  split
  · exact List.suffix_rfl
  · split
    · exact List.suffix_rfl
    · exact follow_suffix ..

/-- A line feed among the pieces comes from a line feed among the bytes. -/
theorem mem_of_newline_mem_piecesFrom {bytes : List UInt8} {done : List (Option Char)}
    (h : some '\n' ∈ piecesFrom done bytes) : some '\n' ∈ done ∨ 10 ∈ bytes := by
  fun_induction piecesFrom done bytes with
  | case1 done => exact .inl (List.mem_reverse.mp h)
  | case2 done b rest ih =>
    rcases ih h with hdone | hrest
    · rcases List.mem_cons.mp hdone with hfirst | hdone
      · exact .inr (List.mem_cons.mpr (.inl (eq_of_next hfirst.symm).symm))
      · exact .inl hdone
    · exact .inr (List.mem_cons_of_mem b ((next_suffix b rest).mem hrest))

/-- Bytes without a line feed are read as a text without one, well-formed or not. -/
theorem newline_notMem_decodeLossy {bytes : List UInt8} (h : 10 ∉ bytes) :
    '\n' ∉ decodeLossy bytes := by
  intro hmem
  obtain ⟨piece, hpiece, hchar⟩ := List.mem_map.mp hmem
  cases piece with
  | none => exact absurd hchar (by decide)
  | some c =>
    obtain rfl : c = '\n' := hchar
    exact (mem_of_newline_mem_piecesFrom hpiece).elim List.not_mem_nil h

end Runbook.Utf8
