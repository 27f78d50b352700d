import Mathlib.Data.List.DropRight
import Runbook.Proofs.Duration.Written
import Runbook.Proofs.Text.Numeral

/-!
# How durations are described

`Duration.describe` writes digits, a point and the name of a unit, and none of these is blank
(`Duration.isBlank_of_mem_describe`). So a description is one word, and a line that it stands in is
one line (`Duration.newline_notMem_describe`).

It is also exact. The unit says how many places the fraction has at most, and the zeros that are
left out at its end are as many as are missing, so no two durations have the same description
(`Duration.describe_injective`).
-/

namespace Runbook.Duration

section
variable {digits n : Nat} {unit : Text} {c : Char}

/-- The places of a fraction are digits, and so are the zeros before them. -/
theorem isDigit_of_mem_padded (h : c ∈ Text.padded digits n) : c.isDigit = true := by
  rcases List.mem_append.mp h with hzero | hdigit
  · rw [(List.mem_replicate.mp hzero).2]
    decide
  · exact Text.isDigit_of_mem_ofNat hdigit

/-- A fraction has a point and digits. -/
theorem mem_fraction (h : c ∈ fraction digits n) : c = '.' ∨ c.isDigit = true := by
  rw [fraction] at h
  split at h
  · cases h
  · rcases List.mem_cons.mp h with rfl | hplace
    · exact .inl rfl
    · have hkept := List.mem_reverse.mp hplace
      have hpadded := List.mem_reverse.mp ((List.dropWhile_sublist _).mem hkept)
      exact .inr (isDigit_of_mem_padded hpadded)

/-- A number of a unit is written without blanks if the unit is. -/
theorem isBlank_of_mem_inUnit (hunit : unit.any Text.isBlank = false)
    (h : c ∈ inUnit digits n unit) : Text.isBlank c = false := by
  rcases List.mem_append.mp h with hnumber | hname
  · rcases List.mem_append.mp hnumber with hwhole | hfraction
    · exact isBlank_of_isDigit (Text.isDigit_of_mem_ofNat hwhole)
    · rcases mem_fraction hfraction with rfl | hdigit
      · decide
      · exact isBlank_of_isDigit hdigit
  · exact Bool.eq_false_iff.mpr (List.any_eq_false.mp hunit c hname)

end

/-- A duration is described without blanks. -/
theorem isBlank_of_mem_describe {d : Duration} {c : Char} (h : c ∈ d.describe) :
    Text.isBlank c = false := by
  unfold describe at h
  dsimp only at h
  split_ifs at h
  all_goals exact isBlank_of_mem_inUnit (by decide +kernel) h

/-- There is no line feed in the description of a duration. -/
theorem newline_notMem_describe (d : Duration) : '\n' ∉ d.describe :=
  fun h => absurd (isBlank_of_mem_describe h) (by decide)

/-! ## Fractions -/

section
variable {digits n n' : Nat}

/-- Of the places of a fraction, the zeros at the end are left out. -/
theorem exists_padded (digits n : Nat) : ∃ zeros,
    Text.padded digits n =
      (Text.padded digits n).rdropWhile (· == '0') ++ List.replicate zeros '0' := by
  let places := Text.padded digits n
  let zeros := places.rtakeWhile (· == '0')
  have hzeros : zeros = List.replicate zeros.length '0' := List.eq_replicate_of_mem fun c hc =>
    eq_of_beq (List.mem_rtakeWhile_imp (p := (· == '0')) hc)
  refine ⟨zeros.length, ?_⟩
  calc places
    _ = places.rdropWhile (· == '0') ++ zeros := List.rdropWhile_append_rtakeWhile.symm
    _ = _ := congrArg _ hzeros

/-- The places of a fraction without the zeros at their end tell the fraction. -/
theorem padded_inj (hpos : 0 < digits) (hn : n < Nat.pow 10 digits) (hn' : n' < Nat.pow 10 digits)
    (h : (Text.padded digits n).rdropWhile (· == '0') =
      (Text.padded digits n').rdropWhile (· == '0')) : n = n' := by
  obtain ⟨zeros, hzeros⟩ := exists_padded digits n
  obtain ⟨zeros', hzeros'⟩ := exists_padded digits n'
  have hlength := congrArg List.length hzeros
  have hlength' := congrArg List.length hzeros'
  rw [List.length_append, List.length_replicate, Text.length_padded hpos hn, h] at hlength
  rw [List.length_append, List.length_replicate, Text.length_padded hpos hn'] at hlength'
  have hsame : zeros = zeros' := by omega
  have hpadded : Text.padded digits n = Text.padded digits n' := by
    rw [hzeros, hzeros', h, hsame]
  rw [← Text.numeralValue_padded digits n, hpadded, Text.numeralValue_padded]

/-- Different fractions of so many places are written differently. -/
theorem fraction_inj (hn : n < Nat.pow 10 digits) (hn' : n' < Nat.pow 10 digits)
    (h : fraction digits n = fraction digits n') : n = n' := by
  by_cases hpos : digits = 0
  · subst hpos
    rw [Nat.lt_one_iff.mp hn, Nat.lt_one_iff.mp hn']
  · unfold fraction at h
    split_ifs at h with hzero hzero'
    · rw [hzero, hzero']
    · exact padded_inj (Nat.pos_of_ne_zero hpos) hn hn' (List.cons.inj h).2

/-- A fraction does not start with a digit. -/
theorem not_isDigit_of_head?_fraction {c : Char} (h : c ∈ (fraction digits n).head?) :
    c.isDigit = false := by
  unfold fraction at h
  split at h
  · cases h
  · obtain rfl : '.' = c := Option.some.inj h
    rfl

end

/-! ## Numbers of a unit -/

/-- A digit or a point. -/
def isPlace (c : Char) : Bool := c.isDigit || c == '.'

/-- The scales that a duration is described in: how many places a unit has, and its name. -/
def scales : List (Nat × Text) := [(9, "s"), (6, "ms"), (3, "µs"), (0, "ns")]

/-- A duration is described in one of the four scales. -/
theorem exists_scale (d : Duration) :
    ∃ scale ∈ scales, d.describe = inUnit scale.1 d.nanoseconds scale.2 := by
  unfold describe
  dsimp only
  split_ifs
  · exact ⟨(9, "s"), by simp [scales], rfl⟩
  · exact ⟨(6, "ms"), by simp [scales], rfl⟩
  · exact ⟨(3, "µs"), by simp [scales], rfl⟩
  · exact ⟨(0, "ns"), by simp [scales], rfl⟩

/-- Different scales have different names. -/
theorem scales_inj : ∀ scale ∈ scales, ∀ scale' ∈ scales, scale.2 = scale'.2 → scale = scale' := by
  decide +kernel

/-- The name of a scale does not start with a digit or a point. -/
theorem not_isPlace_of_scale : ∀ scale ∈ scales, ∀ c ∈ scale.2.head?, isPlace c = false := by
  have hnames : ∀ scale ∈ scales, scale.2.head?.map isPlace = some false := by decide +kernel
  intro scale hscale c hc
  have hname := hnames scale hscale
  rw [Option.mem_def.mp hc] at hname
  exact Option.some.inj hname

/-- The number of a unit is all digits and points. -/
theorem isPlace_of_mem_number {digits n : Nat} {c : Char}
    (h : c ∈ Text.ofNat (n / Nat.pow 10 digits) ++ fraction digits (n % Nat.pow 10 digits)) :
    isPlace c = true := by
  rw [isPlace, Bool.or_eq_true]
  rcases List.mem_append.mp h with hwhole | hfraction
  · exact .inl (Text.isDigit_of_mem_ofNat hwhole)
  · exact (mem_fraction hfraction).symm.imp_right beq_of_eq

/-- Different numbers of the same unit are written differently. -/
theorem number_inj {digits n n' : Nat}
    (h : Text.ofNat (n / Nat.pow 10 digits) ++ fraction digits (n % Nat.pow 10 digits) =
      Text.ofNat (n' / Nat.pow 10 digits) ++ fraction digits (n' % Nat.pow 10 digits)) :
    n = n' := by
  have hpos : 0 < Nat.pow 10 digits := Nat.pow_pos (by decide)
  obtain ⟨hwhole, hfraction⟩ := Text.append_inj_of_span
    (fun c hc => Text.isDigit_of_mem_ofNat hc) (fun c hc => not_isDigit_of_head?_fraction hc)
    (fun c hc => Text.isDigit_of_mem_ofNat hc) (fun c hc => not_isDigit_of_head?_fraction hc) h
  have hquotient := Text.ofNat_injective hwhole
  have hremainder : n % Nat.pow 10 digits = n' % Nat.pow 10 digits :=
    fraction_inj (Nat.mod_lt n hpos) (Nat.mod_lt n' hpos) hfraction
  rw [← Nat.div_add_mod n (Nat.pow 10 digits), hquotient, hremainder, Nat.div_add_mod]

/-- Different durations are described differently. -/
theorem describe_injective : Function.Injective describe := by
  intro d d' h
  obtain ⟨scale, hscale, hd⟩ := exists_scale d
  obtain ⟨scale', hscale', hd'⟩ := exists_scale d'
  rw [hd, hd'] at h
  obtain ⟨hnumber, hname⟩ := Text.append_inj_of_span
    (fun c hc => isPlace_of_mem_number hc) (not_isPlace_of_scale scale hscale)
    (fun c hc => isPlace_of_mem_number hc) (not_isPlace_of_scale scale' hscale') h
  obtain rfl := scales_inj scale hscale scale' hscale' hname
  exact congrArg Duration.mk (number_inj hnumber)

end Runbook.Duration
