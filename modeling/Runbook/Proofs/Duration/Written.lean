import Runbook.Proofs.Duration
import Runbook.Proofs.Text.Lowercase
import Runbook.Proofs.Text.Trim

/-!
# How durations are written

`Duration.Written` is the notation that durations are read from: digits and the name of a unit, in
any case of its letters, with blanks before, between and after them. Reading accepts nothing else
(`Duration.written_of_parse`), and of what it accepts it takes the number of the digits and the unit
(`Duration.parse_of_written`), so that all there is left to say is what becomes of so many units.
-/

namespace Runbook.Duration

/-- The name of a unit. -/
def TimeUnit.name : TimeUnit → Text
  | .millisecond => "ms"
  | .second => "s"
  | .minute => "m"
  | .hour => "h"

/-- The letters of the names of units, in either case. -/
def unitLetters : List Char := ['h', 'H', 'm', 'M', 's', 'S']

/-- The text is an amount of a unit. -/
inductive Written : Text → Nat → TimeUnit → Prop
  | intro {before digits between name after : Text} {unit : TimeUnit}
    (hbefore : Text.blank before = true) (hne : digits ≠ [])
    (hdigits : ∀ c ∈ digits, c.isDigit = true) (hbetween : Text.blank between = true)
    (hname : name.map Char.toLower = unit.name) (hafter : Text.blank after = true) :
    Written (before ++ (digits ++ (between ++ name)) ++ after) (Text.numeralValue digits) unit

/-! ## Digits, letters and blanks -/

/-- Digits are characters of ASCII. -/
theorem isAscii_of_isDigit {c : Char} (h : c.isDigit = true) : Text.IsAscii c := by
  simp only [Char.isDigit, Bool.and_eq_true, decide_eq_true_eq] at h
  exact Nat.lt_of_le_of_lt h.2 (by decide)

/-- A digit is not blank. -/
theorem isBlank_of_isDigit {c : Char} (h : c.isDigit = true) : Text.isBlank c = false :=
  Text.forall_isAscii (p := fun c => c.isDigit = true → Text.isBlank c = false)
    (by decide +kernel) (isAscii_of_isDigit h) h

/-- The names of units are made of three letters. -/
theorem TimeUnit.mem_name {unit : TimeUnit} : ∀ c ∈ unit.name, c ∈ ['h', 'm', 's'] := by
  cases unit <;> simp [name]

section
variable {name : Text} {unit : TimeUnit}

/-- A unit has its name and no other. -/
theorem TimeUnit.ofName?_eq_some_iff : ofName? name = some unit ↔ name = unit.name := by
  constructor
  · intro h
    unfold ofName? at h
    split_ifs at h with hms hs hm hh
    · cases h
      exact hms
    · cases h
      exact hs
    · cases h
      exact hm
    · cases h
      exact hh
  · rintro rfl
    cases unit <;> rfl

/-- Lower case turns into the name of a unit just what differs from it in the case of letters. -/
theorem TimeUnit.lower_eq_name_iff : Text.lower name = unit.name ↔
    name.map Char.toLower = unit.name := by
  refine Text.lower_eq_iff fun d hd => ?_
  have hletters : ∀ d ∈ ['h', 'm', 's'], Text.IsAscii d ∧ d ≠ 'k' := by simp [Text.IsAscii]
  exact hletters d (TimeUnit.mem_name d hd)

/-- A unit is written with the letters of the names of units. -/
theorem mem_unitLetters (h : name.map Char.toLower = unit.name) {c : Char} (hc : c ∈ name) :
    c ∈ unitLetters := by
  have hmem : c.toLower ∈ unit.name := by
    rw [← h]
    exact List.mem_map_of_mem hc
  have hletter : c.toLower ∈ ['h', 'm', 's'] := TimeUnit.mem_name _ hmem
  have hletters : ∀ d ∈ ['h', 'm', 's'], Text.IsAscii d := by simp [Text.IsAscii]
  have hascii : Text.IsAscii c := Text.isAscii_of_toLower (hletters _ hletter)
  exact Text.forall_isAscii (p := fun c => c.toLower ∈ ['h', 'm', 's'] → c ∈ unitLetters)
    (by decide +kernel) hascii hletter

/-- The letters that a unit is written with are neither blanks nor digits. -/
theorem not_isBlank_of_mem_name (h : name.map Char.toLower = unit.name) {c : Char}
    (hc : c ∈ name) : Text.isBlank c = false ∧ c.isDigit = false := by
  have hletters : unitLetters.any (fun d => Text.isBlank d || d.isDigit) = false := by decide
  simpa using List.any_eq_false.mp hletters c (mem_unitLetters h hc)

/-- A unit is not written with no letters. -/
theorem name_ne_nil (h : name.map Char.toLower = unit.name) : name ≠ [] := by
  rintro rfl
  cases unit <;> cases h

/-- What a unit is written with is not blank at either end. -/
theorem tight_name (h : name.map Char.toLower = unit.name) : Text.Tight name where
  start _ hc := (not_isBlank_of_mem_name h (List.mem_of_mem_head? hc)).1
  finish _ hc := (not_isBlank_of_mem_name h (List.mem_of_mem_getLast? hc)).1

end

/-! ## Reading -/

section
variable {before digits between name after : Text} {unit : TimeUnit}

/-- Trimming leaves the digits and the name, and what is between them. -/
theorem trim_written (hbefore : Text.blank before = true) (hne : digits ≠ [])
    (hdigits : ∀ c ∈ digits, c.isDigit = true) (hname : name.map Char.toLower = unit.name)
    (hafter : Text.blank after = true) :
    Text.trim (before ++ (digits ++ (between ++ name)) ++ after) = digits ++ (between ++ name) := by
  refine Text.trim_of_tight hbefore ⟨fun c hc => ?start, fun c hc => ?finish⟩ hafter
  case start =>
    rw [List.head?_append_of_ne_nil _ hne] at hc
    exact isBlank_of_isDigit (hdigits c (List.mem_of_mem_head? hc))
  case finish =>
    rw [← List.append_assoc, List.getLast?_append_of_ne_nil _ (name_ne_nil hname)] at hc
    exact (tight_name hname).finish c hc

/-- There are no digits after blanks and in the name of a unit. -/
theorem not_isDigit_of_mem (hbetween : Text.blank between = true)
    (hname : name.map Char.toLower = unit.name) :
    ∀ c ∈ between ++ name, c.isDigit = false := by
  refine fun c hc => (List.mem_append.mp hc).elim (fun hc => ?between) fun hc => ?name
  case between =>
    refine Bool.eq_false_iff.mpr fun hdigit => ?_
    have hvisible := isBlank_of_isDigit hdigit
    rw [List.all_eq_true.mp hbetween c hc] at hvisible
    cases hvisible
  case name => exact (not_isBlank_of_mem_name hname hc).2

/-- A name after blanks is that of its unit. -/
theorem ofName?_written (hbetween : Text.blank between = true)
    (hname : name.map Char.toLower = unit.name) :
    TimeUnit.ofName? (Text.lower (Text.trim (between ++ name))) = some unit := by
  have htrim : Text.trim (between ++ name ++ []) = name :=
    Text.trim_of_tight hbetween (tight_name hname) rfl
  rw [List.append_nil] at htrim
  rw [htrim]
  exact TimeUnit.ofName?_eq_some_iff.mpr (TimeUnit.lower_eq_name_iff.mpr hname)

end

section
variable {text : Text} {n : Nat} {unit : TimeUnit}

/-- What is written is taken apart into its digits and its unit. -/
theorem parts_of_written (h : Written text n unit) :
    (Text.trim text).takeWhile Char.isDigit ≠ [] ∧ amount text = n ∧ unit? text = some unit := by
  obtain @⟨before, digits, between, name, after, _, hbefore, hne, hdigits, hbetween, hname, hafter⟩
    := h
  have htrim : Text.trim (before ++ (digits ++ (between ++ name)) ++ after) =
      digits ++ (between ++ name) := trim_written hbefore hne hdigits hname hafter
  have hrest := not_isDigit_of_mem hbetween hname
  obtain ⟨htake, hdrop⟩ := Text.span_append hdigits fun c hc => hrest c (List.mem_of_mem_head? hc)
  rw [amount, unit?, htrim, htake, hdrop]
  exact ⟨hne, rfl, ofName?_written hbetween hname⟩

/-- Digits and a unit are read as so many of the unit, as long as the number fits in a word. -/
theorem parse_of_unit? (hdigits : (Text.trim text).takeWhile Char.isDigit ≠ [])
    (hunit : unit? text = some unit) (hlt : amount text < wordSize) :
    parse text = (unit.times (amount text)).mapError .overflow := by
  have htext : ¬ (Text.trim text).isEmpty = true := fun hempty => by
    rw [List.isEmpty_iff.mp hempty] at hdigits
    exact hdigits rfl
  have hrest : ¬ ((Text.trim text).dropWhile Char.isDigit).isEmpty = true := fun hempty => by
    rw [unit?, List.isEmpty_iff.mp hempty] at hunit
    cases hunit
  have hdigits' : ¬ ((Text.trim text).takeWhile Char.isDigit).isEmpty = true :=
    mt List.isEmpty_iff.mp hdigits
  rw [unit?] at hunit
  rw [amount] at hlt ⊢
  simp only [parse, if_neg htext, if_neg hrest, if_neg hdigits', if_neg (Nat.not_le.mpr hlt), hunit]

/-- The amount of a unit that is written is the one that is read, as long as its number fits in a
word. -/
theorem parse_of_written (h : Written text n unit) (hlt : n < wordSize) :
    parse text = (unit.times n).mapError .overflow := by
  obtain ⟨hdigits, rfl, hunit⟩ := parts_of_written h
  exact parse_of_unit? hdigits hunit hlt

end

/-- What is read, without a reason against it, is an amount of a unit whose number fits in a word.
-/
theorem written_of_parse {text : Text} (h : ∀ reason, parse text ≠ refuse reason) :
    ∃ amount unit, Written text amount unit ∧ amount < wordSize := by
  obtain ⟨before, after, hbefore, hafter, htext⟩ := Text.exists_trim text
  let digits := (Text.trim text).takeWhile Char.isDigit
  let rest := (Text.trim text).dropWhile Char.isDigit
  have hspan : Text.trim text = digits ++ rest := List.takeWhile_append_dropWhile.symm
  obtain ⟨between, gap, hbetween, hgap, hrest⟩ := Text.exists_trim rest
  -- Reading has a reason against all texts but those that get past each of its checks.
  simp only [parse] at h
  split_ifs at h with hempty hnone hdigits hlarge
  · exact absurd rfl (h _)
  · exact absurd rfl (h _)
  · exact absurd rfl (h _)
  · exact absurd rfl (h _)
  · split at h
    · exact absurd rfl (h _)
    · next unit hunit =>
      refine ⟨Text.numeralValue digits, unit, ?_, Nat.lt_of_not_le hlarge⟩
      have hname : (Text.trim rest).map Char.toLower = unit.name :=
        TimeUnit.lower_eq_name_iff.mp (TimeUnit.ofName?_eq_some_iff.mp hunit)
      have hparts : text = before ++ (digits ++ (between ++ Text.trim rest)) ++ (gap ++ after) := by
        conv_lhs => rw [htext, hspan, hrest]
        simp only [List.append_assoc]
      rw [hparts]
      refine .intro hbefore ?_ ?_ hbetween hname ?_
      · exact fun hnil => hdigits (List.isEmpty_iff.mpr hnil)
      · exact fun c hc => List.mem_takeWhile_imp hc
      · rw [Text.blank_append, hgap, hafter, Bool.and_self]

end Runbook.Duration
