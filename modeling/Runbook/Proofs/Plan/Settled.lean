import Runbook.Proofs.Plan.Occurrence
import Runbook.Proofs.Plan.Resolve

/-!
# Lines that are settled

A line may have placeholders in it also after it has been expanded: the directory may hold one, or
make one up with the characters around it. An ordinary directory does neither
(`Placeholder.Ordinary`). A placeholder that has any character of the directory has a brace there or
all of the directory between its own braces, so that the directory would have a brace or be part of
the word between them (`Placeholder.Ordinary.not_infix_insert`).

`Placeholder.expand_settled` says of a line with an ordinary directory in it that nothing is left to
expand, and so of all commands of a plan.
-/

namespace Runbook.Placeholder

/-- The word between the braces of the placeholder. -/
def word : Text := "output_dir"

/-- The directory has no brace in it and is no part of the word, as the empty directory is. -/
structure Ordinary (dir : Text) : Prop where
  opening : '\x7b' ∉ dir
  closing : '\x7d' ∉ dir
  word : ¬ dir <:+: word

/-! ## Parts of the placeholder -/

/-- The placeholder is the word in braces. -/
theorem mark_eq : mark = '\x7b' :: (word ++ ['\x7d']) := by decide

section
variable {start middle rest : Text}

/-- What the placeholder starts with has the opening brace. -/
theorem opening_mem (h : mark = start ++ rest) (hne : start ≠ []) : '\x7b' ∈ start := by
  obtain ⟨c, start, rfl⟩ := List.exists_cons_of_ne_nil hne
  obtain ⟨rfl, -⟩ : '\x7b' = c ∧ _ := List.cons.inj (mark_eq.symm.trans h)
  exact List.mem_cons_self

/-- What the placeholder ends in has the closing brace. -/
theorem closing_mem (h : mark = start ++ rest) (hne : rest ≠ []) : '\x7d' ∈ rest := by
  have hlast : mark.getLast? = some '\x7d' := by decide
  rw [h, List.getLast?_append_of_ne_nil _ hne] at hlast
  exact List.mem_of_getLast? hlast

/-- What is inside of the placeholder is part of the word. -/
theorem infix_word (h : mark = start ++ (middle ++ rest)) (hstart : start ≠ [])
    (hrest : rest ≠ []) : middle <:+: word := by
  obtain ⟨c, start, rfl⟩ := List.exists_cons_of_ne_nil hstart
  obtain ⟨rest, d, rfl⟩ := (List.eq_nil_or_concat' rest).resolve_left hrest
  rw [mark_eq, List.cons_append] at h
  obtain ⟨-, hinside⟩ := List.cons.inj h
  rw [← List.append_assoc, ← List.append_assoc] at hinside
  exact ⟨start, rest, (List.append_inj_left' hinside rfl).symm⟩

end

/-! ## Texts with an ordinary directory in them -/

namespace Ordinary

variable {dir s t : Text}

/-- A placeholder that has begun does not go on into an ordinary directory. -/
theorem not_prefix {start rest : Text} (h : Ordinary dir) (hmark : mark = start ++ rest)
    (hstart : start ≠ []) (hrest : rest ≠ []) : ¬ rest <+: dir ++ t := by
  rintro ⟨after, hsplit⟩
  rcases List.append_eq_append_iff.mp hsplit with ⟨gap, hdir, -⟩ | ⟨gap, hgap, -⟩
  · -- It would end in the directory.
    rw [hdir] at h
    exact h.closing (List.mem_append_left gap (closing_mem hmark hrest))
  · rw [hgap] at hmark hrest
    by_cases hnil : gap = []
    · rw [hnil, List.append_nil] at hmark hrest
      exact h.closing (closing_mem hmark hrest)
    · -- It would have the whole directory inside.
      exact h.word (infix_word hmark hstart hnil)

/-- No placeholder starts in an ordinary directory. -/
theorem not_infix_append (h : Ordinary dir) (ht : ¬ mark <:+: t) : ¬ mark <:+: dir ++ t := by
  intro hinfix
  rcases List.infix_append_iff.mp hinfix with hdir | hinfix | ⟨start, rest, hmark, hdir, hrest⟩
  · exact h.opening (hdir.subset (by decide))
  · exact ht hinfix
  · by_cases hstart : start = []
    · rw [hstart, List.nil_append] at hmark
      exact ht (hmark ▸ hrest.isInfix)
    · exact h.opening (hdir.subset (opening_mem hmark hstart))

/-- An ordinary directory between two texts without placeholders does not make one up. -/
theorem not_infix_insert (h : Ordinary dir) (hs : ¬ mark <:+: s) (ht : ¬ mark <:+: t) :
    ¬ mark <:+: s ++ (dir ++ t) := by
  intro hinfix
  rcases List.infix_append_iff.mp hinfix with hinfix | hinfix | ⟨start, rest, hmark, hstart, hrest⟩
  · exact hs hinfix
  · exact h.not_infix_append ht hinfix
  · by_cases hnil : start = []
    · rw [hnil, List.nil_append] at hmark
      exact h.not_infix_append ht (hmark ▸ hrest.isInfix)
    · by_cases hnil' : rest = []
      · rw [hnil', List.append_nil] at hmark
        exact hs (hmark ▸ hstart.isInfix)
      · exact h.not_prefix hmark hnil hnil' hrest

/-- An ordinary directory between several texts without placeholders does not make one up. -/
theorem not_infix_intercalate (h : Ordinary dir) {pieces : List Text}
    (hpieces : ∀ piece ∈ pieces, ¬ mark <:+: piece) : ¬ mark <:+: List.intercalate dir pieces := by
  induction pieces with
  | nil =>
    rw [List.intercalate_nil]
    decide
  | cons piece more ih =>
    obtain ⟨hpiece, hmore⟩ := List.forall_mem_cons.mp hpieces
    cases more with
    | nil => rwa [List.intercalate_singleton]
    | cons next more =>
      rw [List.intercalate_cons_cons, List.append_assoc]
      exact h.not_infix_insert hpiece (ih hmore)

/-- A line with an ordinary directory in it has no placeholder left. -/
theorem unmarked {path : Pathname} {line expanded : Text} (h : Ordinary path.display)
    (hexpanded : expand line (some path) = .ok expanded) : ¬ mark <:+: expanded := by
  rw [expand_some] at hexpanded
  cases hexpanded
  exact h.not_infix_intercalate (pieces_split line).unmarked

end Ordinary

end Runbook.Placeholder

namespace Runbook

/-- Each command of a plan is some line with the directory of the plan in it. -/
theorem Plan.Resolved.exists_expand {arguments : Arguments} {checked : CheckedConfig} {plan : Plan}
    (h : Resolved arguments checked plan) : ∀ command ∈ plan.commands,
      ∃ line, Placeholder.expand line plan.outputDir = .ok command.line := by
  by_cases hnone : arguments.commands = []
  · refine (forall_mem_iff_of_forall₂ (h.ofEntries hnone) fun entry command hcommand => ?_).mp
      fun _ _ => trivial
    obtain ⟨expanded, hexpanded, rfl⟩ := of_entry hcommand
    exact iff_of_true trivial ⟨entry.1.line, hexpanded⟩
  · refine (forall_mem_iff_of_forall₂ (h.ofArguments hnone) fun line command hcommand => ?_).mp
      fun _ _ => trivial
    obtain ⟨-, expanded, hexpanded, rfl⟩ := of_argument hcommand
    exact iff_of_true trivial ⟨line, hexpanded⟩

namespace Placeholder

/-- An ordinary directory is put into every line, and leaves no placeholder in it: expanding the
line once more, with any directory or none, changes nothing. So the commands of a plan with such a
directory have no placeholders. -/
theorem expand_settled {dir : Pathname} (h : Ordinary dir.display) :
    (∀ line, ∃ expanded, expand line (some dir) = .ok expanded ∧ ¬ mark <:+: expanded ∧
      ∀ other, expand expanded other = .ok expanded) ∧
    ∀ arguments checked plan, Plan.resolve arguments checked = .ok plan →
      plan.outputDir = some dir → ∀ command ∈ plan.commands, ¬ mark <:+: command.line := by
  refine ⟨fun line => ?line, fun arguments checked plan hplan hdir command hcommand => ?plan⟩
  case line =>
    have hexpanded := expand_some line dir
    have hunmarked := h.unmarked hexpanded
    exact ⟨_, hexpanded, hunmarked, expand_of_unmarked hunmarked⟩
  case plan =>
    obtain ⟨line, hexpanded⟩ := (Plan.resolved hplan).exists_expand command hcommand
    rw [hdir] at hexpanded
    exact h.unmarked hexpanded

/-- A line with braces around its placeholder that would make up another one without it, and a plan
with this line. -/
theorem expand_settled_braces :
    let dir : Pathname := .ofText "bench_1"
    let line : Text := "\x7boutput_\x7boutput_dir\x7ddir\x7d".toList
    let expanded : Text := "\x7boutput_bench_1dir\x7d".toList
    let arguments : Arguments :=
      { Arguments.none with commands := [line], outputDir := some dir }
    let plan : Plan := ⟨[⟨expanded, none, none⟩], some dir, false, .default, .auto⟩
    Ordinary dir.display ∧ expand line (some dir) = .ok expanded ∧ ¬ mark <:+: expanded ∧
      expand expanded none = .ok expanded ∧ Plan.resolve arguments .default = .ok plan ∧
      ∀ command ∈ plan.commands, ¬ mark <:+: command.line := by
  intro dir line expanded arguments plan
  have ordinary : Ordinary dir.display :=
    ⟨by decide +kernel, by decide +kernel, by decide +kernel⟩
  have hplan : Plan.resolve arguments .default = .ok plan := by decide +kernel
  have hvalue : expand line (some dir) = .ok expanded := by decide +kernel
  obtain ⟨hlines, hplans⟩ := expand_settled ordinary
  obtain ⟨found, hfound, hunmarked, hagain⟩ := hlines line
  obtain rfl : found = expanded := Except.ok.inj (hfound.symm.trans hvalue)
  exact ⟨ordinary, hvalue, hunmarked, hagain none, hplan, hplans arguments _ plan hplan rfl⟩

/-- With the empty directory in it, a line of two placeholders that overlap is a placeholder. -/
example : expand "\x7boutput_\x7boutput_dir\x7ddir\x7d".toList (some (.ofText [])) = .ok mark := by
  decide +kernel

end Placeholder

end Runbook
