import Mathlib.Data.Option.Basic
import Runbook.Plan.Description
import Runbook.Proofs.Duration.Described
import Runbook.Proofs.Pathname
import Runbook.Proofs.Text.LineEnds

/-!
# What a description tells

The description of a plan tells all that it shows (`Plan.describe_eq_iff`), as long as nothing in it
goes over more than one line (`Plan.OneLine`). The text is told apart into its lines first. Some of
the lines may be missing, and what keeps them apart is how each line starts: an optional line has
words at its start that the lines that may come in its place do not start with
(`Plan.optional_inj`), and a label has a number where the other lines of a command have a space
(`Plan.Fresh.not_prefix`). The rest of such a line is free text, which may look like any other line.

Of the output directory the description tells how its name is shown, and that is the name itself
only where it is a text: two directories may be shown alike (`Plan.describe_ambiguous`).
-/

namespace Runbook.Plan

/-- All that a plan shows of commands and of the output directory is on one line each. -/
structure OneLine (plan : Plan) : Prop where
  line : ∀ command ∈ plan.commands, '\n' ∉ command.line
  name : ∀ command ∈ plan.commands, ∀ name ∈ command.name, '\n' ∉ name
  outputDir : ∀ dir ∈ plan.outputDir, 10 ∉ dir.bytes

/-! ## Lines that may be missing -/

/-- A text that is no start of another and does not start with it, does not start with it whatever
follows. -/
theorem not_prefix_append {s t : Text} (h : ¬ s <+: t) (h' : ¬ t <+: s) (rest : Text) :
    ¬ s <+: t ++ rest := fun hprefix =>
  (List.prefix_or_prefix_of_prefix hprefix (List.prefix_append t rest)).elim h h'

/-- A line that may be missing is told by the text at its start, which the lines after it do not
start with. -/
theorem optional_inj {lead : Text} {text text' : Option Text} {rest rest' : List Text}
    (hrest : ∀ line ∈ rest.head?, ¬ lead <+: line) (hrest' : ∀ line ∈ rest'.head?, ¬ lead <+: line)
    (h : (text.map (lead ++ ·)).toList ++ rest = (text'.map (lead ++ ·)).toList ++ rest') :
    text = text' ∧ rest = rest' := by
  cases text with
  | none =>
    cases text' with
    | none => exact ⟨rfl, h⟩
    | some t =>
      obtain rfl : rest = (lead ++ t) :: rest' := h
      exact absurd (List.prefix_append lead t) (hrest _ rfl)
  | some s =>
    cases text' with
    | none =>
      obtain rfl : (lead ++ s) :: rest = rest' := h
      exact absurd (List.prefix_append lead s) (hrest' _ rfl)
    | some t =>
      obtain ⟨hline, hmore⟩ := List.cons.inj h
      rw [List.append_cancel_left hline]
      exact ⟨rfl, hmore⟩

/-- An optional line has no line feed if neither what it starts with nor its text has one. -/
theorem newline_notMem_optional {lead : Text} {text : Option Text} (hlead : '\n' ∉ lead)
    (h : ∀ t ∈ text, '\n' ∉ t) : ∀ line ∈ (text.map (lead ++ ·)).toList, '\n' ∉ line := by
  intro line hline
  obtain ⟨t, ht, rfl⟩ := Option.map_eq_some_iff.mp (Option.mem_toList.mp hline)
  exact List.not_mem_append hlead (h t ht)

/-! ## Parts of a description -/

/-- The line of the output directory. -/
theorem describeOutputDir_eq (dir : Option Pathname) :
    describeOutputDir dir =
      ((dir.map Pathname.display).map ("  output_dir = ".toList ++ ·)).toList := by
  cases dir <;> rfl

/-- The line of a time limit. -/
theorem describeTimeout_eq (limit : Option Duration) :
    describeTimeout limit =
      ((limit.map Duration.describe).map ("      timeout: ".toList ++ ·)).toList := by
  cases limit <;> rfl

/-- The lines of a command: its label, its own line if a name hides that, and its time limit. -/
theorem describeCommand_eq (position : Nat) (command : Command) :
    describeCommand position command =
      ("  ".toList ++ Text.ofNat position ++ ". ".toList ++ command.label) ::
        (((command.name.map fun _ => command.line).map ("      cmd: ".toList ++ ·)).toList ++
          describeTimeout command.timeout) := by
  unfold describeCommand
  cases command.name <;> rfl

/-- The two truth values are described differently. -/
theorem describeBool_injective : Function.Injective describeBool := by
  have hne : describeBool true ≠ describeBool false := by decide +kernel
  intro value value' h
  cases value <;> cases value'
  · rfl
  · exact absurd h.symm hne
  · exact absurd h hne
  · rfl

/-- Different policies are described differently. -/
theorem describePolicy_injective : Function.Injective describePolicy := by
  intro policy policy' h
  unfold describePolicy at h
  simp only [List.append_assoc, List.append_cancel_left_eq] at h
  have hmax : (" lines max, head ".toList).head?.map Char.isDigit = some false := by decide +kernel
  have hcomma : (", tail ".toList).head?.map Char.isDigit = some false := by decide +kernel
  obtain ⟨hmaxLines, hrest⟩ := Text.ofNat_append_inj hmax h
  obtain ⟨hhead, htail⟩ := Text.ofNat_append_inj hcomma hrest
  obtain ⟨maxLines, head, tail⟩ := policy
  obtain ⟨maxLines', head', tail'⟩ := policy'
  rw [Policy.mk.injEq]
  exact ⟨UInt64.toNat_inj.mp hmaxLines, UInt64.toNat_inj.mp hhead,
    UInt64.toNat_inj.mp (Text.ofNat_injective htail)⟩

/-! ## Commands -/

/-- Lines that do not go on with the description of a command: they are none or start with the label
of another. -/
def Fresh (lines : List Text) : Prop :=
  ∀ line ∈ lines.head?, ∃ position rest, line = "  ".toList ++ Text.ofNat position ++ rest

/-- A label is marked by a number, and no other line of a command is. -/
theorem Fresh.not_prefix {lines : List Text} (h : Fresh lines) {lead : Text}
    (hlead : "   ".toList <+: lead) : ∀ line ∈ lines.head?, ¬ lead <+: line := by
  intro line hline hprefix
  obtain ⟨position, rest, rfl⟩ := h line hline
  obtain ⟨c, digits, hdigits⟩ := List.exists_cons_of_ne_nil (Text.ofNat_ne_nil position)
  have hc : c.isDigit = true := Text.isDigit_of_mem_ofNat (hdigits ▸ List.mem_cons_self)
  have hshort : "   ".toList <+: "  ".toList ++ (c :: digits ++ rest) := by
    rw [← List.append_assoc, ← hdigits]
    exact hlead.trans hprefix
  have hspace : [' '] <+: c :: digits ++ rest :=
    (List.prefix_append_right_inj "  ".toList).mp (show "  ".toList ++ [' '] <+: _ from hshort)
  obtain ⟨rfl, -⟩ := List.cons_prefix_cons.mp hspace
  cases hc

/-- The description of commands starts with a label. -/
theorem fresh_describeCommands (position : Nat) (commands : List Command) :
    Fresh (describeCommands position commands) := by
  cases commands with
  | nil => exact fun _ hline => nomatch hline
  | cons command rest =>
    intro line hline
    rw [describeCommands, describeCommand_eq] at hline
    obtain rfl := Option.some.inj hline
    exact ⟨position, ". ".toList ++ command.label, by simp only [List.append_assoc]⟩

/-- What follows the line of a command is its time limit or another command. -/
theorem Fresh.not_prefix_describeTimeout {rest : List Text} (h : Fresh rest)
    (limit : Option Duration) :
    ∀ line ∈ (describeTimeout limit ++ rest).head?, ¬ "      cmd: ".toList <+: line := by
  cases limit with
  | none => exact h.not_prefix (by decide +kernel)
  | some limit =>
    rintro _ ⟨⟩
    exact not_prefix_append (by decide +kernel) (by decide +kernel) _

/-- A command is told by its description. -/
theorem describeCommand_inj {position : Nat} {command command' : Command}
    {rest rest' : List Text} (hrest : Fresh rest) (hrest' : Fresh rest')
    (h : describeCommand position command ++ rest = describeCommand position command' ++ rest') :
    command = command' ∧ rest = rest' := by
  obtain ⟨line, name, limit⟩ := command
  obtain ⟨line', name', limit'⟩ := command'
  rw [describeCommand_eq, describeCommand_eq] at h
  simp only [List.cons_append, List.append_assoc, List.cons.injEq, List.append_cancel_left_eq] at h
  obtain ⟨hlabel, hmore⟩ := h
  obtain ⟨hnamed, hmore⟩ := optional_inj (hrest.not_prefix_describeTimeout limit)
    (hrest'.not_prefix_describeTimeout limit') hmore
  rw [describeTimeout_eq, describeTimeout_eq] at hmore
  obtain ⟨hlimit, hrest⟩ := optional_inj (hrest.not_prefix (by decide +kernel))
    (hrest'.not_prefix (by decide +kernel)) hmore
  obtain rfl := Option.map_injective Duration.describe_injective hlimit
  refine ⟨?_, hrest⟩
  -- Where there is a name, the label is the name, and else it is the line.
  cases name with
  | none =>
    cases name' with
    | none =>
      obtain rfl : line = line' := hlabel
      rfl
    | some name' => cases hnamed
  | some name =>
    cases name' with
    | none => cases hnamed
    | some name' =>
      obtain rfl : name = name' := hlabel
      obtain rfl : line = line' := Option.some.inj hnamed
      rfl

/-- Commands are told by their descriptions. -/
theorem describeCommands_injective (position : Nat) :
    Function.Injective (describeCommands position) := by
  intro commands commands' h
  induction commands generalizing position commands' with
  | nil =>
    cases commands' with
    | nil => rfl
    | cons command' rest' =>
      rw [describeCommands, describeCommands, describeCommand_eq] at h
      cases h
  | cons command rest ih =>
    cases commands' with
    | nil =>
      rw [describeCommands, describeCommands, describeCommand_eq] at h
      cases h
    | cons command' rest' =>
      rw [describeCommands, describeCommands] at h
      obtain ⟨rfl, hrest⟩ := describeCommand_inj (fresh_describeCommands _ rest)
        (fresh_describeCommands _ rest') h
      rw [ih _ hrest]

/-! ## Line feeds -/

/-- A command is described without line feeds, but for its line and its name. -/
theorem newline_notMem_describeCommand {command : Command} (hline : '\n' ∉ command.line)
    (hname : ∀ name ∈ command.name, '\n' ∉ name) (position : Nat) :
    ∀ line ∈ describeCommand position command, '\n' ∉ line := by
  have hlabel : '\n' ∉ command.label := by
    unfold Command.label
    cases hnamed : command.name with
    | none => exact hline
    | some name => exact hname name hnamed
  rw [describeCommand_eq, List.forall_mem_cons, List.forall_mem_append]
  refine ⟨?label, ?hidden, ?limit⟩
  case label =>
    exact List.not_mem_append (List.not_mem_append (List.not_mem_append (by decide +kernel)
      (Text.newline_notMem_ofNat position)) (by decide +kernel)) hlabel
  case hidden =>
    refine newline_notMem_optional (by decide +kernel) fun t ht => ?_
    obtain ⟨name, -, rfl⟩ := Option.map_eq_some_iff.mp ht
    exact hline
  case limit =>
    rw [describeTimeout_eq]
    refine newline_notMem_optional (by decide +kernel) fun t ht => ?_
    obtain ⟨limit, -, rfl⟩ := Option.map_eq_some_iff.mp ht
    exact Duration.newline_notMem_describe limit

/-- Commands are described in lines without line feeds if they have none. -/
theorem newline_notMem_describeCommands {commands : List Command}
    (hline : ∀ command ∈ commands, '\n' ∉ command.line)
    (hname : ∀ command ∈ commands, ∀ name ∈ command.name, '\n' ∉ name) (position : Nat) :
    ∀ line ∈ describeCommands position commands, '\n' ∉ line := by
  induction commands generalizing position with
  | nil => exact fun _ hnone => nomatch hnone
  | cons command rest ih =>
    rw [List.forall_mem_cons] at hline hname
    rw [describeCommands, List.forall_mem_append]
    exact ⟨newline_notMem_describeCommand hline.1 hname.1 position,
      ih hline.2 hname.2 (position + 1)⟩

/-- A policy is described on one line. -/
theorem newline_notMem_describePolicy (policy : Policy) : '\n' ∉ describePolicy policy := by
  have hword : ∀ word ∈ ["  report = ".toList, " lines max, head ".toList, ", tail ".toList],
      '\n' ∉ word := by decide +kernel
  simp only [List.forall_mem_cons] at hword
  obtain ⟨hreport, hhead, htail, -⟩ := hword
  unfold describePolicy
  simp only [List.mem_append, not_or]
  exact ⟨⟨⟨⟨⟨hreport, Text.newline_notMem_ofNat _⟩, hhead⟩, Text.newline_notMem_ofNat _⟩, htail⟩,
    Text.newline_notMem_ofNat _⟩

/-! ## Plans -/

/-- All that a plan shows is told by the lines that it is described in. -/
theorem describeLines_inj {plan plan' : Plan} (h : plan.describeLines = plan'.describeLines) :
    plan.outputDir.map Pathname.display = plan'.outputDir.map Pathname.display ∧
      plan.propagateFailure = plan'.propagateFailure ∧ plan.policy = plan'.policy ∧
      plan.commands = plan'.commands := by
  have hnext : ∀ (value : Bool) (rest : List Text),
      ∀ line ∈ (("  propagate_failure = ".toList ++ describeBool value) :: rest).head?,
        ¬ "  output_dir = ".toList <+: line := by
    rintro value rest _ ⟨⟩
    exact not_prefix_append (by decide +kernel) (by decide +kernel) _
  simp only [describeLines, describeOutputDir_eq, List.cons_append, List.append_assoc,
    List.nil_append, List.cons.injEq, true_and] at h
  obtain ⟨hdir, hmore⟩ := optional_inj (hnext _ _) (hnext _ _) h
  simp only [List.cons.injEq, List.append_cancel_left_eq, true_and] at hmore
  obtain ⟨hpropagates, hpolicy, -, hcommands⟩ := hmore
  exact ⟨hdir, describeBool_injective hpropagates, describePolicy_injective hpolicy,
    describeCommands_injective 1 hcommands⟩

section
variable {plan plan' : Plan}

/-- What is on one line each stays so in the description. -/
theorem OneLine.newline_notMem (h : plan.OneLine) :
    ∀ line ∈ plan.describeLines, '\n' ∉ line := by
  have hpropagation : '\n' ∉ "  propagate_failure = ".toList ++
      describeBool plan.propagateFailure := by
    cases plan.propagateFailure <;> decide +kernel
  have hcount : '\n' ∉ "commands (".toList ++ Text.ofNat plan.commands.length ++ "):".toList :=
    List.not_mem_append (List.not_mem_append (by decide +kernel) (Text.newline_notMem_ofNat _))
      (by decide +kernel)
  have hdir : ∀ text ∈ plan.outputDir.map Pathname.display, '\n' ∉ text := by
    intro text htext
    obtain ⟨dir, hdir, rfl⟩ := Option.map_eq_some_iff.mp htext
    exact Pathname.newline_notMem_display (h.outputDir dir hdir)
  simp only [describeLines, describeOutputDir_eq, List.cons_append, List.forall_mem_cons,
    List.forall_mem_append]
  refine ⟨by decide +kernel, ⟨newline_notMem_optional (by decide +kernel) hdir,
    hpropagation, newline_notMem_describePolicy plan.policy, List.not_mem_nil, hcount,
    fun _ hnone => nomatch hnone⟩, newline_notMem_describeCommands h.line h.name 1⟩

/-- Two plans that keep each part on one line are described in the same text just if their output
directories are shown alike, they pass failures on alike, have the same policy, and have the same
commands in the same order, each with its line, its name if it has one, and its time limit if it has
one. Output directories that are named by texts are then the same. -/
theorem describe_eq_iff (h : plan.OneLine) (h' : plan'.OneLine) :
    (plan.describe = plan'.describe ↔
      plan.outputDir.map Pathname.display = plan'.outputDir.map Pathname.display ∧
        plan.propagateFailure = plan'.propagateFailure ∧ plan.policy = plan'.policy ∧
        plan.commands = plan'.commands) ∧
    ((∀ dir ∈ plan.outputDir, dir.IsText) → (∀ dir ∈ plan'.outputDir, dir.IsText) →
      plan.describe = plan'.describe → plan.outputDir = plan'.outputDir) := by
  have hlines : plan.describe = plan'.describe → plan.describeLines = plan'.describeLines :=
    Text.unlines_inj h.newline_notMem h'.newline_notMem
  refine ⟨⟨fun heq => describeLines_inj (hlines heq), ?alike⟩, fun htext htext' heq => ?directory⟩
  case alike =>
    rintro ⟨hdir, hpropagates, hpolicy, hcommands⟩
    simp only [describe, describeLines, describeOutputDir_eq, hdir, hpropagates, hpolicy, hcommands]
  case directory =>
    exact Pathname.eq_of_map_display htext htext' (describeLines_inj (hlines heq)).1

end

/-- A command whose line looks like a time limit, under the name that is the line of another command
with that time limit; and the same command in a directory that differs in an accent. -/
theorem describe_eq_iff_lookalike :
    let plan (dir : Text) : Plan := ⟨[⟨"      timeout: 1.5s".toList, some "make".toList, none⟩],
      some (.ofText dir), false, .default, .auto⟩
    let plan' (dir : Text) : Plan := ⟨[⟨"make".toList, none, some ⟨1500000000⟩⟩],
      some (.ofText dir), false, .default, .auto⟩
    let accented : Text := "métrique".toList
    let plain : Text := "metrique".toList
    (plan accented).OneLine ∧ (plan plain).OneLine ∧ (plan' plain).OneLine ∧
      (Pathname.ofText accented).IsText ∧ (Pathname.ofText plain).IsText ∧
      (plan plain).describe ≠ (plan' plain).describe ∧
      (plan accented).describe ≠ (plan plain).describe := by
  intro plan plan' accented plain
  have haccented : (plan accented).OneLine :=
    ⟨by decide +kernel, by decide +kernel, by decide +kernel⟩
  have hplain : (plan plain).OneLine := ⟨by decide +kernel, by decide +kernel, by decide +kernel⟩
  have hplain' : (plan' plain).OneLine := ⟨by decide +kernel, by decide +kernel, by decide +kernel⟩
  have htext : ∀ dir, ∀ path ∈ (plan dir).outputDir, path.IsText := by
    rintro dir path ⟨⟩
    exact ⟨dir, rfl⟩
  refine ⟨haccented, hplain, hplain', ⟨_, rfl⟩, ⟨_, rfl⟩, fun heq => ?commands,
    fun heq => ?directory⟩
  case commands =>
    obtain ⟨-, -, -, hcommands⟩ := (describe_eq_iff hplain hplain').1.mp heq
    exact absurd hcommands (by decide +kernel)
  case directory =>
    have hdir := (describe_eq_iff haccented hplain).2 (htext accented) (htext plain) heq
    exact absurd hdir (by decide +kernel)

/-- Two command lines that differ in the output directory alone, whose plans are described in the
same text: one directory is named by a byte that is no text, the other by the character that is
shown for such bytes. -/
theorem describe_ambiguous :
    let arguments (dir : Pathname) : Arguments :=
      { Arguments.none with commands := ["true".toList], outputDir := some dir }
    let plan (dir : Pathname) : Plan :=
      ⟨[⟨"true".toList, none, none⟩], some dir, false, .default, .auto⟩
    let broken : Pathname := ⟨[0xFF]⟩
    let replacement : Pathname := .ofText "\uFFFD"
    resolve (arguments broken) .default = .ok (plan broken) ∧
      resolve (arguments replacement) .default = .ok (plan replacement) ∧
      (plan broken).OneLine ∧ (plan replacement).OneLine ∧
      (plan broken).describe = (plan replacement).describe ∧
      (plan broken).outputDir ≠ (plan replacement).outputDir := by
  intro arguments plan broken replacement
  refine ⟨by decide +kernel, by decide +kernel, ⟨?_, ?_, ?_⟩, ⟨?_, ?_, ?_⟩, ?_, ?_⟩ <;>
    decide +kernel

/-- A command that goes over more than one line may be taken for another. -/
example :
    let plan : Plan :=
      ⟨[⟨"make\n      timeout: 1.5s".toList, none, none⟩], none, false, .default, .auto⟩
    let plan' : Plan :=
      ⟨[⟨"make".toList, none, some ⟨1500000000⟩⟩], none, false, .default, .auto⟩
    plan.describe = plan'.describe := by
  decide +kernel

end Runbook.Plan
