import Runbook.Proofs.Checked
import Runbook.Proofs.Excerpt
import Runbook.Proofs.Result

/-!
# The lines of a report

A result that shows anything ends its last line, whether it is shown in full, as a window or in
colour: each of these closes what it prints with a line feed (`Excerpt.getLast?_render_ofText`,
`getLast?_highlight`). Only a success that wrote nothing shows nothing, since every failure has
something to read (`Result.FailureShape`). So results that are shown one after another share no
line, and `Result.report_lines` finds the lines of all of them in what was printed.
-/

namespace Runbook

/-! ## What is shown of a text -/

/-- An excerpt is printed up to the start of a line. -/
theorem Excerpt.atLineStart_render (excerpt : Excerpt) :
    Text.atLineStart excerpt.render = true := by
  cases excerpt with
  | empty => rfl
  | full text => exact Text.atLineStart_iff.mpr (.inr (Text.getLast?_endLine text))
  | window head tail omitted =>
    exact Text.atLineStart_iff.mpr (.inr (Text.getLast?_unlines (by simp)))

/-- The excerpt of a text that holds anything ends its last line. -/
theorem Excerpt.getLast?_render_ofText (policy : Policy) {text : Text} (h : text ≠ []) :
    (ofText policy text).render.getLast? = some '\n' := by
  have hne : ¬ text.isEmpty = true := fun he => h (List.isEmpty_iff.mp he)
  simp only [ofText, if_neg hne]
  split
  · exact Text.getLast?_endLine text
  · exact Text.getLast?_unlines (by simp)

/-- A text that is short once its blank ends are gone is shown as it is, its last line ended. -/
theorem Excerpt.render_ofText_of_short {policy : Policy} {text : Text} (hne : text ≠ [])
    (h : (Text.lines (Text.trim text)).length ≤ policy.maxLines.toNat) :
    (ofText policy text).render = Text.endLine text := by
  rw [ofText_of_short hne h]
  rfl

/-- A text in red ends its last line. -/
theorem getLast?_highlight {text : Text} (h : text ≠ []) :
    (highlight text).getLast? = some '\n' :=
  Text.getLast?_unlines fun hnil => Text.lines_ne_nil h (List.map_eq_nil_iff.mp hnil)

/-! ## What is shown of a result -/

namespace Result

/-- What a result puts on the console: `text`, and that is nothing just for a success that wrote
nothing, and else ends its last line; a success that wrote little is shown as it is. -/
structure Rendered (display : Display) (result : Result) (text : Text) : Prop where
  render : result.render display = .ok text
  alone : (result.report display).run (.empty none) = (.ok (), ⟨none, Text.utf8 text, 1⟩)
  empty_iff : text = [] ↔ result = .success []
  ended : text ≠ [] → text.getLast? = some '\n'
  short : ∀ stdout, result = .success stdout → stdout ≠ [] →
    (Text.lines (Text.trim stdout)).length ≤ display.policy.maxLines.toNat →
      text = Text.endLine stdout

/-- A sink without a limit takes the rendering of a result and is flushed once. -/
theorem run_report_unlimited {display : Display} {result : Result} {text : Text}
    (h : result.render display = .ok text) (received : List UInt8) (flushes : Nat) :
    (result.report display).run ⟨none, received, flushes⟩ =
      (.ok (), ⟨none, received ++ Text.utf8 text, flushes + 1⟩) := by
  have hroom : ∀ wanted, Sink.room ⟨none, received, flushes⟩ wanted = wanted :=
    Sink.room_unlimited rfl
  rw [run_report, h]
  simp only [Printing.run_bind, Sink.run_write, hroom, Nat.lt_irrefl, if_false, Sink.take,
    List.take_length]
  rfl

/-- What a result prints is `text`: its rendering, which a sink without a limit takes and which is
followed by one flush. -/
structure Prints (display : Display) (result : Result) (text : Text) : Prop where
  render : result.render display = .ok text
  report : (result.report display).run (.empty none) = (.ok (), ⟨none, Text.utf8 text, 1⟩)

/-- A result prints its rendering. -/
theorem prints_of_render {display : Display} {result : Result} {text : Text}
    (h : result.render display = .ok text) : result.Prints display text :=
  ⟨h, run_report_unlimited h [] 0⟩

section
variable {policy : Policy} (fits : policy.Fits)
include fits

/-- A success prints the excerpt of its standard output, with and without colour. -/
theorem prints_success (stdout : Text) (color : Bool) :
    (success stdout).Prints ⟨policy, color⟩ (Excerpt.ofText policy stdout).render :=
  prints_of_render (render_success fits stdout)

/-- A failure prints the excerpt of its standard error. -/
theorem prints_failure (cause : Failure) (stderr : Text) :
    (failure cause stderr).Prints ⟨policy, false⟩ (Excerpt.ofText policy stderr).render :=
  prints_of_render (render_failure fits cause stderr)

/-- In colour, a failure prints the excerpt of its standard error in red. -/
theorem prints_failure_colored (cause : Failure) (stderr : Text) :
    (failure cause stderr).Prints ⟨policy, true⟩
      (highlight (Excerpt.ofText policy stderr).render) :=
  prints_of_render (render_failure fits cause stderr)

end

/-- A rendering that ends its last line, of a result that is no silent success. -/
theorem Rendered.of_getLast? {display : Display} {result : Result} {text : Text}
    (hrender : result.render display = .ok text) (hlast : text.getLast? = some '\n')
    (hloud : result ≠ .success [])
    (hshort : ∀ stdout, result = .success stdout → stdout ≠ [] →
      (Text.lines (Text.trim stdout)).length ≤ display.policy.maxLines.toNat →
        text = Text.endLine stdout) : result.Rendered display text where
  render := hrender
  alone := run_report_unlimited hrender [] 0
  empty_iff := by
    refine ⟨fun hnil => ?_, fun h => absurd h hloud⟩
    rw [hnil] at hlast
    cases hlast
  ended _ := hlast
  short := hshort

/-- Every result that there is has a rendering. -/
theorem exists_rendered {display : Display} (fits : display.policy.Fits) {result : Result}
    (built : result.Built) : ∃ text, result.Rendered display text := by
  rcases built.cases with ⟨stdout, rfl⟩ | hfailure
  · have hrender := render_success fits stdout
    by_cases hnil : stdout = []
    · subst hnil
      exact ⟨_, hrender, run_report_unlimited hrender [] 0, ⟨fun _ => rfl, fun _ => rfl⟩,
        fun hne => absurd rfl hne, fun stdout h hne => absurd (success.inj h).symm hne⟩
    · refine ⟨_, .of_getLast? hrender (Excerpt.getLast?_render_ofText display.policy hnil)
        (fun h => hnil (success.inj h)) ?_⟩
      rintro _ ⟨⟩ hne hshort
      exact Excerpt.render_ofText_of_short hne hshort
  · cases result with
    | success stdout => exact absurd hfailure (success_shape stdout).not_failureShape
    | failure cause stderr =>
      have hne : stderr ≠ [] := by
        obtain ⟨c, hc, -⟩ := hfailure.stderr
        exact List.ne_nil_of_mem hc
      have hlast := Excerpt.getLast?_render_ofText display.policy hne
      refine ⟨_, .of_getLast? (render_failure fits cause stderr) ?_ nofun nofun⟩
      split
      · exact getLast?_highlight (List.getLast?_isSome.mp (Option.isSome_of_eq_some hlast))
      · exact hlast

/-! ## Results one after another -/

/-- Several results have renderings, one each. -/
theorem exists_forall₂_rendered {display : Display} (fits : display.policy.Fits)
    {results : List Result} (built : ∀ result ∈ results, result.Built) :
    ∃ texts, List.Forall₂ (Rendered display) results texts := by
  induction results with
  | nil => exact ⟨[], .nil⟩
  | cons result rest ih =>
    obtain ⟨text, htext⟩ := exists_rendered fits (built result List.mem_cons_self)
    obtain ⟨texts, htexts⟩ := ih fun r hr => built r (List.mem_cons_of_mem _ hr)
    exact ⟨text :: texts, .cons htext htexts⟩

/-- Results that are shown one after another put their renderings on the sink, one after another,
and each is followed by a flush. -/
theorem run_forM_report {display : Display} {results : List Result} {texts : List Text}
    (h : List.Forall₂ (Rendered display) results texts) (received : List UInt8) (flushes : Nat) :
    (results.forM (·.report display)).run ⟨none, received, flushes⟩ =
      (.ok (), ⟨none, received ++ Text.utf8 texts.flatten, flushes + results.length⟩) := by
  induction h generalizing received flushes with
  | nil => simp [Text.utf8]; rfl
  | @cons result text results texts hresult _ ih =>
    have unfolded : (result :: results).forM (·.report display) =
        (result.report display >>= fun _ => results.forM (·.report display)) := rfl
    rw [unfolded, Printing.run_bind, run_report_unlimited hresult.render]
    simp only [ih, Text.utf8, List.flatten_cons, List.flatMap_append, List.append_assoc,
      List.length_cons, Nat.add_assoc, Nat.add_comm 1]

/-- What a result puts on the console ends where a line starts. -/
theorem Rendered.atLineStart {display : Display} {result : Result} {text : Text}
    (h : result.Rendered display text) : Text.atLineStart text = true :=
  Text.atLineStart_iff.mpr (or_iff_not_imp_left.mpr h.ended)

/-- Results that are shown one after another share no line: what is printed are their renderings,
each of them empty or ended by a line feed, and its lines are the lines of these, in order. -/
theorem report_lines {display : Display} {results : List Result}
    (window : display.policy.head.toNat + display.policy.tail.toNat ≤
      display.policy.maxLines.toNat)
    (built : ∀ result ∈ results, result.Built) :
    ∃ texts, List.Forall₂ (Rendered display) results texts ∧
      (results.forM (·.report display)).run (.empty none) =
        (.ok (), ⟨none, Text.utf8 texts.flatten, results.length⟩) ∧
      Text.lines texts.flatten = texts.flatMap Text.lines := by
  obtain ⟨texts, htexts⟩ := exists_forall₂_rendered (Policy.fits_of_le window) built
  have hended : ∀ text ∈ texts, Text.atLineStart text = true :=
    (forall_mem_iff_of_forall₂ htexts fun _ _ h => iff_of_true trivial h.atLineStart).mp
      fun _ _ => trivial
  refine ⟨texts, htexts, ?_, Text.lines_flatten hended⟩
  have := run_forM_report htexts [] 0
  rwa [List.nil_append, Nat.zero_add] at this

/-- A text that is cut, a failure without a word of its own, in red, and a silent success. -/
theorem report_lines_mixed :
    let display : Display := ⟨⟨2, 1, 0⟩, true⟩
    let results : List Result := [.success "a\nb\nc".toList, .ofStatus 2 [], .success []]
    display.policy.head.toNat + display.policy.tail.toNat ≤ display.policy.maxLines.toNat ∧
    (∀ result ∈ results, result.Built) ∧
    ∃ texts, List.Forall₂ (Rendered display) results texts ∧
      (results.forM (·.report display)).run (.empty none) =
        (.ok (), ⟨none, Text.utf8 texts.flatten, 3⟩) ∧
      Text.lines texts.flatten = texts.flatMap Text.lines := by
  intro display results
  have window : display.policy.head.toNat + display.policy.tail.toNat ≤
      display.policy.maxLines.toNat := by decide
  have built : ∀ result ∈ results, result.Built :=
    List.forall_mem_cons.mpr ⟨.success _, List.forall_mem_cons.mpr
      ⟨.ofStatus 2 [], List.forall_mem_singleton.mpr (.success [])⟩⟩
  exact ⟨window, built, report_lines window built⟩

end Result

end Runbook
