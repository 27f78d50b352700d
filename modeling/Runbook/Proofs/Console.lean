import Runbook.Console

/-!
# What reaches the console

`Result.run_report`: showing a result, piece by piece and channel by channel, does to a sink what a
single write of its rendering does, followed by one flush. Since a write that does not fit keeps its
start and fails, and a failed write ends the report, it does not matter in which piece the sink
becomes full (`Sink.run_write_append`).

A result has no rendering when its window is too long for a machine word. `Policy.Fits` is what
rules that out, and the check of a configuration grants it (`Policy.fits_of_check`).
-/

namespace Runbook

/-! ## Printing -/

/-- Of two computations that print, the second goes on where the first ended, unless the first
stopped. -/
theorem Printing.run_bind {α β : Type} (x : Printing α) (f : α → Printing β) (sink : Sink) :
    (x >>= f).run sink = match x.run sink with
      | (.ok a, sink) => (f a).run sink
      | (.error fault, sink) => (.error fault, sink) := by
  have unfolded : (x >>= f).run sink = ExceptT.bindCont f (x.run sink).1 (x.run sink).2 := rfl
  rw [unfolded]
  rcases x.run sink with ⟨_ | _, _⟩ <;> rfl

/-! ## Writing -/

/-- The sink after it has taken as many of the bytes as it has room for. -/
def Sink.take (sink : Sink) (bytes : List UInt8) : Sink :=
  { sink with received := sink.received ++ bytes.take (sink.room bytes.length) }

/-- The sink after one more flush. -/
def Sink.flushed (sink : Sink) : Sink := { sink with flushes := sink.flushes + 1 }

/-- A write takes what there is room for, and fails if that is not all. -/
theorem Sink.run_write (bytes : List UInt8) (sink : Sink) :
    (Sink.write bytes).run sink =
      (if sink.room bytes.length < bytes.length then .error (.refused .sinkFull) else .ok (),
        sink.take bytes) := by
  have unfolded : (Sink.write bytes).run sink =
      (if sink.room bytes.length < bytes.length then throw (.refused .sinkFull) else pure () :
        Printing Unit).run (sink.take bytes) := rfl
  rw [unfolded]
  split <;> rfl

theorem Sink.room_le (sink : Sink) (wanted : Nat) : sink.room wanted ≤ wanted := by
  unfold Sink.room
  split <;> omega

/-- A sink without a limit has room for everything. -/
theorem Sink.room_unlimited {sink : Sink} (h : sink.capacity = none) (wanted : Nat) :
    sink.room wanted = wanted := by
  simp only [Sink.room, h]

/-- A sink that lacks room for the first bytes has no more room for longer ones. -/
theorem Sink.room_add_of_lt {sink : Sink} {first : Nat} (h : sink.room first < first)
    (second : Nat) : sink.room (first + second) = sink.room first := by
  cases hc : sink.capacity with
  | none => simp [Sink.room, hc] at h
  | some capacity =>
    simp only [Sink.room, hc] at h ⊢
    omega

/-- The room for more bytes, once the first have been taken. -/
theorem Sink.room_add_length {sink : Sink} {first : List UInt8}
    (h : sink.room first.length = first.length) (second : Nat) :
    sink.room (first.length + second) = first.length + (sink.take first).room second := by
  cases hc : sink.capacity with
  | none => simp [Sink.room, Sink.take, hc]
  | some capacity =>
    simp only [Sink.room, Sink.take, hc, List.length_append, List.length_take] at h ⊢
    omega

/-- Two writes do what one write of their bytes does. -/
theorem Sink.run_write_append (first second : List UInt8) (sink : Sink) :
    (Sink.write (first ++ second)).run sink =
      (Sink.write first >>= fun _ => Sink.write second).run sink := by
  rw [Printing.run_bind, Sink.run_write, Sink.run_write, List.length_append]
  by_cases h : sink.room first.length < first.length
  · have hroom := Sink.room_add_of_lt h second.length
    rw [hroom, if_pos h, if_pos (by omega)]
    simp only [Sink.take, List.length_append, hroom,
      List.take_append_of_le_length (Nat.le_of_lt h)]
  · have hfits : sink.room first.length = first.length := by
      have := sink.room_le first.length
      omega
    have hroom := Sink.room_add_length hfits second.length
    have htake : sink.take (first ++ second) = (sink.take first).take second := by
      simp only [Sink.take, List.length_append, hroom, hfits, List.take_length_add_append,
        List.take_length, List.append_assoc]
    rw [if_neg h]
    simp only [Sink.run_write, hroom, htake, Nat.add_lt_add_iff_left]

/-- Nothing is written by an empty write. -/
theorem Sink.run_write_nil (sink : Sink) : (Sink.write []).run sink = (.ok (), sink) := by
  have hroom : sink.room 0 = 0 := Nat.le_zero.mp (sink.room_le 0)
  simp [Sink.run_write, Sink.take, hroom]

/-- Texts that are written one after another do what one write of their bytes does: a write that
fails is the last. -/
theorem Sink.run_writeAll (pieces : List Text) (sink : Sink) :
    (Sink.writeAll pieces).run sink = (Sink.write (Text.utf8 pieces.flatten)).run sink := by
  induction pieces generalizing sink with
  | nil => exact (Sink.run_write_nil sink).symm
  | cons piece rest ih =>
    have unfolded : Sink.writeAll (piece :: rest) =
        (Sink.write (Text.utf8 piece) >>= fun _ => Sink.writeAll rest) := rfl
    have bytes : Text.utf8 (piece :: rest).flatten =
        Text.utf8 piece ++ Text.utf8 rest.flatten := by
      simp only [Text.utf8, List.flatten_cons, List.flatMap_append]
    rw [unfolded, bytes, Sink.run_write_append, Printing.run_bind, Printing.run_bind]
    simp only [ih]

/-! ## Pieces -/

/-- The pieces of an excerpt make up its rendering. -/
theorem Excerpt.flatten_pieces (excerpt : Excerpt) : excerpt.pieces.flatten = excerpt.render := by
  cases excerpt with
  | empty => rfl
  | full text =>
    simp only [Excerpt.pieces, Excerpt.render, Text.endLine]
    split <;> simp
  | window head tail omitted =>
    rw [Excerpt.pieces, ← List.flatMap_id, List.flatMap_assoc]
    simp [Excerpt.render, Text.unlines]

/-- The pieces of a highlighted text make it up. -/
theorem flatten_highlightPieces (text : Text) :
    (highlightPieces text).flatten = highlight text := by
  rw [highlightPieces, ← List.flatMap_id, List.flatMap_assoc, highlight, Text.unlines,
    List.flatMap_map]
  simp

/-! ## Results -/

/-- The bytes that a result puts on the console; none if it has no rendering. -/
def Result.bytes (display : Display) (result : Result) : List UInt8 :=
  match result.render display with
  | .ok text => Text.utf8 text
  | .error _ => []

/-- Writing the pieces of a channel and then flushing is one write of their text and one flush. -/
theorem Sink.run_writeAll_flush {pieces : List Text} {text : Text} (h : pieces.flatten = text)
    (sink : Sink) :
    (Sink.writeAll pieces >>= fun _ => Sink.flush).run sink =
      (Sink.write (Text.utf8 text) >>= fun _ => Sink.flush).run sink := by
  rw [Printing.run_bind, Printing.run_bind, Sink.run_writeAll, h]

/-- Showing a result is one write of its rendering and one flush. Without a rendering nothing is
written. -/
theorem Result.run_report (display : Display) (result : Result) (sink : Sink) :
    (result.report display).run sink = match result.render display with
      | .ok text => (Sink.write (Text.utf8 text) >>= fun _ => Sink.flush).run sink
      | .error operation => (.error (.overflow operation), sink) := by
  have silent : display.excerpt [] = pure .empty := rfl
  have nothing : Sink.writeAll [] = pure () := rfl
  have colorless : highlightPieces (Excerpt.render .empty) = [] := rfl
  cases result with
  | success stdout =>
    simp only [Result.report, Result.stdout, Result.stderr, Result.render, silent, pure_bind,
      colorless, Excerpt.pieces, ite_self, nothing]
    cases h : Excerpt.abridge display.policy stdout with
    | error operation =>
      simp only [Display.excerpt, h]
      rfl
    | ok excerpt =>
      simp only [Display.excerpt, h, pure_bind]
      exact Sink.run_writeAll_flush excerpt.flatten_pieces sink
  | failure cause stderr =>
    simp only [Result.report, Result.stdout, Result.stderr, Result.render, silent, pure_bind,
      Excerpt.pieces, nothing]
    cases h : Excerpt.abridge display.policy stderr with
    | error operation =>
      simp only [Display.excerpt, h]
      rfl
    | ok excerpt =>
      simp only [Display.excerpt, h, pure_bind]
      refine Sink.run_writeAll_flush ?_ sink
      cases display.color with
      | false => exact excerpt.flatten_pieces
      | true => exact flatten_highlightPieces excerpt.render

/-- What showing a result can come to: the sink takes all of its rendering, the rendering leaves the
range of a machine word, or the sink takes what it has room for and is full. -/
theorem Result.report_cases (display : Display) (result : Result) (sink : Sink) :
    (∃ text, result.render display = .ok text ∧
      sink.room (result.bytes display).length = (result.bytes display).length ∧
      (result.report display).run sink = (.ok (), (sink.take (result.bytes display)).flushed)) ∨
    (∃ operation, result.render display = .error operation ∧
      (result.report display).run sink = (.error (.overflow operation), sink)) ∨
    (∃ text, result.render display = .ok text ∧
      sink.room (result.bytes display).length < (result.bytes display).length ∧
      (result.report display).run sink =
        (.error (.refused .sinkFull), sink.take (result.bytes display))) := by
  rw [Result.run_report]
  unfold Result.bytes
  cases result.render display with
  | error operation => exact .inr (.inl ⟨operation, rfl, rfl⟩)
  | ok text =>
    simp only [Printing.run_bind, Sink.run_write]
    by_cases h : sink.room (Text.utf8 text).length < (Text.utf8 text).length
    · exact .inr (.inr ⟨text, rfl, h, by rw [if_pos h]⟩)
    · have := sink.room_le (Text.utf8 text).length
      exact .inl ⟨text, rfl, by omega, by rw [if_neg h]; rfl⟩

/-! ## Window lengths -/

/-- The window of the policy is short enough for a machine word to count its lines. -/
def Policy.Fits (policy : Policy) : Prop := policy.head.toNat + policy.tail.toNat < wordSize

instance (policy : Policy) : Decidable policy.Fits := inferInstanceAs (Decidable (_ < _))

/-- A policy whose window is no longer than a text shown in full fits. -/
theorem Policy.fits_of_le {policy : Policy}
    (h : policy.head.toNat + policy.tail.toNat ≤ policy.maxLines.toNat) : policy.Fits :=
  Nat.lt_of_le_of_lt h policy.maxLines.toNat_lt

/-- Under a policy that fits the excerpt of a text can be computed. -/
theorem Excerpt.abridge_of_fits {policy : Policy} (h : policy.Fits) (text : Text) :
    Excerpt.abridge policy text = .ok (Excerpt.ofText policy text) := by
  have window : addWord policy.head.toNat policy.tail.toNat = .ok _ := if_pos h
  unfold Excerpt.abridge
  cases Excerpt.ofText policy text with
  | window head tail omitted =>
    simp only [window]
    rfl
  | empty | full => rfl

/-- A success is shown by the excerpt of its standard output. -/
theorem Result.render_success {display : Display} (h : display.policy.Fits) (stdout : Text) :
    (success stdout).render display = .ok (Excerpt.ofText display.policy stdout).render := by
  rw [Result.render, Excerpt.abridge_of_fits h]
  rfl

/-- A failure is shown by the excerpt of its standard error, in red if colour is wanted. -/
theorem Result.render_failure {display : Display} (h : display.policy.Fits) (cause : Failure)
    (stderr : Text) :
    let shown := (Excerpt.ofText display.policy stderr).render
    (failure cause stderr).render display =
      .ok (if display.color then highlight shown else shown) := by
  rw [Result.render, Excerpt.abridge_of_fits h]
  rfl

/-- Under a policy that fits every result has a rendering. -/
theorem Result.exists_render {display : Display} (h : display.policy.Fits) (result : Result) :
    ∃ text, result.render display = .ok text := by
  cases result with
  | success stdout => exact ⟨_, Result.render_success h stdout⟩
  | failure cause stderr => exact ⟨_, Result.render_failure h cause stderr⟩

/-- Under a policy that fits a sink without a limit takes the rendering of every result. -/
theorem Result.report_unlimited {display : Display} {sink : Sink} (fits : display.policy.Fits)
    (unlimited : sink.capacity = none) (result : Result) :
    (result.report display).run sink = (.ok (), (sink.take (result.bytes display)).flushed) := by
  obtain ⟨text, hrender⟩ := Result.exists_render fits result
  rcases result.report_cases display sink with
    ⟨-, -, -, h⟩ | ⟨operation, herror, -⟩ | ⟨-, -, hlt, -⟩
  · exact h
  · rw [hrender] at herror
    cases herror
  · rw [Sink.room_unlimited unlimited] at hlt
    exact absurd hlt (Nat.lt_irrefl _)

/-- Under a policy that fits a result that is not shown is one that a limited sink has no room for.
-/
theorem Result.fault_of_fits {display : Display} {result : Result} {sink sink' : Sink}
    {fault : Fault SystemError} (fits : display.policy.Fits)
    (h : (result.report display).run sink = (.error fault, sink')) :
    fault = .refused .sinkFull ∧ sink.capacity ≠ none := by
  obtain ⟨text, hrender⟩ := Result.exists_render fits result
  refine ⟨?_, fun unlimited => ?_⟩
  · rcases result.report_cases display sink with
      ⟨-, -, -, hr⟩ | ⟨operation, herror, -⟩ | ⟨-, -, -, hr⟩
    · rw [hr] at h
      cases h
    · rw [hrender] at herror
      cases herror
    · rw [hr] at h
      cases h
      rfl
  · rw [Result.report_unlimited fits unlimited] at h
    cases h

/-- Showing a result does not change how much a sink takes in all. -/
theorem Result.capacity_report {display : Display} {result : Result} {sink sink' : Sink}
    {outcome : Except (Fault SystemError) Unit}
    (h : (result.report display).run sink = (outcome, sink')) : sink'.capacity = sink.capacity := by
  rcases result.report_cases display sink with ⟨-, -, -, hr⟩ | ⟨operation, -, hr⟩ | ⟨-, -, -, hr⟩
  all_goals
    rw [hr] at h
    cases h
    rfl

end Runbook
