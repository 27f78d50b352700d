import Runbook.Proofs.Result
import Runbook.Shell.Executor

/-!
# How commands end

`World.execute` gives every command the result of an ending (`World.exists_ending`), so that what
holds of those results holds of all that a run is told: each has one of the two shapes
(`World.execute_shape`). The time limit ends only commands that have one.
-/

namespace Runbook.Shell

namespace World

/-- No exit of a process is the end of its time limit. -/
theorem endingOf_ne_timedOut (exit : Exit) : endingOf exit ≠ .timedOut := by
  cases exit with
  | exited | signalled => exact nofun

/-- Where there is no deadline, none has passed. -/
theorem stop_ne_timedOut (world : World) (id : Nat) : (world.stop id none).1 ≠ .timedOut := by
  unfold stop
  cases world.exit? id with
  | none => exact nofun
  | some exit => exact endingOf_ne_timedOut exit

/-- Without a deadline a command does not end by one. -/
theorem runUntil_ne_timedOut (id output errors steps : Nat) (world : World) :
    (runUntil id output errors none steps world).1 ≠ .timedOut := by
  induction steps generalizing world with
  | zero => exact nofun
  | succ steps ih =>
    rw [runUntil]
    split
    · exact stop_ne_timedOut world id
    · cases world.nextProcess with
      | none => exact stop_ne_timedOut world id
      | some due =>
        obtain ⟨process, time⟩ := due
        simp only [Option.any_none, Bool.and_false, Bool.false_eq_true, if_false]
        exact ih _

/-- The result of a command is that of an ending, and of the end of a time limit only if the command
has one. -/
theorem exists_ending (world : World) (command : Command) :
    ∃ ending stdout stderr,
      (execute world command).1 = .ofEnding command ending stdout stderr ∧
        (ending = .timedOut → command.timeout.isSome = true) := by
  unfold execute
  cases command.obstacle? with
  | some reason => exact ⟨.notStarted reason, [], [], rfl, nofun⟩
  | none =>
    refine ⟨_, _, _, rfl, fun h => ?_⟩
    cases hlimit : command.timeout with
    | some limit => rfl
    | none =>
      rw [hlimit] at h
      exact absurd h (runUntil_ne_timedOut _ _ _ _ _)

/-- Whatever a command does, its result is a success or a failure of the right shape. -/
theorem execute_shape (world : World) (command : Command) :
    (∃ text, (execute world command).1.SuccessShape text) ∨
      (execute world command).1.FailureShape := by
  obtain ⟨ending, stdout, stderr, h, -⟩ := world.exists_ending command
  rw [h]
  rcases Result.ofEnding_shape command ending stdout stderr with ⟨-, h⟩ | ⟨-, h⟩
  · exact .inl ⟨stdout, h⟩
  · exact .inr h

end World

end Runbook.Shell
