import QoveryEngine.BuildPaths
import QoveryEngine.Retry

/-!
# The git clone of `LocalDocker::build`

Lines 555-605 clone the repository through `retry::retry`, with three delays of ten seconds, so at
most four calls of `git::clone_at_commit`. The closure retries a `BuildError::GitError` whose
`git2` error is of class `Os` or `Ssl`, or of class `Net` with a message that contains
`timed out`; it stops on any other `GitError`, rebuilt with the service's id as its application.
Any other result, `Ok` or an error that is not a `GitError`, ends the loop as a successful clone.
When the loop fails, `build` returns the last attempt's error.

`git::clone_at_commit` is not part of the sources: its result at each attempt is an input, so
that every sequence of results is every function from attempt numbers to results.
-/

namespace QoveryEngine

/-- `str::contains` for a string pattern, on characters. -/
def containsChars (pat : List Char) : List Char → Bool
  | [] => pat.isEmpty
  | c :: cs => pat.isPrefixOf (c :: cs) || containsChars pat cs

/-- The `git2` errors the closure retries: class `Os` or `Ssl`, or class `Net` with a message that
contains `timed out`. -/
def isRetryableGitError (rawError : Git2Error) : Bool :=
  rawError.errorClass == .os || rawError.errorClass == .ssl ||
    (rawError.errorClass == .net && containsChars "timed out".data rawError.message.data)

/-- The closure given to `retry::retry` (lines 557-598), once `clone_at_commit` returned
`result`. -/
def cloneAttempt (serviceId : String) : Except BuildError Unit → OperationResult Unit BuildError
  | .error (.gitError _ gitCmd context rawError) =>
    if isRetryableGitError rawError then .retry (.gitError serviceId gitCmd context rawError)
    else .err (.gitError serviceId gitCmd context rawError)
  | _ => .ok ()

/-- The delays of the clone's retry loop: `Fixed::from_millis(10_000).take(3)`. -/
def cloneRetryDelays : List Nat := fixedDelays 10000 3

/-- Lines 555-605: the clone through `retry::retry`, with `cloneAtCommit n` the result of the
`n`-th call of `clone_at_commit`. On failure `build` returns `error.error`. The result, and the
attempts and sleeps of the loop. -/
def gitCloneStage (serviceId : String) (cloneAtCommit : Nat → Except BuildError Unit) :
    Except BuildError Unit × List RetryEvent :=
  match retry cloneRetryDelays fun currentTry => cloneAttempt serviceId (cloneAtCommit currentTry) with
  | (.ok (), events) => (.ok (), events)
  | (.error error, events) => (.error error.error, events)

/-- The result of a call of `clone_at_commit` that the closure retries: a `GitError` whose `git2`
error is retryable. -/
def RetriesClone (result : Except BuildError Unit) : Prop :=
  ∃ application gitCmd context rawError, result = .error (.gitError application gitCmd context rawError) ∧
    isRetryableGitError rawError = true

theorem cloneAttempt_isRetry_iff (serviceId : String) (result : Except BuildError Unit) :
    (cloneAttempt serviceId result).IsRetry ↔ RetriesClone result := by
  constructor
  · rintro ⟨e, he⟩
    unfold cloneAttempt at he
    split at he
    · split_ifs at he with h
      exact ⟨_, _, _, _, rfl, h⟩
    · cases he
  · rintro ⟨application, gitCmd, context, rawError, rfl, h⟩
    exact ⟨_, by rw [cloneAttempt, if_pos h]⟩

/-- **The clone stage, for every sequence of results.** The stage calls `clone_at_commit` `i + 1`
times for some `i < 4`, ten seconds apart: every call before the last returned a `GitError` that
is retried, and the last one returned something else or was the fourth. The stage fails exactly
when the last call returned a `GitError`, with that error and the service's id as its
application; any other result of the last call, an error that is not a `GitError` included, lets
the build go on. -/
theorem git_clone_stage_outcome (serviceId : String) (cloneAtCommit : Nat → Except BuildError Unit) :
    ∃ i < 4, (∀ j < i, RetriesClone (cloneAtCommit (j + 1))) ∧
      (i = 3 ∨ ¬ RetriesClone (cloneAtCommit (i + 1))) ∧
      (gitCloneStage serviceId cloneAtCommit).2 = attemptsEvery 10000 1 i ∧
      (gitCloneStage serviceId cloneAtCommit).1 =
        match cloneAtCommit (i + 1) with
        | .error (.gitError _ gitCmd context rawError) =>
          .error (.gitError serviceId gitCmd context rawError)
        | _ => .ok () := by
  obtain ⟨i, hi, hretry, hlast, heq⟩ :=
    retryWithIndex_fixed (fun n => cloneAttempt serviceId (cloneAtCommit n)) 10000 3 1 0
  simp only [Nat.add_comm 1, cloneAttempt_isRetry_iff] at hretry hlast heq
  refine ⟨i, by omega, hretry, hlast, ?_⟩
  unfold gitCloneStage retry cloneRetryDelays fixedDelays
  rw [heq]
  rcases cloneAtCommit (i + 1) with (_ | _ | ⟨_, _, _, rawError⟩ | _ | _ | _ | _) | _
  all_goals try exact ⟨rfl, rfl⟩
  by_cases h : isRetryableGitError rawError <;> simp [cloneAttempt, h]

/-- A clone that fails with an error other than a `GitError` ends the stage at once as a successful
clone: the build goes on without a repository. -/
theorem git_clone_continues_after_failed_clone :
    gitCloneStage "app" (fun _ => .error .cannotGetCredentials) = (.ok (), [.attempt 1]) := rfl

end QoveryEngine
