import Mathlib

/-!
# The `retry` crate

`retry::retry(delays, operation)` calls `operation` until it returns `Ok` or `Err`, sleeping for
the next delay of the iterator after each `Retry`; when the iterator is exhausted it returns the
last `Retry`'s error. The model indexes the operation by the attempt number (`current_try`,
from 1), so that "every sequence of outcomes" is every function from attempt numbers to outcomes,
and it returns, beside the result, what the loop did: its attempts and its sleeps.
-/

namespace QoveryEngine

/-- `retry::OperationResult`: what one attempt asks the retry loop to do. -/
inductive OperationResult (α ε : Type)
  | ok (value : α)
  | retry (error : ε)
  | err (error : ε)
  deriving DecidableEq, Repr

/-- `retry::Error`: the error of the last attempt, the time slept and the number of attempts. -/
structure RetryError (ε : Type) where
  /-- The last attempt's error. -/
  error : ε
  /-- `total_delay`, in milliseconds. -/
  totalDelay : Nat
  /-- `tries`: the number of attempts made. -/
  tries : Nat
  deriving DecidableEq, Repr

/-- What the retry loop does: an attempt (numbered from 1), or a sleep of `ms` milliseconds. -/
inductive RetryEvent
  | attempt (currentTry : Nat)
  | sleep (ms : Nat)
  deriving DecidableEq, Repr

variable {α ε : Type}

/-- `retry::delay::Fixed::from_millis(ms).take(n)`. -/
def fixedDelays (ms n : Nat) : List Nat := List.replicate n ms

/-- `retry::retry_with_index` from the loop state `(iterator, current_try, total_delay)`. -/
def retryWithIndex (operation : Nat → OperationResult α ε) :
    List Nat → Nat → Nat → Except (RetryError ε) α × List RetryEvent
  | delays, currentTry, totalDelay =>
    match operation currentTry with
    | .ok value => (.ok value, [.attempt currentTry])
    | .err error => (.error ⟨error, totalDelay, currentTry⟩, [.attempt currentTry])
    | .retry error =>
      match delays with
      | [] => (.error ⟨error, totalDelay, currentTry⟩, [.attempt currentTry])
      | delay :: rest =>
        let next := retryWithIndex operation rest (currentTry + 1) (totalDelay + delay)
        (next.1, .attempt currentTry :: .sleep delay :: next.2)

/-- Where one turn of `retry_with_index`'s loop leads: it returns, or it sleeps for `delay` and goes
on from the loop state `(delays, currentTry, totalDelay)`. -/
inductive RetryTurn (α ε : Type)
  | done (result : Except (RetryError ε) α)
  | again (delay : Nat) (delays : List Nat) (currentTry totalDelay : Nat)

/-- One turn of `retry_with_index`'s loop, once the attempt `currentTry` returned `outcome`. -/
def retryTurn (delays : List Nat) (currentTry totalDelay : Nat) :
    OperationResult α ε → RetryTurn α ε
  | .ok value => .done (.ok value)
  | .err error => .done (.error ⟨error, totalDelay, currentTry⟩)
  | .retry error =>
    match delays with
    | [] => .done (.error ⟨error, totalDelay, currentTry⟩)
    | delay :: rest => .again delay rest (currentTry + 1) (totalDelay + delay)

/-- `retry::retry`: the loop from its first attempt. -/
def retry (delays : List Nat) (operation : Nat → OperationResult α ε) :
    Except (RetryError ε) α × List RetryEvent :=
  retryWithIndex operation delays 1 0

/-- The events of `n + 1` attempts numbered from `c`, with a sleep of `ms` between consecutive
ones. -/
def attemptsEvery (ms c : Nat) : Nat → List RetryEvent
  | 0 => [.attempt c]
  | n + 1 => .attempt c :: .sleep ms :: attemptsEvery ms (c + 1) n

/-- The time a run of the loop slept, in milliseconds. -/
def totalSleep : List RetryEvent → Nat
  | [] => 0
  | .attempt _ :: events => totalSleep events
  | .sleep ms :: events => ms + totalSleep events

@[simp] theorem totalSleep_attemptsEvery (ms c n : Nat) : totalSleep (attemptsEvery ms c n) = ms * n := by
  induction n generalizing c with
  | zero => rfl
  | succ n ih => simp [attemptsEvery, totalSleep, ih]; ring

/-- The outcome asks for another attempt. -/
def OperationResult.IsRetry (r : OperationResult α ε) : Prop := ∃ error, r = .retry error

section Equations

variable {operation : Nat → OperationResult α ε} {c t : Nat}

theorem retryWithIndex_of_ok {value : α} (delays : List Nat) (h : operation c = .ok value) :
    retryWithIndex operation delays c t = (.ok value, [.attempt c]) := by
  rw [retryWithIndex, h]

theorem retryWithIndex_of_retry_nil {error : ε} (h : operation c = .retry error) :
    retryWithIndex operation [] c t = (.error ⟨error, t, c⟩, [.attempt c]) := by
  rw [retryWithIndex, h]

theorem retryWithIndex_of_retry_cons {delay : Nat} {rest : List Nat}
    (h : (operation c).IsRetry) :
    retryWithIndex operation (delay :: rest) c t =
      ((retryWithIndex operation rest (c + 1) (t + delay)).1,
        .attempt c :: .sleep delay :: (retryWithIndex operation rest (c + 1) (t + delay)).2) := by
  obtain ⟨e, he⟩ := h
  rw [retryWithIndex, he]

end Equations

/-- The loop is its turns: `retry_with_index` returns after the first attempt or goes on from the
state its first turn leads to. -/
theorem retryWithIndex_eq_turn (operation : Nat → OperationResult α ε) (delays : List Nat)
    (c t : Nat) :
    retryWithIndex operation delays c t =
      match retryTurn delays c t (operation c) with
      | .done result => (result, [.attempt c])
      | .again delay rest c' t' =>
        ((retryWithIndex operation rest c' t').1,
          .attempt c :: .sleep delay :: (retryWithIndex operation rest c' t').2) := by
  rw [retryWithIndex]
  cases operation c <;> (try cases delays) <;> rfl

section Fixed

variable (operation : Nat → OperationResult α ε) (ms : Nat)

/-- With fixed delays, a first `Ok` at attempt `c + i`, within the `n` retries, is returned after
`i + 1` attempts separated by sleeps. -/
theorem retryWithIndex_fixed_ok {n i c t : Nat} {value : α} (hi : i ≤ n)
    (hretry : ∀ j < i, (operation (c + j)).IsRetry) (hok : operation (c + i) = .ok value) :
    retryWithIndex operation (List.replicate n ms) c t = (.ok value, attemptsEvery ms c i) := by
  induction i generalizing n c t with
  | zero => exact retryWithIndex_of_ok _ hok
  | succ i ih =>
    obtain ⟨n, rfl⟩ : ∃ m, n = m + 1 := ⟨n - 1, by omega⟩
    have hrest := ih (n := n) (c := c + 1) (t := t + ms) (by omega)
      (fun j hj => by simpa [Nat.add_right_comm, Nat.add_assoc] using hretry (j + 1) (by omega))
      (by simpa [Nat.add_right_comm, Nat.add_assoc] using hok)
    have h0 : (operation c).IsRetry := by simpa using hretry 0 (by omega)
    rw [List.replicate_succ, retryWithIndex_of_retry_cons h0, hrest]
    rfl

/-- With fixed delays, when all `n + 1` attempts ask for a retry, the loop returns the last one's
error after `n + 1` attempts separated by sleeps. -/
theorem retryWithIndex_fixed_exhausted {n c t : Nat} {error : ε}
    (hretry : ∀ j < n, (operation (c + j)).IsRetry) (hlast : operation (c + n) = .retry error) :
    retryWithIndex operation (List.replicate n ms) c t =
      (.error ⟨error, t + n * ms, c + n⟩, attemptsEvery ms c n) := by
  induction n generalizing c t with
  | zero => simpa using retryWithIndex_of_retry_nil hlast
  | succ n ih =>
    have hrest := ih (c := c + 1) (t := t + ms)
      (fun j hj => by simpa [Nat.add_right_comm, Nat.add_assoc] using hretry (j + 1) (by omega))
      (by simpa [Nat.add_right_comm, Nat.add_assoc] using hlast)
    have h0 : (operation c).IsRetry := by simpa using hretry 0 (by omega)
    rw [List.replicate_succ, retryWithIndex_of_retry_cons h0, hrest]
    simp only [attemptsEvery, Prod.mk.injEq, Except.error.injEq, RetryError.mk.injEq]
    refine ⟨⟨trivial, by ring, by ring⟩, trivial⟩

/-- **The loop with fixed delays, for every sequence of outcomes.** With `n` delays of `ms`, the
loop makes `i + 1` attempts for some `i ≤ n`: the attempts before the last asked for a retry, and
the last either did not or was the last allowed. It returns the last attempt's value or error,
after `i` sleeps. -/
theorem retryWithIndex_fixed (n c t : Nat) :
    ∃ i ≤ n, (∀ j < i, (operation (c + j)).IsRetry) ∧ (i = n ∨ ¬ (operation (c + i)).IsRetry) ∧
      retryWithIndex operation (List.replicate n ms) c t =
        (match operation (c + i) with
          | .ok value => .ok value
          | .err error => .error ⟨error, t + i * ms, c + i⟩
          | .retry error => .error ⟨error, t + i * ms, c + i⟩, attemptsEvery ms c i) := by
  induction n generalizing c t with
  | zero =>
    refine ⟨0, le_rfl, nofun, .inl rfl, ?_⟩
    rw [retryWithIndex, Nat.add_zero]
    cases h : operation c <;> simp [h, attemptsEvery]
  | succ n ih =>
    cases hc : operation c with
    | retry error =>
      obtain ⟨i, hi, hretry, hlast, heq⟩ := ih (c + 1) (t + ms)
      refine ⟨i + 1, by omega, fun j hj => ?_, ?_, ?_⟩
      · rcases j with _ | j
        · exact ⟨error, hc⟩
        · simpa [Nat.add_right_comm, Nat.add_assoc] using hretry j (by omega)
      · simpa [Nat.add_right_comm, Nat.add_assoc] using hlast
      · rw [List.replicate_succ, retryWithIndex_of_retry_cons ⟨error, hc⟩, heq]
        simp only [attemptsEvery, Nat.add_right_comm c 1 i, Nat.add_assoc c i 1]
        have hsleep : t + ms + i * ms = t + (i + 1) * ms := by ring
        cases operation (c + (i + 1)) <;> simp [hsleep]
    | _ =>
      refine ⟨0, Nat.zero_le _, nofun, .inr (by simp [hc, OperationResult.IsRetry]), ?_⟩
      rw [retryWithIndex, hc]
      simp [hc, attemptsEvery]

end Fixed

end QoveryEngine
