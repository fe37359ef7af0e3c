import QoveryEngine.Runner

/-!
# Proofs: the forced cancellation of `run_job`

After the container wait, `run_job` reads the cancellation status once more (line 262). When a
forced cancellation is requested it walks the environment's lifecycle jobs and calls
`kubectl_exec_delete_job` on each; the `return` sits in the `Ok` arm of that loop. So the runner
stops at the first delete that succeeds, leaving the later lifecycle jobs alone, and when no
delete succeeds (or no job is a lifecycle job) it falls through to the output read, the terminate
write and the Job wait of an ordinary attempt.
-/

namespace QoveryEngine

variable {cfg : RunJobConfig} {r : Runner} {pod sel : String} {rest : List String}

theorem runnerStep_abortStatus_true (hr : r.pc = .abortStatus pod) :
    runnerStep cfg r (.abortStatus true) =
      some (r.emit (if cfg.lifecycleJobSelectors = [] then .getOutput pod
        else .deleteLifecycleJobs pod cfg.lifecycleJobSelectors) [.forceCancelObserved]) := by
  rw [runnerStep.eq_def, hr]
  cases cfg.lifecycleJobSelectors <;> rfl

theorem runnerStep_deleteJob_true (hr : r.pc = .deleteLifecycleJobs pod (sel :: rest)) :
    runnerStep cfg r (.deleteJob true) =
      some (r.emit (.returned (.error .taskCancellationRequested)) [.deleteJob sel]) := by
  rw [runnerStep.eq_def, hr]; rfl

theorem runnerStep_deleteJob_false (hr : r.pc = .deleteLifecycleJobs pod (sel :: rest)) :
    runnerStep cfg r (.deleteJob false) =
      some (r.emit (if rest = [] then .getOutput pod else .deleteLifecycleJobs pod rest)
        [.deleteJob sel]) := by
  rw [runnerStep.eq_def, hr]
  cases rest <;> rfl

/-- Deletes that fail on the first selectors and succeed on the next one: the loop returns the
cancellation error right after that delete. -/
theorem runRunner_deleteJobs_ok (pod sel : String) (rest : List String) :
    ∀ (failed : List String) (r : Runner), r.pc = .deleteLifecycleJobs pod (failed ++ sel :: rest) →
      runRunner cfg r (failed.map (fun _ => .deleteJob false) ++ [.deleteJob true]) =
        some (r.emit (.returned (.error .taskCancellationRequested))
          ((failed ++ [sel]).map .deleteJob))
  | [], r, hr => by simp [runRunner_cons, runnerStep_deleteJob_true hr]
  | f :: failed, r, hr => by
    rw [List.map_cons, List.cons_append, runRunner_cons, runnerStep_deleteJob_false hr,
      if_neg (by simp), Option.some_bind, runRunner_deleteJobs_ok pod sel rest failed _ rfl]
    simp

/-- Deletes that all fail: the loop ends and the runner goes on to the output read. -/
theorem runRunner_deleteJobs_fail (pod : String) :
    ∀ (sels : List String) (r : Runner), sels ≠ [] → r.pc = .deleteLifecycleJobs pod sels →
      runRunner cfg r (sels.map fun _ => .deleteJob false) =
        some (r.emit (.getOutput pod) (sels.map .deleteJob))
  | [], _, h, _ => absurd rfl h
  | [_], r, _, hr => by simp [runRunner_cons, runnerStep_deleteJob_false hr]
  | _ :: s :: sels, r, _, hr => by
    rw [List.map_cons, runRunner_cons, runnerStep_deleteJob_false hr, if_neg (by simp),
      Option.some_bind, runRunner_deleteJobs_fail pod (s :: sels) _ (by simp) rfl]
    simp

/-- **The forced-cancellation path** (lines 262-282). From the status read after the container
wait, with a forced cancellation requested: deletes that fail on the first lifecycle jobs and
succeed on the next one return the cancellation error at once, after deleting only up to that
job; deletes that all fail, or an environment without lifecycle jobs, lead to the output read. -/
theorem force_cancel_deletes_until_first_success (cfg : RunJobConfig) (r : Runner) (pod : String)
    (hr : r.pc = .abortStatus pod) :
    (∀ failed sel rest, cfg.lifecycleJobSelectors = failed ++ sel :: rest →
      runRunner cfg r (.abortStatus true :: failed.map (fun _ => .deleteJob false) ++
        [.deleteJob true]) =
        some (r.emit (.returned (.error .taskCancellationRequested))
          (.forceCancelObserved :: (failed ++ [sel]).map .deleteJob))) ∧
    runRunner cfg r (.abortStatus true :: cfg.lifecycleJobSelectors.map fun _ => .deleteJob false) =
      some (r.emit (.getOutput pod) (.forceCancelObserved :: cfg.lifecycleJobSelectors.map .deleteJob)) := by
  refine ⟨fun failed sel rest h => ?_, ?_⟩
  · rw [List.cons_append, runRunner_cons, runnerStep_abortStatus_true hr, h, if_neg (by simp),
      Option.some_bind, runRunner_deleteJobs_ok pod sel rest failed _ rfl]
    simp
  · rw [runRunner_cons, runnerStep_abortStatus_true hr]
    by_cases h : cfg.lifecycleJobSelectors = []
    · simp [h]
    · rw [if_neg h, Option.some_bind, runRunner_deleteJobs_fail pod _ _ h rfl]
      simp

/-- An environment with two lifecycle jobs, `a` then `b`. -/
def twoLifecycleJobsConfig : RunJobConfig :=
  { noRestartConfig with
    environmentJobs := [⟨"qovery.com/job-id=a", true⟩, ⟨"qovery.com/job-id=b", true⟩] }

theorem force_cancel_deletes_until_first_success_first_job :
    runRunner twoLifecycleJobsConfig ⟨.abortStatus "job-1", ["job-1"], 0, []⟩
        [.abortStatus true, .deleteJob true] =
      some ⟨.returned (.error .taskCancellationRequested), ["job-1"], 0,
        [.forceCancelObserved, .deleteJob "qovery.com/job-id=a"]⟩ :=
  (force_cancel_deletes_until_first_success _ _ "job-1" rfl).1 [] _ _ rfl

/-- A run whose first attempt sees a cancellation requested while its pod is waited for. -/
def cancelledAttempt : List Reply :=
  [.helm (.ok ()), .helm (.ok ()), .pods (.ok [runningPod "job-1"]),
    .containerWait .forceCancel, .abortStatus true]

/-- Under a forced cancellation, a successful delete of the first lifecycle job returns the
cancellation error without deleting the second; when both deletes fail, the runner reads the
output, writes the terminate file and goes on to the Job wait. -/
theorem force_cancel_skips_remaining_lifecycle_jobs :
    twoLifecycleJobsConfig.lifecycleJobSelectors =
        ["qovery.com/job-id=a", "qovery.com/job-id=b"] ∧
    (∃ r, runRunner twoLifecycleJobsConfig Runner.init (cancelledAttempt ++ [.deleteJob true]) =
        some r ∧
      r.pc = .returned (.error .taskCancellationRequested) ∧
      Event.deleteJob "qovery.com/job-id=a" ∈ r.log ∧ Event.deleteJob "qovery.com/job-id=b" ∉ r.log) ∧
    (∃ r, runRunner twoLifecycleJobsConfig Runner.init (cancelledAttempt ++
        [.deleteJob false, .deleteJob false, .output (.ok "\x7b\x7d"), .exec true]) = some r ∧
      r.pc = .getJob "job-1" ∧ Event.readOutput "job-1" (some "\x7b\x7d") ∈ r.log ∧
      Event.touchTerminate "job-1" ∈ r.log) :=
  ⟨rfl, ⟨_, rfl, rfl, by decide, by decide⟩, ⟨_, rfl, rfl, by decide, by decide⟩⟩

end QoveryEngine
