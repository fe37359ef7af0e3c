import QoveryEngine.JobController
import QoveryEngine.Proofs.RestartLoop

/-!
# Proofs: `run_job` against the Job controller

Every interleaving of the closed system is a run of the open runner, so the restart budget of
`Proofs.RestartLoop` holds there too. The Job's `succeeded` counter only ever counts pods that
terminated successfully, and the runner returns `Ok` only after reading that counter as set, so
`run_job` returns `Ok` only once the pod of some attempt has succeeded. The converse fails:
`run_job_fails_after_succeeded_attempt` is an interleaving where an attempt succeeds and
`run_job` still returns the job-failure error.
-/

namespace QoveryEngine

variable {cfg : RunJobConfig}

/-! ## The closed system refines the open runner -/

/-- Every interleaving is a run of the open runner on the replies the cluster gave. -/
theorem JobSystem.run_runner (cfg : RunJobConfig) :
    ∀ (moves : List Move) (s s' : JobSystem), JobSystem.run cfg s moves = some s' →
      ∃ replies, runRunner cfg s.runner replies = some s'.runner
  | [], s, s', h => ⟨[], by cases h; rfl⟩
  | move :: moves, s, s', h => by
    simp only [JobSystem.run, Option.bind_eq_some] at h
    obtain ⟨s₁, h₁, h₂⟩ := h
    obtain ⟨replies, hr⟩ := JobSystem.run_runner cfg moves s₁ s' h₂
    cases move with
    | runner =>
      simp only [JobSystem.step, Option.bind_eq_some, Option.map_eq_some'] at h₁
      obtain ⟨reply, -, r, hstep, rfl⟩ := h₁
      exact ⟨reply :: replies, by rw [runRunner_cons, hstep, Option.some_bind]; exact hr⟩
    | controller move =>
      simp only [JobSystem.step, Option.map_eq_some'] at h₁
      obtain ⟨c, -, rfl⟩ := h₁
      exact ⟨replies, hr⟩

/-- In every interleaving the runner keeps the loop invariant of the open model: at most
`max_nb_restart + 1` attempts, on distinct pods. -/
theorem JobSystem.loopInv_of_run (outcomes : List Bool) (moves : List Move) (s : JobSystem)
    (h : JobSystem.run cfg (JobSystem.init outcomes) moves = some s) : LoopInv cfg s.runner := by
  obtain ⟨replies, hr⟩ := JobSystem.run_runner cfg moves _ s h
  exact loopInv_run cfg replies _ (loopInv_init cfg) _ hr

/-- **The restart budget against the controller.** In every interleaving with the Job controller,
at most `max_nb_restart + 1` attempts start and the pods acquired are pairwise distinct. -/
theorem run_job_attempts_within_budget (cfg : RunJobConfig) (outcomes : List Bool)
    (moves : List Move) (s : JobSystem)
    (h : JobSystem.run cfg (JobSystem.init outcomes) moves = some s) :
    iterationsStarted s.runner.log ≤ cfg.maxNbRestart + 1 ∧ (acquiredPods s.runner.log).Nodup := by
  have hi := JobSystem.loopInv_of_run outcomes moves s h
  exact ⟨by have := hi.started_le; have := hi.iterations_le; omega, hi.nodup⟩

/-- The interleaving where an attempt's success is counted late: two attempts, on distinct
pods. -/
theorem run_job_attempts_within_budget_stale_counter :
    ∃ s, JobSystem.run oneRestartConfig (JobSystem.init [false, true]) staleCounterMoves = some s ∧
      acquiredPods s.runner.log = ["job-1", "job-2"] ∧
      iterationsStarted s.runner.log ≤ oneRestartConfig.maxNbRestart + 1 :=
  have h : JobSystem.run oneRestartConfig (JobSystem.init [false, true]) staleCounterMoves =
    some _ := rfl
  ⟨_, h, rfl, (run_job_attempts_within_budget _ _ _ _ h).1⟩

/-! ## What the `succeeded` counter counts -/

/-- Replacing an element that `q` rejects adds one to the count when `q` accepts the new one. -/
theorem countP_set_of_not {α : Type} (q : α → Bool) (y : α) {l : List α} {i : Nat} {x : α}
    (h : l[i]? = some x) (hx : q x = false) :
    (l.set i y).countP q = l.countP q + (if q y then 1 else 0) := by
  obtain ⟨hi, rfl⟩ := List.getElem?_eq_some_iff.mp h
  simp [List.countP_set _ _ _ _ hi, hx]

/-- What the controller's counters mean: `succeeded` counts the recorded pods that succeeded, and
only terminated pods are recorded. -/
structure ClusterInv (c : Cluster) : Prop where
  succeeded_eq : c.succeeded = c.pods.countP fun p => p.recorded && p.succeeds
  recorded_terminated : ∀ p ∈ c.pods, p.recorded → p.terminated

/-- One move of the controller keeps the meaning of its counters, and `succeeded` only grows. -/
theorem ClusterInv.controllerStep {c c' : Cluster} {move : ControllerMove} (hi : ClusterInv c)
    (h : c.controllerStep move = some c') : ClusterInv c' ∧ c.succeeded ≤ c'.succeeded := by
  obtain ⟨heq, hterm⟩ := hi
  cases move with
  | startPod =>
    simp only [Cluster.controllerStep] at h
    split_ifs at h
    cases h
    refine ⟨⟨by simp [heq], fun p hp => ?_⟩, le_rfl⟩
    rcases List.mem_append.mp hp with hp | hp
    · exact hterm p hp
    · simp at hp; simp [hp]
  | exitJobContainer i =>
    simp only [Cluster.controllerStep] at h
    split at h
    · rename_i p hp
      split_ifs at h with hexit
      cases h
      -- a pod whose job container is still running is not terminated, so not recorded
      have hrec : p.recorded = false := by
        by_contra hr
        simpa [AttemptPod.terminated, hexit] using hterm p (List.getElem?_mem hp) (by simpa using hr)
      refine ⟨⟨?_, fun p' hp' => ?_⟩, le_rfl⟩
      · rw [countP_set_of_not _ _ hp (by simp [hrec])]
        simp [heq, hrec]
      · rcases List.mem_or_eq_of_mem_set hp' with hp' | rfl
        · exact hterm p' hp'
        · simp [hrec]
    · cases h
  | record i =>
    simp only [Cluster.controllerStep] at h
    split at h
    · rename_i p hp
      by_cases hrec : (p.terminated && !p.recorded) = true
      · simp only [hrec, if_true, Option.some.injEq] at h
        subst h
        simp only [Bool.and_eq_true, Bool.not_eq_true'] at hrec
        refine ⟨⟨?_, fun p' hp' => ?_⟩, Nat.le_add_right _ _⟩
        · rw [countP_set_of_not _ _ hp (by simp [hrec.2])]
          simp [heq]
        · rcases List.mem_or_eq_of_mem_set hp' with hp' | rfl
          · exact hterm p' hp'
          · exact fun _ => hrec.1
      · simp only [hrec, if_false] at h; cases h
    · cases h

@[simp] theorem Cluster.afterCall_succeeded (c : Cluster) (pc : Pc) :
    (c.afterCall pc).succeeded = c.succeeded := by
  unfold Cluster.afterCall; split <;> rfl

/-- The runner's calls keep the meaning of the counters: the terminate write only releases output
sidecars, which changes neither what is recorded nor whether a pod succeeds. -/
theorem ClusterInv.afterCall {c : Cluster} (hi : ClusterInv c) (pc : Pc) :
    ClusterInv (c.afterCall pc) := by
  unfold Cluster.afterCall
  split
  · exact ⟨hi.1, hi.2⟩
  · refine ⟨?_, fun p hp => ?_⟩
    · rw [hi.succeeded_eq, List.countP_map]
      congr 1
      funext p
      simp only [Function.comp]
      split_ifs <;> rfl
    · obtain ⟨p₀, hp₀, rfl⟩ := List.mem_map.mp hp
      split_ifs
      · intro hr
        have := hi.recorded_terminated p₀ hp₀ hr
        simp only [AttemptPod.terminated, Bool.and_eq_true] at this ⊢
        exact ⟨this.1, trivial⟩
      · exact hi.recorded_terminated p₀ hp₀
  · exact hi

theorem jobStatus_jobSnapshot_success {c : Cluster} (h : jobStatus (some c.jobSnapshot) = .success) :
    0 < c.succeeded := by
  by_contra h0
  simp only [Cluster.jobSnapshot, Nat.pos_iff_ne_zero, not_not] at h h0
  simp [jobStatus, h0] at h
  split_ifs at h

/-- Only the classification of a successful Job returns `Ok`. -/
theorem runnerStep_returned_ok {r r' : Runner} {reply : Reply} (h : runnerStep cfg r reply = some r')
    (hpc : r'.pc = .returned (.ok ())) :
    ∃ pod ret, r.pc = .waitJob pod ∧ reply = .jobWait (.ok ret) ∧ jobStatus ret = .success := by
  unfold runnerStep Runner.classify at h
  repeat' split at h
  all_goals first
    | (cases h; done)
    | (simp only [Option.some.injEq] at h; subst h
       first
        | (simp at hpc; done)
        | exact ⟨_, _, ‹_›, rfl, ‹_›⟩)

/-- A runner step on the cluster's reply returns `Ok` only once `succeeded` is set. -/
theorem succeeded_pos_of_runnerStep {c : Cluster} {r r' : Runner} {reply : Reply}
    (hreply : c.reply cfg r.pc = some reply) (h : runnerStep cfg r reply = some r')
    (hpc : r'.pc = .returned (.ok ())) : 0 < c.succeeded := by
  obtain ⟨pod, ret, hpc', rfl, hsuccess⟩ := runnerStep_returned_ok h hpc
  rw [hpc'] at hreply
  simp only [Cluster.reply, Option.some.injEq, Reply.jobWait.injEq, Except.ok.injEq] at hreply
  subst hreply
  exact jobStatus_jobSnapshot_success hsuccess

/-- The invariant of the closed system: the counters mean what they say, and a runner that
returned `Ok` saw `succeeded` set. -/
structure SystemInv (s : JobSystem) : Prop where
  cluster : ClusterInv s.cluster
  returned_ok : s.runner.pc = .returned (.ok ()) → 0 < s.cluster.succeeded

theorem systemInv_init (outcomes : List Bool) : SystemInv (JobSystem.init outcomes) :=
  ⟨⟨rfl, by simp [JobSystem.init, Cluster.init]⟩, by simp [JobSystem.init, Runner.init]⟩

theorem SystemInv.step {s s' : JobSystem} {move : Move} (hi : SystemInv s)
    (h : s.step cfg move = some s') : SystemInv s' := by
  cases move with
  | runner =>
    simp only [JobSystem.step, Option.bind_eq_some, Option.map_eq_some'] at h
    obtain ⟨reply, hreply, r, hstep, rfl⟩ := h
    exact ⟨hi.cluster.afterCall _, fun hpc => by
      simpa using succeeded_pos_of_runnerStep hreply hstep hpc⟩
  | controller move =>
    simp only [JobSystem.step, Option.map_eq_some'] at h
    obtain ⟨c, hc, rfl⟩ := h
    have hc' := hi.cluster.controllerStep hc
    exact ⟨hc'.1, fun hpc => (hi.returned_ok hpc).trans_le hc'.2⟩

theorem systemInv_run (cfg : RunJobConfig) :
    ∀ (moves : List Move) (s s' : JobSystem), SystemInv s → JobSystem.run cfg s moves = some s' →
      SystemInv s'
  | [], s, s', hi, h => by cases h; exact hi
  | move :: moves, s, s', hi, h => by
    simp only [JobSystem.run, Option.bind_eq_some] at h
    obtain ⟨s₁, h₁, h₂⟩ := h
    exact systemInv_run cfg moves s₁ s' (hi.step h₁) h₂

/-- **`Ok` only after a success.** In every interleaving of the one-shot path with the Job
controller, `run_job` returns `Ok(state)` only when the pod of some attempt has succeeded. -/
theorem run_job_ok_only_after_success (cfg : RunJobConfig) (outcomes : List Bool)
    (moves : List Move) (s : JobSystem)
    (h : JobSystem.run cfg (JobSystem.init outcomes) moves = some s)
    (hok : s.runner.pc = .returned (.ok ())) :
    ∃ p ∈ s.cluster.pods, p.phase = "Succeeded" := by
  have hi := systemInv_run cfg moves _ s (systemInv_init outcomes) h
  have hpos := hi.returned_ok hok
  rw [hi.cluster.succeeded_eq, List.countP_pos_iff] at hpos
  obtain ⟨p, hp, hq⟩ := hpos
  simp only [Bool.and_eq_true] at hq
  exact ⟨p, hp, by simp [AttemptPod.phase, hi.cluster.recorded_terminated p hp hq.1, hq.2]⟩

/-- A single attempt that succeeds, counted before the runner reads the Job. -/
def firstAttemptSucceedsMoves : List Move :=
  [.runner, .runner, .controller .startPod] ++ attemptMoves 0 ++
    [.controller (.record 0), .runner, .runner]

theorem run_job_ok_only_after_success_first_attempt :
    ∃ s, JobSystem.run oneRestartConfig (JobSystem.init [true]) firstAttemptSucceedsMoves = some s ∧
      s.runner.pc = .returned (.ok ()) ∧ ∃ p ∈ s.cluster.pods, p.phase = "Succeeded" :=
  have h : JobSystem.run oneRestartConfig (JobSystem.init [true]) firstAttemptSucceedsMoves =
    some _ := rfl
  ⟨_, h, rfl, run_job_ok_only_after_success _ _ _ _ h rfl⟩

end QoveryEngine
