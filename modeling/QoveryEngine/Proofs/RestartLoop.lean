import QoveryEngine.Runner

/-!
# Proofs: the restart loop of `run_job`

Every run of the one-shot path keeps the loop invariant `LoopInv`: the iterations started are
`job_creation_iterations + 1` inside the loop, `job_creation_iterations` never exceeds
`max_nb_restart`, and `set_of_pods_already_processed` is exactly the list of pods the selector
returned, which has no repetition. `runnerStep_cases` says once what a step can do to these
quantities; the invariant follows from it, and the budget theorem from the invariant and the
classification step.
-/

namespace QoveryEngine

/-- The program points before the loop. -/
@[simp] def Pc.beforeLoop : Pc → Bool
  | .helmDelete => true
  | .helmCreate => true
  | .listPods .. => false
  | .waitContainer _ => false
  | .abortStatus _ => false
  | .deleteLifecycleJobs .. => false
  | .getOutput _ => false
  | .touchTerminate _ => false
  | .getJob _ => false
  | .waitJob _ => false
  | .returned _ => false
  | .panicked => false

/-- The program points of the loop body. -/
@[simp] def Pc.inLoop : Pc → Bool
  | .helmDelete => false
  | .helmCreate => false
  | .listPods .. => true
  | .waitContainer _ => true
  | .abortStatus _ => true
  | .deleteLifecycleJobs .. => true
  | .getOutput _ => true
  | .touchTerminate _ => true
  | .getJob _ => true
  | .waitJob _ => true
  | .returned _ => false
  | .panicked => false

/-- The pod an event reports acquired. -/
def Event.acquiredPod : Event → Option String
  | .podAcquired pod => some pod
  | _ => none

/-- The iterations the loop has started. -/
def iterationsStarted (log : List Event) : Nat := log.count .iteration

/-- The pods `get_active_job_pod_by_selector` returned, in order. -/
def acquiredPods (log : List Event) : List String := log.filterMap Event.acquiredPod

@[simp] theorem iterationsStarted_append (l₁ l₂ : List Event) :
    iterationsStarted (l₁ ++ l₂) = iterationsStarted l₁ + iterationsStarted l₂ :=
  List.count_append _ _ _

@[simp] theorem acquiredPods_append (l₁ l₂ : List Event) :
    acquiredPods (l₁ ++ l₂) = acquiredPods l₁ ++ acquiredPods l₂ :=
  List.filterMap_append _ _ _

@[simp] theorem count_iteration_outputEvents
    (forward : List (String × JobOutputVariable) → List (String × JobOutputVariable))
    (result : Except String String) : (outputEvents forward result).count .iteration = 0 := by
  unfold outputEvents
  repeat' split
  all_goals simp

@[simp] theorem filterMap_acquiredPod_outputEvents
    (forward : List (String × JobOutputVariable) → List (String × JobOutputVariable))
    (result : Except String String) :
    (outputEvents forward result).filterMap Event.acquiredPod = [] := by
  unfold outputEvents
  repeat' split
  all_goals simp [Event.acquiredPod]

/-- A step that neither enters the loop nor acquires a pod. -/
structure PlainStep (r r' : Runner) : Prop where
  inLoop : r'.pc.inLoop → r.pc.inLoop
  beforeLoop : r'.pc.beforeLoop → r.pc.beforeLoop
  processed : r'.setOfPodsAlreadyProcessed = r.setOfPodsAlreadyProcessed
  iterations : r'.jobCreationIterations = r.jobCreationIterations
  log : ∃ events, r'.log = r.log ++ events ∧ iterationsStarted events = 0 ∧
    acquiredPods events = []

variable {cfg : RunJobConfig} {r r' : Runner} {reply : Reply}

/-- A pod the selector's retry loop returns has not been processed. -/
theorem not_mem_of_retryTurn {delays : List Nat} {c t : Nat} {selector pod : String}
    {processed : List String} {listing : Except String (List Pod)}
    (h : retryTurn delays c t (selectActiveJobPod selector processed listing) = .done (.ok pod)) :
    pod ∉ processed := by
  have hok : selectActiveJobPod selector processed listing = .ok pod := by
    revert h
    cases selectActiveJobPod selector processed listing <;> (try cases delays) <;>
      simp [retryTurn]
  obtain ⟨_, -, -, -, -, hp⟩ := selectActiveJobPod_eq_ok_iff.mp hok
  exact hp

theorem setInsert_of_not_mem {set : List String} {x : String} (h : x ∉ set) :
    setInsert set x = set ++ [x] := if_neg h

theorem PlainStep.emit {pc : Pc} {events : List Event} (hin : pc.inLoop → r.pc.inLoop)
    (hbefore : pc.beforeLoop → r.pc.beforeLoop) (hstarted : iterationsStarted events = 0)
    (hacquired : acquiredPods events = []) : PlainStep r (r.emit pc events) :=
  ⟨hin, hbefore, rfl, rfl, events, rfl, hstarted, hacquired⟩

/-- What one step can do to the loop's quantities: nothing (`PlainStep`), acquire a new pod,
enter the loop after `helm.on_create`, or restart after a failed attempt with restarts left. -/
theorem runnerStep_cases (h : runnerStep cfg r reply = some r') :
    PlainStep r r' ∨
    (∃ delays c t pod, r.pc = .listPods delays c t ∧ pod ∉ r.setOfPodsAlreadyProcessed ∧
      r' = { r with pc := .waitContainer pod
                    setOfPodsAlreadyProcessed := r.setOfPodsAlreadyProcessed ++ [pod]
                    log := r.log ++ [.listPods, .podAcquired pod] }) ∨
    (r.pc = .helmCreate ∧ r' = (r.emit .helmCreate [.helmCreate]).startIteration cfg) ∨
    (∃ pod status, r.pc = .waitJob pod ∧ r.jobCreationIterations ≠ cfg.maxNbRestart ∧
      r' = ({ r with jobCreationIterations := cfg.incrementIterations r.jobCreationIterations
              }.emit r.pc [.classified status]).startIteration cfg) := by
  unfold runnerStep Runner.classify at h
  repeat' split at h
  all_goals first
    | (cases h; done)
    | (simp only [Option.some.injEq] at h; subst h
       first
        | exact .inl (.emit (by simp_all) (by simp_all)
            (by simp [iterationsStarted]) (by simp [acquiredPods, Event.acquiredPod]))
        | exact .inr (.inr (.inl ⟨by assumption, rfl⟩))
        | exact .inr (.inr (.inr ⟨_, _, ‹_›, ‹_›, rfl⟩))
        | (have hp := not_mem_of_retryTurn ‹retryTurn _ _ _ _ = .done (.ok _)›
           exact .inr (.inl ⟨_, _, _, _, ‹_›, hp, by rw [setInsert_of_not_mem hp]⟩)))

/-- A restart below the budget counts one more restart, without wrapping, and starts the next
iteration. -/
theorem restart_of_lt (status : JobStatus) (hlt : r.jobCreationIterations < cfg.maxNbRestart) :
    ({ r with jobCreationIterations := cfg.incrementIterations r.jobCreationIterations
      }.emit r.pc [.classified status]).startIteration cfg =
      ⟨.listPods (podRetryDelays cfg.maxDurationSecs) 1 0, r.setOfPodsAlreadyProcessed,
        r.jobCreationIterations + 1, r.log ++ [.classified status, .iteration]⟩ := by
  simp [Runner.startIteration, Runner.emit, RunJobConfig.incrementIterations_of_lt hlt]

/-! ## The loop invariant -/

/-- The invariant of the restart loop. -/
structure LoopInv (cfg : RunJobConfig) (r : Runner) : Prop where
  /-- The pods made so far (`job_creation_iterations`) never exceed `max_nb_restart`. -/
  iterations_le : r.jobCreationIterations ≤ cfg.maxNbRestart
  /-- At most one iteration more than the restarts counted has started. -/
  started_le : iterationsStarted r.log ≤ r.jobCreationIterations + 1
  /-- Inside the loop, exactly one more. -/
  started_inLoop : r.pc.inLoop → iterationsStarted r.log = r.jobCreationIterations + 1
  /-- Before the loop, nothing has started. -/
  beforeLoop : r.pc.beforeLoop → iterationsStarted r.log = 0 ∧ r.jobCreationIterations = 0
  /-- `set_of_pods_already_processed` is the list of the pods acquired so far. -/
  processed : r.setOfPodsAlreadyProcessed = acquiredPods r.log
  /-- No pod is acquired twice. -/
  nodup : (acquiredPods r.log).Nodup

theorem loopInv_init (cfg : RunJobConfig) : LoopInv cfg Runner.init := by
  constructor <;> simp [Runner.init, iterationsStarted, acquiredPods]

/-- One step keeps the loop invariant. -/
theorem LoopInv.step (hi : LoopInv cfg r) (h : runnerStep cfg r reply = some r') :
    LoopInv cfg r' := by
  rcases runnerStep_cases h with hp | ⟨delays, c, t, pod, hpc, hnew, rfl⟩ | ⟨hpc, rfl⟩ |
    ⟨pod, status, hpc, hne, rfl⟩
  · obtain ⟨events, hlog, hstarted, hacq⟩ := hp.log
    refine ⟨?_, ?_, fun h => ?_, fun h => ?_, ?_, ?_⟩ <;>
      simp only [hlog, hp.iterations, hp.processed, iterationsStarted_append, hstarted,
        acquiredPods_append, hacq, List.append_nil, Nat.add_zero]
    exacts [hi.iterations_le, hi.started_le, hi.started_inLoop (hp.inLoop h),
      hi.beforeLoop (hp.beforeLoop h), hi.processed, hi.nodup]
  · have hstarted := hi.started_inLoop (by simp [hpc])
    refine ⟨hi.iterations_le, ?_, fun _ => ?_, fun h => by simp at h, ?_, ?_⟩ <;>
      simp [iterationsStarted, acquiredPods, Event.acquiredPod, hi.processed] at *
    · omega
    · omega
    · exact List.nodup_append.mpr ⟨hi.nodup, List.nodup_singleton _, by simpa using hnew⟩
  · obtain ⟨h0, hit⟩ := hi.beforeLoop (by simp [hpc])
    have hs : iterationsStarted (r.log ++ [.helmCreate, .iteration]) = 1 := by
      rw [iterationsStarted_append, h0]; rfl
    have ha : acquiredPods (r.log ++ [.helmCreate, .iteration]) = acquiredPods r.log := by
      simp [acquiredPods, Event.acquiredPod]
    have hr : (r.emit .helmCreate [.helmCreate]).startIteration cfg =
        ⟨.listPods (podRetryDelays cfg.maxDurationSecs) 1 0, r.setOfPodsAlreadyProcessed,
          r.jobCreationIterations, r.log ++ [.helmCreate, .iteration]⟩ := by
      simp [Runner.startIteration, Runner.emit]
    rw [hr]
    exact ⟨by simp [hit], by simp [hs, hit], fun _ => by simp [hs, hit], fun h => by simp at h,
      by rw [ha]; exact hi.processed, by rw [ha]; exact hi.nodup⟩
  · have hstarted := hi.started_inLoop (by simp [hpc])
    have hlt : r.jobCreationIterations < cfg.maxNbRestart := by
      have := hi.iterations_le; omega
    have hs : iterationsStarted (r.log ++ [.classified status, .iteration]) =
        iterationsStarted r.log + 1 := by
      simp [iterationsStarted]
    have ha : acquiredPods (r.log ++ [.classified status, .iteration]) = acquiredPods r.log := by
      simp [acquiredPods, Event.acquiredPod]
    rw [restart_of_lt status hlt]
    exact ⟨by simp only; omega, by simp only [hs]; omega, fun _ => by simp only [hs]; omega,
      fun h => by simp at h, by rw [ha]; exact hi.processed, by rw [ha]; exact hi.nodup⟩

/-- Every run from the start keeps the loop invariant. -/
theorem loopInv_run (cfg : RunJobConfig) :
    ∀ (replies : List Reply) (r : Runner), LoopInv cfg r → ∀ r',
      runRunner cfg r replies = some r' → LoopInv cfg r'
  | [], r, hi, r', h => by cases h; exact hi
  | reply :: replies, r, hi, r', h => by
    rw [runRunner_cons, Option.bind_eq_some] at h
    obtain ⟨r₁, h₁, h₂⟩ := h
    exact loopInv_run cfg replies r₁ (hi.step h₁) r' h₂

/-! ## The classification step -/

theorem runnerStep_waitJob_ok {pod : String} {ret : Option K8sJob} (hpc : r.pc = .waitJob pod) :
    runnerStep cfg r (.jobWait (.ok ret)) =
      if isJobTerminated ret then some (r.classify cfg (jobStatus ret)) else none := by
  rw [runnerStep.eq_def, hpc]

/-- **The restart budget** (`max_nb_restart = n`). In every run of the one-shot path at most
`n + 1` iterations start, `job_creation_iterations` stays at most `n`, and the pods acquired are
pairwise distinct and are exactly `set_of_pods_already_processed`. At the classification of
iteration `i`, a success returns `Ok`; a failure starts iteration `i + 1` when `i < n + 1`,
counting one more restart without overflow, and returns the job-failure error when `i = n + 1`. -/
theorem run_job_restart_budget (cfg : RunJobConfig) (replies : List Reply) (r : Runner)
    (h : runRunner cfg Runner.init replies = some r) :
    iterationsStarted r.log ≤ cfg.maxNbRestart + 1 ∧
    r.jobCreationIterations ≤ cfg.maxNbRestart ∧
    (acquiredPods r.log).Nodup ∧
    r.setOfPodsAlreadyProcessed = acquiredPods r.log ∧
    ∀ pod ret r', r.pc = .waitJob pod → runnerStep cfg r (.jobWait (.ok ret)) = some r' →
      (jobStatus ret = .success → r'.pc = .returned (.ok ())) ∧
      ∀ reason message, jobStatus ret = .failure reason message →
        (iterationsStarted r.log < cfg.maxNbRestart + 1 →
          r'.pc = .listPods (podRetryDelays cfg.maxDurationSecs) 1 0 ∧
          iterationsStarted r'.log = iterationsStarted r.log + 1 ∧
          r'.jobCreationIterations = r.jobCreationIterations + 1) ∧
        (iterationsStarted r.log = cfg.maxNbRestart + 1 →
          r'.pc = .returned (.error (jobFailedError reason message))) := by
  have hi := loopInv_run cfg replies _ (loopInv_init cfg) r h
  refine ⟨by have := hi.started_le; have := hi.iterations_le; omega, hi.iterations_le, hi.nodup,
    hi.processed, fun pod ret r' hpc hstep => ?_⟩
  have hstarted := hi.started_inLoop (by simp [hpc])
  rw [runnerStep_waitJob_ok hpc] at hstep
  split at hstep
  · cases hstep
    refine ⟨fun hs => by simp [Runner.classify, hs], fun reason message hf => ?_⟩
    by_cases hn : r.jobCreationIterations = cfg.maxNbRestart
    · simp [Runner.classify, hf, hn]
      omega
    · have hlt : r.jobCreationIterations < cfg.maxNbRestart := by
        have := hi.iterations_le; omega
      simp only [Runner.classify, hf, if_neg hn, restart_of_lt _ hlt]
      refine ⟨fun _ => ⟨trivial, ?_, trivial⟩, fun h => absurd h (by omega)⟩
      simp [iterationsStarted]
  · cases hstep

/-- A run whose first attempt fails and whose second succeeds. -/
def oneRestartReplies : List Reply :=
  [.helm (.ok ()), .helm (.ok ())] ++ attemptReplies "job-1" "\x7b\x7d" ⟨some ⟨none, some 1, none⟩⟩ ++
    attemptReplies "job-2" "\x7b\x7d" ⟨some ⟨some 1, some 1, none⟩⟩

theorem run_job_restart_budget_one_restart :
    ∃ r, runRunner oneRestartConfig Runner.init oneRestartReplies = some r ∧
      r.pc = .returned (.ok ()) ∧ acquiredPods r.log = ["job-1", "job-2"] ∧
      iterationsStarted r.log ≤ oneRestartConfig.maxNbRestart + 1 ∧
      r.setOfPodsAlreadyProcessed = acquiredPods r.log :=
  have h : runRunner oneRestartConfig Runner.init oneRestartReplies = some _ := rfl
  ⟨_, h, rfl, rfl, (run_job_restart_budget _ _ _ h).1, (run_job_restart_budget _ _ _ h).2.2.2.1⟩

end QoveryEngine

