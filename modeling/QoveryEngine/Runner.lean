import QoveryEngine.PodSelector
import QoveryEngine.JobOutput

/-!
# `run_job`'s one-shot path

For a job whose schedule `is_job()`, the `run` closure of `run_job` deletes the previous Job,
creates the new one, and loops: find the pod of the current attempt, wait for its job container
to terminate (or for a forced cancellation), read and forward the output, release the output
sidecar, wait for the Job to be terminated and classify it. A failure starts another attempt
until `max_nb_restart` restarts are spent.

The runner is a state machine whose every step is one call to the world (Helm, the Kubernetes
API, the cancellation status) and takes that call's reply: `runnerStep` is defined on the replies
the call at the current program point can return, and is `none` on any other. Every list of
replies is a possible run, so what is proved over runs holds whatever the cluster does. The log
records the calls in order, with what the runner learned from them.
-/

namespace QoveryEngine

/-- A job of the environment, as the forced-cancellation loop reads it. -/
structure EnvironmentJob where
  /-- `kube_label_selector()`: the label selector of the job's Kubernetes objects. -/
  kubeLabelSelector : String
  /-- `job_schedule().is_job()`: a lifecycle job. -/
  isJob : Bool
  deriving DecidableEq, Repr

/-- What the one-shot path reads from the job and the deployment target. -/
structure RunJobConfig where
  /-- `job.kube_name()`: the name of the Job, and of the job container of its pods. -/
  kubeName : String
  /-- `job.max_nb_restart()`: how many times the job may be restarted. -/
  maxNbRestart : Nat
  /-- The width of the integer type of `max_nb_restart`, which `job_creation_iterations`
  shares (the job model is not under src/). -/
  counterBits : Nat
  /-- `max_nb_restart` is a value of that type. -/
  maxNbRestart_lt : maxNbRestart < 2 ^ counterBits
  /-- `job.max_duration().as_secs()`: how long the job may run, in seconds. -/
  maxDurationSecs : Nat
  /-- `target.environment.jobs`: the jobs of the environment being deployed. -/
  environmentJobs : List EnvironmentJob
  /-- `str::to_uppercase`, the standard library's Unicode upper-casing of whole strings (which
  may change a string's length). It is not under src/, so the model takes it as given. -/
  toUppercase : String → String
  /-- The order in which the `.iter()` at line 298 visits the map `serialize_job_output` built
  from the `n`-th output read (from 0), given as its entries in document order. Each `HashMap`
  hashes with keys of its own, so every read may visit its map in another order. -/
  hashMapVisit : Nat → List (String × JobOutputVariable) → List (String × JobOutputVariable)
  /-- The iteration visits each entry of the map once. -/
  hashMapVisit_perm : ∀ n m, (hashMapVisit n m).Perm m

/-- `job_creation_iterations += 1` in the counter's integer type. -/
def RunJobConfig.incrementIterations (cfg : RunJobConfig) (n : Nat) : Nat :=
  (n + 1) % 2 ^ cfg.counterBits

/-- Below `max_nb_restart` the increment does not wrap. -/
theorem RunJobConfig.incrementIterations_of_lt {cfg : RunJobConfig} {n : Nat}
    (h : n < cfg.maxNbRestart) : cfg.incrementIterations n = n + 1 :=
  Nat.mod_eq_of_lt (lt_of_le_of_lt h cfg.maxNbRestart_lt)

/-- Lines 296-302 on the map read from the `n`-th output: its entries, in the order the
iteration visits them, collected into a new `HashMap` under their upper-cased keys. -/
def RunJobConfig.upperCasedOutput (cfg : RunJobConfig) (n : Nat)
    (m : List (String × JobOutputVariable)) : List (String × JobOutputVariable) :=
  upperCaseKeys cfg.toUppercase (cfg.hashMapVisit n m)

/-- `job_pod_selector`. -/
def RunJobConfig.jobPodSelector (cfg : RunJobConfig) : String := "job-name=" ++ cfg.kubeName

/-- The selectors of the environment's lifecycle jobs, in order. -/
def RunJobConfig.lifecycleJobSelectors (cfg : RunJobConfig) : List String :=
  (cfg.environmentJobs.filter EnvironmentJob.isJob).map EnvironmentJob.kubeLabelSelector

/-- The program points of the one-shot path: each is the call the runner makes next. -/
inductive Pc
  /-- `helm.on_delete`: the removal of the job's previous chart. -/
  | helmDelete
  /-- `helm.on_create`: the install of the job's chart. -/
  | helmCreate
  /-- A list call of `get_active_job_pod_by_selector`, from its retry loop's state. -/
  | listPods (delays : List Nat) (currentTry totalDelay : Nat)
  /-- The biased `select!` between the forced-cancellation poll and the container watch. -/
  | waitContainer (pod : String)
  /-- `target.abort.status()` at line 262. -/
  | abortStatus (pod : String)
  /-- `kubectl_exec_delete_job` on the first of the lifecycle jobs left to delete (the `for`
  loop moves on to the output read once none is left). -/
  | deleteLifecycleJobs (pod : String) (selectors : List String)
  /-- `kubectl_get_job_pod_output`: the read of the pod's output file. -/
  | getOutput (pod : String)
  /-- The `exec` writing `/qovery-output/terminate`. -/
  | touchTerminate (pod : String)
  /-- `jobs.get(job.kube_name())`: the read of the Job's status. -/
  | getJob (pod : String)
  /-- `await_condition(jobs, job.kube_name(), is_job_terminated())`: the wait for the Job to end. -/
  | waitJob (pod : String)
  /-- The closure returned `Ok(state)` or an error. -/
  | returned (result : Except EngineError Unit)
  /-- `unreachable!()`: the runner panicked. -/
  | panicked
  deriving DecidableEq, Repr

/-- Which arm of the biased `select!` completed. -/
inductive SelectOutcome
  /-- The forced-cancellation poll saw `should_force_cancel()`. -/
  | forceCancel
  /-- The container watch returned: the pod snapshot satisfying the condition, or an error. -/
  | watched (result : Except String (Option Pod))
  deriving DecidableEq, Repr

/-- The reply to a call. -/
inductive Reply
  | helm (result : Except EngineError Unit)
  | pods (result : Except String (List Pod))
  | containerWait (outcome : SelectOutcome)
  | abortStatus (shouldForceCancel : Bool)
  | deleteJob (ok : Bool)
  | output (result : Except String String)
  | exec (ok : Bool)
  | job (result : Except String Unit)
  | jobWait (result : Except String (Option K8sJob))
  deriving DecidableEq, Repr

/-- What the log records. -/
inductive Event
  | helmDelete
  | helmCreate
  /-- The loop body is entered. -/
  | iteration
  | listPods
  | sleep (ms : Nat)
  /-- `get_active_job_pod_by_selector` returned this pod. -/
  | podAcquired (pod : String)
  /-- The container watch returned this snapshot of the pod. -/
  | containerTerminated (pod : String) (snapshot : Option Pod)
  /-- The container watch ended with an error. -/
  | containerWatchFailed (pod : String)
  /-- The forced-cancellation arm completed first. -/
  | cancelArmWon (pod : String)
  /-- `should_force_cancel()` read as true at line 264. -/
  | forceCancelObserved
  | deleteJob (selector : String)
  /-- `kubectl_get_job_pod_output` on this pod, with the JSON it returned if it succeeded. -/
  | readOutput (pod : String) (json : Option String)
  /-- `logger.core_configuration_for_job` with this map. -/
  | configuration (output : List (String × JobOutputVariable))
  /-- The warning logged for an output `serialize_job_output` rejects. -/
  | outputWarning
  | touchTerminate (pod : String)
  | getJob
  /-- `job_status` of the snapshot the Job-level wait returned. -/
  | classified (status : JobStatus)
  deriving DecidableEq, Repr

/-- The runner's state: its program point, its locals, and the log of what it did. -/
structure Runner where
  /-- The call made next. -/
  pc : Pc
  /-- `set_of_pods_already_processed`: the pods whose attempt has been read. -/
  setOfPodsAlreadyProcessed : List String
  /-- `job_creation_iterations`: the number of pods started so far. -/
  jobCreationIterations : Nat
  /-- What happened so far, oldest first. -/
  log : List Event
  deriving DecidableEq, Repr

/-- The runner before the closure's first call. -/
def Runner.init : Runner := ⟨.helmDelete, [], 0, []⟩

/-- Move to `pc`, logging `events`. -/
def Runner.emit (r : Runner) (pc : Pc) (events : List Event) : Runner :=
  { r with pc := pc, log := r.log ++ events }

/-- The loop head: a new iteration starts at the selector's first list call. -/
def Runner.startIteration (cfg : RunJobConfig) (r : Runner) : Runner :=
  r.emit (.listPods (podRetryDelays cfg.maxDurationSecs) 1 0) [.iteration]

/-- `HashSet::insert`. -/
def setInsert (set : List String) (x : String) : List String :=
  if x ∈ set then set else set ++ [x]

/-- The JSON an output read returned, if the read succeeded. -/
def Event.outputRead : Event → Option (Option String)
  | .readOutput _ json => some json
  | _ => none

/-- The number of output reads so far. -/
def Runner.outputReads (r : Runner) : Nat := (r.log.filterMap Event.outputRead).length

/-- What follows the output read in the log: the configuration event for an output that
`serialize_job_output` accepts, with the map `forward` makes of it, and the warning for one it
rejects. -/
def outputEvents (forward : List (String × JobOutputVariable) → List (String × JobOutputVariable)) :
    Except String String → List Event
  | .ok json =>
    match serializeJobOutput json with
    | .ok m => [.configuration (forward m)]
    | .error _ => [.outputWarning]
  | .error _ => []

/-- The error `run_job` returns for a failed Job. -/
def jobFailedError (reason message : String) : EngineError :=
  .jobError ("Job failed to correctly run due to " ++ reason ++ " " ++ message)

/-- Lines 362-377: classify the Job; on a failure, give up when `max_nb_restart` restarts were
made, and otherwise count one more and start a new iteration. -/
def Runner.classify (cfg : RunJobConfig) (r : Runner) (status : JobStatus) : Runner :=
  match status with
  | .success => r.emit (.returned (.ok ())) [.classified status]
  | .notRunning => r.emit .panicked [.classified status]
  | .running => r.emit .panicked [.classified status]
  | .failure reason message =>
    if r.jobCreationIterations = cfg.maxNbRestart then
      r.emit (.returned (.error (jobFailedError reason message))) [.classified status]
    else
      ({ r with jobCreationIterations := cfg.incrementIterations r.jobCreationIterations }.emit
        r.pc [.classified status]).startIteration cfg

/-- One call of the one-shot path and its reply. -/
def runnerStep (cfg : RunJobConfig) (r : Runner) (reply : Reply) : Option Runner :=
  match r.pc, reply with
  | .helmDelete, .helm (.ok ()) => some (r.emit .helmCreate [.helmDelete])
  | .helmDelete, .helm (.error e) => some (r.emit (.returned (.error e)) [.helmDelete])
  | .helmCreate, .helm (.ok ()) => some ((r.emit .helmCreate [.helmCreate]).startIteration cfg)
  | .helmCreate, .helm (.error e) => some (r.emit (.returned (.error e)) [.helmCreate])
  | .listPods delays currentTry totalDelay, .pods listing =>
    match retryTurn delays currentTry totalDelay
        (selectActiveJobPod cfg.jobPodSelector r.setOfPodsAlreadyProcessed listing) with
    | .done (.ok podName) =>
      some { r with
        pc := .waitContainer podName
        setOfPodsAlreadyProcessed := setInsert r.setOfPodsAlreadyProcessed podName
        log := r.log ++ [.listPods, .podAcquired podName] }
    | .done (.error e) => some (r.emit (.returned (.error e.error)) [.listPods])
    | .again delay rest currentTry' totalDelay' =>
      some (r.emit (.listPods rest currentTry' totalDelay') [.listPods, .sleep delay])
  | .waitContainer pod, .containerWait .forceCancel =>
    some (r.emit (.abortStatus pod) [.cancelArmWon pod])
  | .waitContainer pod, .containerWait (.watched (.ok snapshot)) =>
    if jobPodContainerStatusIsTerminated snapshot cfg.kubeName then
      some (r.emit (.abortStatus pod) [.containerTerminated pod snapshot])
    else none
  | .waitContainer pod, .containerWait (.watched (.error _)) =>
    some (r.emit (.abortStatus pod) [.containerWatchFailed pod])
  | .abortStatus pod, .abortStatus shouldForceCancel =>
    if shouldForceCancel then
      match cfg.lifecycleJobSelectors with
      | [] => some (r.emit (.getOutput pod) [.forceCancelObserved])
      | selectors => some (r.emit (.deleteLifecycleJobs pod selectors) [.forceCancelObserved])
    else some (r.emit (.getOutput pod) [])
  | .deleteLifecycleJobs pod (selector :: rest), .deleteJob ok =>
    if ok then some (r.emit (.returned (.error .taskCancellationRequested)) [.deleteJob selector])
    else
      match rest with
      | [] => some (r.emit (.getOutput pod) [.deleteJob selector])
      | rest => some (r.emit (.deleteLifecycleJobs pod rest) [.deleteJob selector])
  | .getOutput pod, .output result =>
    some (r.emit (.touchTerminate pod)
      (.readOutput pod result.toOption :: outputEvents (cfg.upperCasedOutput r.outputReads) result))
  | .touchTerminate pod, .exec ok =>
    if ok then some (r.emit (.getJob pod) [.touchTerminate pod])
    else some (r.emit (.returned (.error (.jobError
      ("Cannot create terminate file inside waiting container for pod " ++ pod))))
      [.touchTerminate pod])
  | .getJob pod, .job (.ok ()) => some (r.emit (.waitJob pod) [.getJob])
  | .getJob _, .job (.error err) =>
    some (r.emit (.returned (.error (.jobError ("Cannot get job " ++ cfg.kubeName ++ ": " ++ err))))
      [.getJob])
  | .waitJob pod, .jobWait (.error _) =>
    some (r.emit (.returned (.error (.jobError ("Cannot find job for terminated pod " ++ pod)))) [])
  | .waitJob _, .jobWait (.ok ret) =>
    if isJobTerminated ret then some (r.classify cfg (jobStatus ret)) else none
  | _, _ => none

/-- A run: the replies to the successive calls, while each is one the call can return. -/
def runRunner (cfg : RunJobConfig) : Runner → List Reply → Option Runner
  | r, [] => some r
  | r, reply :: replies => (runnerStep cfg r reply).bind fun r' => runRunner cfg r' replies

@[simp] theorem Runner.emit_pc (r : Runner) (pc : Pc) (es : List Event) : (r.emit pc es).pc = pc :=
  rfl

@[simp] theorem Runner.emit_log (r : Runner) (pc : Pc) (es : List Event) :
    (r.emit pc es).log = r.log ++ es := rfl

@[simp] theorem Runner.emit_setOfPodsAlreadyProcessed (r : Runner) (pc : Pc) (es : List Event) :
    (r.emit pc es).setOfPodsAlreadyProcessed = r.setOfPodsAlreadyProcessed := rfl

@[simp] theorem Runner.emit_jobCreationIterations (r : Runner) (pc : Pc) (es : List Event) :
    (r.emit pc es).jobCreationIterations = r.jobCreationIterations := rfl

@[simp] theorem Runner.startIteration_pc (cfg : RunJobConfig) (r : Runner) :
    (r.startIteration cfg).pc = .listPods (podRetryDelays cfg.maxDurationSecs) 1 0 := rfl

@[simp] theorem Runner.startIteration_log (cfg : RunJobConfig) (r : Runner) :
    (r.startIteration cfg).log = r.log ++ [.iteration] := rfl

@[simp] theorem Runner.startIteration_setOfPodsAlreadyProcessed (cfg : RunJobConfig) (r : Runner) :
    (r.startIteration cfg).setOfPodsAlreadyProcessed = r.setOfPodsAlreadyProcessed := rfl

@[simp] theorem Runner.startIteration_jobCreationIterations (cfg : RunJobConfig) (r : Runner) :
    (r.startIteration cfg).jobCreationIterations = r.jobCreationIterations := rfl

@[simp] theorem runRunner_nil (cfg : RunJobConfig) (r : Runner) : runRunner cfg r [] = some r := rfl

theorem runRunner_cons (cfg : RunJobConfig) (r : Runner) (reply : Reply) (replies : List Reply) :
    runRunner cfg r (reply :: replies) =
      (runnerStep cfg r reply).bind fun r' => runRunner cfg r' replies := rfl

/-- A run of `xs ++ ys` is a run of `xs` followed by a run of `ys`. -/
theorem runRunner_append (cfg : RunJobConfig) (xs ys : List Reply) :
    ∀ r, runRunner cfg r (xs ++ ys) = (runRunner cfg r xs).bind fun r' => runRunner cfg r' ys := by
  induction xs with
  | nil => intro r; rfl
  | cons x xs ih =>
    intro r
    simp only [List.cons_append, runRunner_cons, ih, Option.bind_assoc]

@[simp] theorem Runner.emit_emit (r : Runner) (pc pc' : Pc) (es es' : List Event) :
    (r.emit pc es).emit pc' es' = r.emit pc' (es ++ es') := by
  simp [Runner.emit]

/-! ## Sample replies -/

/-- A job without restarts, whose container is `job`, in an environment without lifecycle jobs.
Its output maps are visited in document order, and its keys upper-cased by `toUppercase`, which
is `str::to_uppercase` on the ASCII keys of the samples. -/
def noRestartConfig : RunJobConfig :=
  ⟨"job", 0, 32, by norm_num, 60, [], toUppercase, fun _ m => m, fun _ _ => .refl _⟩

/-- The same job with one restart allowed. -/
def oneRestartConfig : RunJobConfig :=
  ⟨"job", 1, 32, by norm_num, 60, [], toUppercase, fun _ m => m, fun _ _ => .refl _⟩

/-- A pod of the job with both of its containers running. -/
def runningPod (name : String) : Pod :=
  ⟨name, some ⟨some "Running", some [⟨"job", some ⟨true, false⟩⟩,
    ⟨"qovery-wait-container-output", some ⟨true, false⟩⟩]⟩⟩

/-- The same pod once its job container `job` has terminated. -/
def jobContainerDone (name : String) : Pod :=
  ⟨name, some ⟨some "Running", some [⟨"job", some ⟨false, true⟩⟩,
    ⟨"qovery-wait-container-output", some ⟨true, false⟩⟩]⟩⟩

/-- The replies of one attempt of the job `job` on the pod `name` that writes the output `json`,
from the pod list to the Job snapshot `ret` the Job-level wait returns. -/
def attemptReplies (name json : String) (ret : K8sJob) : List Reply :=
  [.pods (.ok [runningPod name]), .containerWait (.watched (.ok (some (jobContainerDone name)))),
    .abortStatus false, .output (.ok json), .exec true, .job (.ok ()), .jobWait (.ok (some ret))]

end QoveryEngine
