import QoveryEngine.Runner

/-!
# `run_job` against the Kubernetes Job controller

The Job controller is not part of the engine; it is modelled as the engine's specification
describes it. Once the Job exists, it runs attempts 1, 2, ... as distinct pods of the Job,
starting the next one only after the previous one failed. Each attempt ends `Succeeded` or
`Failed`, and the controller counts each terminated pod in the Job's `status.succeeded` or
`status.failed` some time after the pod terminated. A pod terminates once its job container has
exited and its output sidecar has been released by the terminate file.

The closed system runs the runner of the one-shot path (`runnerStep`) against that cluster: the
cluster answers each call of the runner, and the moves of the runner and of the controller
interleave in any order. A forced cancellation and the failures of the calls are left to the
open model; here every call goes through, and the container watch returns only once the job
container has exited.
-/

namespace QoveryEngine

/-- The pod the controller started for one attempt. -/
structure AttemptPod where
  /-- `metadata.name`: the pod's name. -/
  name : String
  /-- The attempt's outcome: its job container exits successfully. -/
  succeeds : Bool
  /-- The job container has exited. -/
  jobExited : Bool
  /-- The terminate file was written, so the output sidecar has exited. -/
  released : Bool
  /-- The controller has counted the pod in the Job's status. -/
  recorded : Bool
  deriving DecidableEq, Repr

/-- Both containers have exited: the pod has terminated. -/
def AttemptPod.terminated (p : AttemptPod) : Bool := p.jobExited && p.released

/-- The pod's phase. -/
def AttemptPod.phase (p : AttemptPod) : String :=
  if p.terminated then (if p.succeeds then "Succeeded" else "Failed") else "Running"

/-- The pod as the API shows it: its phase, its job container and its output sidecar. -/
def AttemptPod.snapshot (jobContainerName : String) (p : AttemptPod) : Pod :=
  ⟨p.name, some ⟨some p.phase, some [⟨jobContainerName, some ⟨!p.jobExited, p.jobExited⟩⟩,
    ⟨"qovery-wait-container-output", some ⟨!p.released, p.released⟩⟩]⟩⟩

/-- The Job and its pods. -/
structure Cluster where
  /-- The outcome of each attempt the controller may run, in order. -/
  outcomes : List Bool
  /-- `helm.on_create` has created the Job. -/
  jobCreated : Bool
  /-- The pods started, oldest first. -/
  pods : List AttemptPod
  /-- `status.succeeded`, as counted so far. -/
  succeeded : Nat
  /-- `status.failed`, as counted so far. -/
  failed : Nat
  deriving DecidableEq, Repr

/-- Before `helm.on_create`, with the attempts' outcomes fixed. -/
def Cluster.init (outcomes : List Bool) : Cluster := ⟨outcomes, false, [], 0, 0⟩

/-- The Job as the API shows it: a counter is absent until it is nonzero. -/
def Cluster.jobSnapshot (c : Cluster) : K8sJob :=
  ⟨some ⟨if c.succeeded = 0 then none else some c.succeeded,
    if c.failed = 0 then none else some c.failed, none⟩⟩

/-- The moves of the Job controller and of the pods. -/
inductive ControllerMove
  /-- The controller starts the pod of the next attempt. -/
  | startPod
  /-- The job container of the `i`-th pod exits. -/
  | exitJobContainer (i : Nat)
  /-- The controller counts the terminated `i`-th pod in the Job's status. -/
  | record (i : Nat)
  deriving DecidableEq, Repr

/-- The next attempt can start: the Job exists, attempts are left, and every pod so far has
failed. -/
def Cluster.canStartPod (c : Cluster) : Bool :=
  c.jobCreated && decide (c.pods.length < c.outcomes.length) &&
    c.pods.all fun p => p.terminated && !p.succeeds

/-- One move of the controller or of a pod, when it can happen. -/
def Cluster.controllerStep (c : Cluster) : ControllerMove → Option Cluster
  | .startPod =>
    if c.canStartPod then
      some { c with pods := c.pods ++ [⟨"job-" ++ toString (c.pods.length + 1),
        c.outcomes.getD c.pods.length false, false, false, false⟩] }
    else none
  | .exitJobContainer i =>
    match c.pods[i]? with
    | some p => if p.jobExited then none else some { c with pods := c.pods.set i { p with jobExited := true } }
    | none => none
  | .record i =>
    match c.pods[i]? with
    | some p =>
      if p.terminated && !p.recorded then
        some { c with
          pods := c.pods.set i { p with recorded := true }
          succeeded := c.succeeded + if p.succeeds then 1 else 0
          failed := c.failed + if p.succeeds then 0 else 1 }
      else none
    | none => none

/-- The cluster's reply to the runner's next call, when it has one. The Job-level wait returns
the Job as it is; `runnerStep` takes it only once `is_job_terminated` holds of it. -/
def Cluster.reply (cfg : RunJobConfig) (c : Cluster) : Pc → Option Reply
  | .helmDelete => some (.helm (.ok ()))
  | .helmCreate => some (.helm (.ok ()))
  | .listPods .. => some (.pods (.ok (c.pods.map (AttemptPod.snapshot cfg.kubeName))))
  | .waitContainer pod =>
    (c.pods.find? (·.name = pod)).bind fun p =>
      if p.jobExited then some (.containerWait (.watched (.ok (some (p.snapshot cfg.kubeName)))))
      else none
  | .abortStatus _ => some (.abortStatus false)
  | .deleteLifecycleJobs .. => none
  | .getOutput _ => some (.output (.ok "\x7b\x7d"))
  | .touchTerminate _ => some (.exec true)
  | .getJob _ => some (.job (.ok ()))
  | .waitJob _ => some (.jobWait (.ok (some c.jobSnapshot)))
  | .returned _ => none
  | .panicked => none

/-- What the runner's call does to the cluster: `helm.on_create` creates the Job, and the
terminate exec releases the pod's output sidecar. -/
def Cluster.afterCall (c : Cluster) : Pc → Cluster
  | .helmCreate => { c with jobCreated := true }
  | .touchTerminate pod =>
    { c with pods := c.pods.map fun p => if p.name = pod then { p with released := true } else p }
  | _ => c

/-- The runner and the cluster. -/
structure JobSystem where
  /-- The runner of the one-shot path. -/
  runner : Runner
  /-- The Job and its pods. -/
  cluster : Cluster
  deriving DecidableEq, Repr

/-- Who moves next. -/
inductive Move
  /-- The runner makes its next call, and takes the cluster's reply. -/
  | runner
  /-- The controller or a pod moves. -/
  | controller (move : ControllerMove)
  deriving DecidableEq, Repr

/-- One move of the closed system. -/
def JobSystem.step (cfg : RunJobConfig) (s : JobSystem) : Move → Option JobSystem
  | .runner =>
    (s.cluster.reply cfg s.runner.pc).bind fun reply =>
      (runnerStep cfg s.runner reply).map fun r => ⟨r, s.cluster.afterCall s.runner.pc⟩
  | .controller move => (s.cluster.controllerStep move).map fun c => { s with cluster := c }

/-- An interleaving: the moves in order, while each can happen. -/
def JobSystem.run (cfg : RunJobConfig) : JobSystem → List Move → Option JobSystem
  | s, [] => some s
  | s, move :: moves => (s.step cfg move).bind fun s' => JobSystem.run cfg s' moves

/-- The runner before its first call, and the cluster before the Job exists. -/
def JobSystem.init (outcomes : List Bool) : JobSystem := ⟨Runner.init, Cluster.init outcomes⟩

/-- One attempt of the runner on the `i`-th pod, from the pod list to the Job-level wait, with the
job container exiting once the pod is acquired. -/
def attemptMoves (i : Nat) : List Move :=
  [.runner, .controller (.exitJobContainer i), .runner, .runner, .runner, .runner]

/-- Attempt 1 fails and is counted before the runner reads the Job; attempt 2 succeeds, and the
runner reads the Job before the controller counts it. -/
def staleCounterMoves : List Move :=
  [.runner, .runner, .controller .startPod] ++ attemptMoves 0 ++
    [.controller (.record 0), .runner, .runner, .controller .startPod] ++ attemptMoves 1 ++
    [.runner, .runner]

/-- With one restart allowed, attempt 1 failing and attempt 2 succeeding, the interleaving
`staleCounterMoves` makes `run_job` return the job-failure error: at attempt 2 the Job still
shows `failed` from attempt 1 and not yet `succeeded`, and `job_status` classifies it as a
failure. -/
theorem run_job_fails_after_succeeded_attempt :
    ∃ s, JobSystem.run oneRestartConfig (JobSystem.init [false, true]) staleCounterMoves = some s ∧
      s.runner.pc = .returned (.error (jobFailedError "" "")) ∧
      s.cluster.pods.map AttemptPod.phase = ["Failed", "Succeeded"] ∧
      s.runner.setOfPodsAlreadyProcessed = ["job-1", "job-2"] :=
  ⟨_, rfl, rfl, rfl, rfl⟩

end QoveryEngine
