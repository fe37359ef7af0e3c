import QoveryEngine.Json

/-!
# Kubernetes objects as the job runner reads them

The errors the runner raises, the fields of `Pod` and `Job` snapshots that `deploy_job.rs`
inspects, and the three predicates over them: `job_status` (the closed `JobStatus` classification of a Job snapshot),
`is_job_terminated` (the wait condition on the Job) and `job_pod_container_status_is_terminated`
(the wait condition on one container of a pod).

A variant of a Kubernetes union (`ContainerState.running`, `.terminated`) is kept as the `Bool`
the code tests it with (`is_some()`); the counters of a Job status are natural numbers, of which
the code only tests whether they are set.
-/

namespace QoveryEngine

/-- `ContainerState`: which of its variants the API reports. -/
structure ContainerState where
  /-- `running.is_some()`: whether the container is running. -/
  running : Bool
  /-- `terminated.is_some()`: whether the container has terminated. -/
  terminated : Bool
  deriving DecidableEq, Repr

/-- One entry of `PodStatus.container_statuses`. -/
structure ContainerStatus where
  /-- The container's name. -/
  name : String
  /-- `state`, absent while the kubelet has not reported it. -/
  state : Option ContainerState
  deriving DecidableEq, Repr

/-- `PodStatus`: the phase and the container statuses. -/
structure PodStatus where
  /-- `phase` (`Pending`, `Running`, `Succeeded`, `Failed`, `Unknown`). -/
  phase : Option String
  /-- `container_statuses`: the state of each of the pod's containers, once reported. -/
  containerStatuses : Option (List ContainerStatus)
  deriving DecidableEq, Repr

/-- A pod snapshot. Listed and watched pods always carry `metadata.name`. -/
structure Pod where
  /-- `metadata.name`: the pod's name. -/
  name : String
  /-- `status`: what the API reports of the object, once it reports it. -/
  status : Option PodStatus
  deriving DecidableEq, Repr

/-- One entry of `JobStatus.conditions` (Kubernetes' `JobCondition`). -/
structure JobCondition where
  /-- `type_`, such as `Complete` or `Failed`. -/
  type : String
  /-- `reason`: a one-word cause of the condition, such as `BackoffLimitExceeded`. -/
  reason : Option String
  /-- `message`: a human-readable account of the condition. -/
  message : Option String
  deriving DecidableEq, Repr, Inhabited

/-- The status of a Kubernetes Job: its pod counters and conditions. -/
structure K8sJobStatus where
  /-- `succeeded`: the number of pods that reached phase `Succeeded`, once one did. -/
  succeeded : Option Nat
  /-- `failed`: the number of pods that reached phase `Failed`, once one did. -/
  failed : Option Nat
  /-- `conditions`: the Job's conditions, once it has one. -/
  conditions : Option (List JobCondition)
  deriving DecidableEq, Repr

/-- A Kubernetes Job snapshot (`k8s_openapi::api::batch::v1::Job`). -/
structure K8sJob where
  /-- `status`: what the API reports of the object, once it reports it. -/
  status : Option K8sJobStatus
  deriving DecidableEq, Repr

/-- The `EngineError`s the job runner raises. -/
inductive EngineError
  /-- `EngineError::new_job_error` with its message. -/
  | jobError (message : String)
  /-- `EngineError::new_task_cancellation_requested`: the user cancelled the deployment. -/
  | taskCancellationRequested
  deriving DecidableEq, Repr

/-- The engine's `JobStatus`. -/
inductive JobStatus
  | notRunning
  | running
  | success
  | failure (reason message : String)
  deriving DecidableEq, Repr

/-- `job_status`: a present Job with `succeeded` set is a success, one with `failed` set a failure
carrying the reason and message of its first `Failed` condition, any other present Job is running,
and an absent one is not running. -/
def jobStatus : Option K8sJob → JobStatus
  | none => .notRunning
  | some job =>
    match job.status with
    | none => .running
    | some status =>
      if status.succeeded.isSome then .success
      else if status.failed.isSome then
        let condition := ((status.conditions.bind fun conds =>
          conds.find? fun c => c.type == "Failed")).getD default
        .failure (condition.reason.getD "") (condition.message.getD "")
      else .running

/-- `is_job_terminated`: the Job-level wait condition. -/
def isJobTerminated (job : Option K8sJob) : Bool :=
  match jobStatus job with
  | .notRunning => false
  | .running => false
  | .success => true
  | .failure .. => true

/-- `job_pod_container_status_is_terminated`: some status of the container named
`jobContainerName` reports the `terminated` state. -/
def jobPodContainerStatusIsTerminated (jobPod : Option Pod) (jobContainerName : String) : Bool :=
  match jobPod with
  | none => false
  | some pod =>
    match pod.status with
    | none => false
    | some podStatus =>
      match podStatus.containerStatuses with
      | none => false
      | some podContainerStatuses =>
        ((podContainerStatuses.filter fun cs => cs.name == jobContainerName).filterMap
          ContainerStatus.state).any ContainerState.terminated

@[simp] theorem jobStatus_none : jobStatus none = .notRunning := rfl

theorem jobStatus_succeeded {job : K8sJob} {status : K8sJobStatus} (hs : job.status = some status)
    (h : status.succeeded.isSome) : jobStatus (some job) = .success := by
  simp [jobStatus, hs, h]

/-- The Job-level wait condition holds exactly on the snapshots `job_status` classifies as a
success or a failure. -/
theorem isJobTerminated_iff (job : Option K8sJob) :
    isJobTerminated job = true ↔
      jobStatus job = .success ∨ ∃ reason message, jobStatus job = .failure reason message := by
  unfold isJobTerminated
  split <;> simp_all

/-- A Job snapshot on which the wait condition holds is classified as a success or a failure,
never as `NotRunning` or `Running`: the `unreachable!()` arm of `run_job` is unreachable. -/
theorem jobStatus_of_isJobTerminated {job : Option K8sJob} (h : isJobTerminated job = true) :
    jobStatus job ≠ .notRunning ∧ jobStatus job ≠ .running := by
  rcases (isJobTerminated_iff job).mp h with h | ⟨r, m, h⟩ <;> simp [h]

end QoveryEngine
