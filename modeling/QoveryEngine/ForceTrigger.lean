import QoveryEngine.Runner

/-!
# The force-trigger path of `run_job`

For a cron job that is force-triggered, `run_job` notes whether the CronJob is installed (a
first `get` that succeeds), installs it with `helm.on_create`, reads it back, creates a Job from
its template under the name `<kube name>-force-trigger`, waits up to 3800 s for that Job, and
uninstalls the CronJob when the first `get` had failed. The calls' `?` return at once on an
error, and the `expect`s panic on a CronJob without a template.

The path is a function of the calls' replies and of whether the CronJob is installed when it
starts; it returns how the path ended and whether the CronJob is installed then. A `get` answers
only for an installed CronJob, but may fail for one that is.
-/

namespace QoveryEngine

/-- The job template of a `CronJob`, as the path reads it. -/
structure JobTemplate where
  /-- `metadata.is_some()`: whether the template has its metadata. -/
  hasMetadata : Bool
  /-- `spec.is_some()`: whether the template has its spec. -/
  hasSpec : Bool
  deriving DecidableEq, Repr

/-- A `CronJob` snapshot: the job template of its `spec`, when the spec is there. -/
structure CronJob where
  /-- `spec.map(|s| s.job_template)`: the job template, when the `CronJob` has a spec. -/
  spec : Option JobTemplate
  deriving DecidableEq, Repr

/-- How the `timeout(3800 s, await_condition(...))` at lines 428-443 ended. -/
inductive TriggeredJobWait
  /-- `Ok(Ok(job))`: the Job satisfied `is_job_terminated`, or was deleted. -/
  | terminated (job : Option K8sJob)
  /-- `Ok(Err(_))`: the watch failed. -/
  | failed
  /-- `Err(_)`: the 3800 s elapsed. -/
  | timedOut
  deriving DecidableEq, Repr

/-- The replies to the calls of the force-trigger path. -/
structure ForceTriggerReplies where
  /-- `k8s_cronjob_api.get` at line 391. -/
  firstGet : Except String CronJob
  /-- `helm.on_create`: the result of installing the job's chart. -/
  onCreate : Except EngineError Unit
  /-- `k8s_cronjob_api.get` at line 398. -/
  secondGet : Except String CronJob
  /-- `k8s_job_api.create` at line 423. -/
  jobCreate : Except String Unit
  /-- The wait for the created Job. -/
  jobWait : TriggeredJobWait
  /-- `helm.on_delete` at line 462. -/
  onDelete : Except EngineError Unit
  deriving DecidableEq, Repr

/-- How the path ended. -/
inductive PathEnd
  /-- `run_job` returned this result. -/
  | returned (result : Except EngineError Unit)
  /-- An `expect` panicked with this message. -/
  | panicked (message : String)
  deriving DecidableEq, Repr

/-- `job_name`: the first 49 characters of the kube name, then `-force-trigger`. -/
def forceTriggerJobName (kubeName : String) : String :=
  String.mk (kubeName.data.take (63 - 14)) ++ "-force-trigger"

/-- The `async` block of lines 428-443: the status of the Job, `Running` when the wait timed
out, an error when the watch failed. -/
def triggeredJobStatus : TriggeredJobWait → Except Unit JobStatus
  | .terminated job => .ok (jobStatus job)
  | .failed => .error ()
  | .timedOut => .ok .running

/-- `cronjob_result`: success, and a Job still running after the wait, are `Ok`. -/
def cronjobResult : JobStatus → Except EngineError Unit
  | .success => .ok ()
  | .running => .ok ()
  | .notRunning =>
    .error (.jobError "Job failed to correctly run due to `NotRunning`. This should not happen")
  | .failure reason message => .error (jobFailedError reason message)

/-- Lines 387-465. -/
def forceTrigger (kubeName : String) (replies : ForceTriggerReplies) (installed : Bool) :
    PathEnd × Bool :=
  let cronjobIsAlreadyInstalled := match replies.firstGet with
    | .ok _ => true
    | .error _ => false
  match replies.onCreate with
  | .error e => (.returned (.error e), installed)
  | .ok () =>
    match replies.secondGet with
    | .error err => (.returned (.error (.jobError ("Cannot get cronjob " ++ kubeName ++ ": " ++ err))), true)
    | .ok cronjob =>
      match cronjob.spec with
      | none => (.panicked "Cronjob should have a job_template", true)
      | some jobTemplate =>
        if !jobTemplate.hasSpec then (.panicked "job_template should be editable", true)
        else if !jobTemplate.hasMetadata then (.panicked "job_template should have metadata", true)
        else
          match replies.jobCreate with
          | .error err =>
            (.returned (.error (.jobError ("Cannot create job from cronjob: " ++ err))), true)
          | .ok () =>
            match triggeredJobStatus replies.jobWait with
            | .error () =>
              (.returned (.error (.jobError "Cannot find job for terminated pod")), true)
            | .ok status =>
              if !cronjobIsAlreadyInstalled then
                match replies.onDelete with
                | .error e => (.returned (.error e), true)
                | .ok () => (.returned (cronjobResult status), false)
              else (.returned (cronjobResult status), true)

/-- A `CronJob` whose template has its metadata and spec. -/
def completeCronJob : CronJob := ⟨some ⟨true, true⟩⟩

/-- After a successful `helm.on_create`, the path ends with the CronJob uninstalled exactly when
its first `get` failed and every later call went through: whether the CronJob was installed
before does not matter. -/
theorem forceTrigger_uninstalled_iff (kubeName : String) (replies : ForceTriggerReplies)
    (installed : Bool) (h : replies.onCreate = .ok ()) :
    (forceTrigger kubeName replies installed).2 = false ↔
      (∃ e, replies.firstGet = .error e) ∧ replies.secondGet = .ok completeCronJob ∧
        replies.jobCreate = .ok () ∧ replies.jobWait ≠ .failed ∧ replies.onDelete = .ok () := by
  obtain ⟨firstGet, onCreate, secondGet, jobCreate, jobWait, onDelete⟩ := replies
  subst h
  -- the exits before the Job create leave the CronJob installed
  rcases secondGet with _ | ⟨_ | ⟨_ | _, _ | _⟩⟩ <;> try (simp [forceTrigger, completeCronJob]; done)
  rcases jobCreate with _ | _
  · simp [forceTrigger]
  rcases jobWait with _ | _ | _
  all_goals rcases firstGet with _ | _ <;> rcases onDelete with _ | _ <;>
    simp [forceTrigger, triggeredJobStatus, completeCronJob]

/-- Two runs of the path after a successful `helm.on_create` that end with the CronJob's
installation changed. A CronJob installed only for the trigger stays installed when the second
`get` fails. A CronJob that was installed, but whose first `get` failed, is uninstalled at the
end of a successful trigger. -/
theorem force_trigger_changes_cronjob_installation :
    forceTrigger "job" ⟨.error "cronjobs.batch \"job\" not found", .ok (), .error "connection reset",
        .ok (), .timedOut, .ok ()⟩ false =
      (.returned (.error (.jobError "Cannot get cronjob job: connection reset")), true) ∧
    forceTrigger "job" ⟨.error "connection reset", .ok (), .ok completeCronJob, .ok (),
        .terminated (some ⟨some ⟨some 1, none, none⟩⟩), .ok ()⟩ true =
      (.returned (.ok ()), false) :=
  ⟨rfl, rfl⟩

end QoveryEngine
