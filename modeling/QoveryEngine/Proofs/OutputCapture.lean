import QoveryEngine.Runner

/-!
# Proofs: the output capture of `run_job`

Each attempt reads the pod's JSON output, forwards what `serialize_job_output` accepts to the
reporter, and then writes the terminate file that lets the output sidecar exit. The step that
reads the output is the only one that logs an output event, so what the reporter receives over a
whole run is exactly the accepted outputs of the reads, in order: the Job-level classification
that comes later in the attempt plays no part in it.

The container wait that precedes the read is a `select!` whose watch arm drops its `Result`: a
watch that ends with an error lets the read, and the terminate write, go ahead on a pod whose job
container is still running.
-/

namespace QoveryEngine

/-- The events of the output read: the read itself, the configuration, the warning. -/
def Event.IsOutput : Event → Bool
  | .readOutput .. => true
  | .configuration _ => true
  | .outputWarning => true
  | _ => false

/-- The map a configuration event forwards. -/
def Event.forwarded : Event → Option (List (String × JobOutputVariable))
  | .configuration output => some output
  | _ => none

/-- What is forwarded for the `n`-th output read (from 0): the map of an output
`serialize_job_output` accepts, visited in that read's order and upper-cased. -/
def forwardedOutput (cfg : RunJobConfig) (n : Nat) (json : Option String) :
    Option (List (String × JobOutputVariable)) :=
  json.bind fun json => (serializeJobOutput json).toOption.map (cfg.upperCasedOutput n)

/-- What is forwarded for the output reads `jsons`, the first of them the `n`-th. -/
def forwardedOutputs (cfg : RunJobConfig) : Nat → List (Option String) →
    List (List (String × JobOutputVariable))
  | _, [] => []
  | n, json :: jsons => (forwardedOutput cfg n json).toList ++ forwardedOutputs cfg (n + 1) jsons

theorem forwardedOutputs_append (cfg : RunJobConfig) (xs ys : List (Option String)) :
    ∀ n, forwardedOutputs cfg n (xs ++ ys) =
      forwardedOutputs cfg n xs ++ forwardedOutputs cfg (n + xs.length) ys := by
  induction xs with
  | nil => intro n; rfl
  | cons x xs ih =>
    intro n
    rw [List.cons_append, forwardedOutputs, forwardedOutputs, ih, List.append_assoc,
      List.length_cons, Nat.add_right_comm, Nat.add_assoc]

/-- In `events`, whose output reads are the `n`-th on, the configurations forwarded are the
forwarded outputs of the reads. -/
def ForwardsReads (cfg : RunJobConfig) (n : Nat) (events : List Event) : Prop :=
  events.filterMap Event.forwarded = forwardedOutputs cfg n (events.filterMap Event.outputRead)

theorem ForwardsReads.append {cfg : RunJobConfig} {n : Nat} {l₁ l₂ : List Event}
    (h₁ : ForwardsReads cfg n l₁)
    (h₂ : ForwardsReads cfg (n + (l₁.filterMap Event.outputRead).length) l₂) :
    ForwardsReads cfg n (l₁ ++ l₂) := by
  simp only [ForwardsReads, List.filterMap_append, forwardedOutputs_append] at *
  rw [h₁, h₂]

theorem forwardsReads_of_not_isOutput {cfg : RunJobConfig} {n : Nat} {events : List Event}
    (h : events.all (fun e => !e.IsOutput) = true) : ForwardsReads cfg n events := by
  have hnil : ∀ e ∈ events, e.forwarded = none ∧ e.outputRead = none := fun e he => by
    have := List.all_eq_true.mp h e he
    cases e <;> first | exact ⟨rfl, rfl⟩ | cases this
  simp only [ForwardsReads, List.filterMap_eq_nil_iff.mpr fun e he => (hnil e he).1,
    List.filterMap_eq_nil_iff.mpr fun e he => (hnil e he).2, forwardedOutputs]

theorem forwardsReads_outputEvents (cfg : RunJobConfig) (n : Nat) (pod : String)
    (result : Except String String) :
    ForwardsReads cfg n
      (.readOutput pod result.toOption :: outputEvents (cfg.upperCasedOutput n) result) := by
  rcases result with _ | json
  · rfl
  · cases h : serializeJobOutput json <;>
      simp [ForwardsReads, outputEvents, h, Event.forwarded, Event.outputRead, forwardedOutput,
        forwardedOutputs, Except.toOption]

variable {cfg : RunJobConfig} {r r' : Runner} {reply : Reply}

/-- What one step logs about outputs: nothing, unless the step is the output read, which logs
the read and what became of its output. -/
theorem runnerStep_output_events (h : runnerStep cfg r reply = some r') :
    ∃ events, r'.log = r.log ++ events ∧
      (events.all (fun e => !e.IsOutput) = true ∨
        ∃ pod result, r.pc = .getOutput pod ∧ r'.pc = .touchTerminate pod ∧
          events = .readOutput pod (Except.toOption result) ::
            outputEvents (cfg.upperCasedOutput r.outputReads) result) := by
  unfold runnerStep Runner.classify at h
  repeat' split at h
  all_goals first
    | (cases h; done)
    | (simp only [Option.some.injEq] at h; subst h
       first
        | exact ⟨_, rfl, .inr ⟨_, _, ‹_›, rfl, rfl⟩⟩
        | exact ⟨_, rfl, .inl rfl⟩
        | exact ⟨_, List.append_assoc _ _ _, .inl rfl⟩)

theorem runnerStep_forwardsReads (h : runnerStep cfg r reply = some r') :
    ∃ events, r'.log = r.log ++ events ∧ ForwardsReads cfg r.outputReads events := by
  obtain ⟨events, hlog, hquiet | ⟨pod, result, -, -, rfl⟩⟩ := runnerStep_output_events h
  · exact ⟨events, hlog, forwardsReads_of_not_isOutput hquiet⟩
  · exact ⟨_, hlog, forwardsReads_outputEvents cfg _ pod result⟩

theorem forwardsReads_run (cfg : RunJobConfig) :
    ∀ (replies : List Reply) (r r' : Runner), ForwardsReads cfg 0 r.log →
      runRunner cfg r replies = some r' → ForwardsReads cfg 0 r'.log
  | [], r, r', hr, h => by cases h; exact hr
  | reply :: replies, r, r', hr, h => by
    rw [runRunner_cons, Option.bind_eq_some] at h
    obtain ⟨r₁, h₁, h₂⟩ := h
    obtain ⟨events, hlog, hev⟩ := runnerStep_forwardsReads h₁
    refine forwardsReads_run cfg replies r₁ r' (hlog ▸ hr.append ?_) h₂
    rwa [Nat.zero_add]

/-- **What the reporter receives.** In every run of the one-shot path, the maps passed to
`logger.core_configuration_for_job` are, in order, the maps of the outputs read that
`serialize_job_output` accepts, each visited in the order its read's `HashMap` gives and
collected under `str::to_uppercase` of its keys: one for each such read, in every attempt,
whatever `job_status` then says of the attempt. -/
theorem run_job_forwards_every_accepted_output (cfg : RunJobConfig) (replies : List Reply)
    (r : Runner) (h : runRunner cfg Runner.init replies = some r) :
    r.log.filterMap Event.forwarded = forwardedOutputs cfg 0 (r.log.filterMap Event.outputRead) :=
  forwardsReads_run cfg replies Runner.init r rfl h

/-- The output an attempt of the job writes: one variable `a` with the value `x`. -/
def oneVariableOutput : String := "\x7b\"a\":\x7b\"value\":\"x\"\x7d\x7d"

/-- The replies of a run whose only attempt writes `oneVariableOutput` and whose Job then
fails. -/
def failedAttemptReplies : List Reply :=
  [.helm (.ok ()), .helm (.ok ())] ++
    attemptReplies "job-1" oneVariableOutput ⟨some ⟨none, some 1, none⟩⟩

theorem run_job_forwards_every_accepted_output_failed_attempt :
    ∃ r, runRunner noRestartConfig Runner.init failedAttemptReplies = some r ∧
      r.log.filterMap Event.forwarded = [[("A", ⟨"x", false, ""⟩)]] ∧
      r.pc = .returned (.error (jobFailedError "" "")) :=
  have h : runRunner noRestartConfig Runner.init failedAttemptReplies = some _ := rfl
  ⟨_, h, (run_job_forwards_every_accepted_output _ _ _ h).trans (by decide), rfl⟩

/-- A run that returns the job-failure error after forwarding the output of its failed attempt
to the reporter. -/
theorem run_job_forwards_failed_attempt_output :
    ∃ r, runRunner noRestartConfig Runner.init failedAttemptReplies = some r ∧
      r.pc = .returned (.error (jobFailedError "" "")) ∧
      Event.configuration [("A", ⟨"x", false, ""⟩)] ∈ r.log :=
  ⟨_, rfl, rfl, by decide⟩

/-- A run whose container watch ends with an error while the job container of the pod is still
running. -/
def watchErrorReplies : List Reply :=
  [.helm (.ok ()), .helm (.ok ()), .pods (.ok [runningPod "job-1"]),
    .containerWait (.watched (.error "watch stream terminated")), .abortStatus false,
    .output (.ok "\x7b\x7d"), .exec true]

/-- After a container watch that ends with an error, the runner reads the output of the pod and
writes its terminate file although no snapshot of the pod with a terminated job container was
ever observed: the last one listed shows the job container running. -/
theorem output_read_after_container_watch_error :
    jobPodContainerStatusIsTerminated (some (runningPod "job-1")) noRestartConfig.kubeName = false ∧
    ∃ r, runRunner noRestartConfig Runner.init watchErrorReplies = some r ∧
      r.pc = .getJob "job-1" ∧
      Event.readOutput "job-1" (some "\x7b\x7d") ∈ r.log ∧ Event.touchTerminate "job-1" ∈ r.log ∧
      ∀ snapshot, Event.containerTerminated "job-1" snapshot ∉ r.log :=
  have hout : ∀ forward, outputEvents forward (.ok "\x7b\x7d") = [.configuration (forward [])] :=
    fun _ => by simp [outputEvents, show serializeJobOutput "\x7b\x7d" = .ok [] by decide]
  ⟨rfl, _, rfl, rfl, by decide, by decide, fun _ => by simp [Runner.init, hout]⟩

end QoveryEngine
