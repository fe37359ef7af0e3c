import QoveryEngine.Kube
import QoveryEngine.Retry

/-!
# `get_active_job_pod_by_selector`

The runner finds the pod of the current attempt by listing the pods of the Job's label selector
and retrying, every 10 s and at most `min(30, max_duration / 10)` times, until one listing shows
no pending pod, exactly one pod with a running container, and that pod not yet processed.

The listing of attempt `i` is `podLists i`: every function from attempt numbers to listings (an
API error, or the list of pods) is a possible environment. `Duration::as_secs() as usize` is the
identity on the 64-bit targets the engine is built for, so the duration is its whole seconds.
-/

namespace QoveryEngine

/-- Modelled from the spec: the text of `KubernetesPodStatusPhase::Pending` (`crate::cmd::structs`,
not under src/), the phase `Pending`. -/
def pendingPhase : String := "Pending"

/-- `str::to_lowercase`, on ASCII letters (the only characters it can map into `"pending"`, apart
from `U+0130` and `U+212A`, whose images are not letters of that word). -/
def toLowercase (s : String) : String := ⟨s.data.map Char.toLower⟩

/-- The predicate of the `any` at line 685: the pod has a phase, and it is `Pending` up to case. -/
def isPendingPod (pod : Pod) : Bool :=
  match pod.status with
  | some podStatus =>
    match podStatus.phase with
    | some phase => toLowercase phase == toLowercase pendingPhase
    | none => false
  | none => false

/-- The `filter_map` at line 707: the pod's name when one of its containers is running. -/
def activePodName (pod : Pod) : Option String :=
  match pod.status with
  | some podStatus =>
    match podStatus.containerStatuses with
    | some podContainerStatuses =>
      if (podContainerStatuses.filterMap ContainerStatus.state).any ContainerState.running then
        some pod.name
      else none
    | none => none
  | none => none

/-- `active_job_pods`: the names of the listed pods with a running container. -/
def activeJobPods (pods : List Pod) : List String := pods.filterMap activePodName

/-- The closure given to `retry::retry`: what one listing asks the retry loop to do. -/
def selectActiveJobPod (jobPodSelector : String) (setOfPodsAlreadyProcessed : List String) :
    Except String (List Pod) → OperationResult String EngineError
  | .error _ =>
    .retry (.jobError ("Error when listing pods having label " ++ jobPodSelector ++
      " through Kube API"))
  | .ok pods =>
    if pods.isEmpty then
      .retry (.jobError ("No pod found when listing pods having label " ++ jobPodSelector))
    else if pods.any isPendingPod then
      .retry (.jobError ("Error pods having label " ++ jobPodSelector ++
        " are still pending to be scheduled"))
    else
      match activeJobPods pods with
      | [activeSelectedPodName] =>
        if activeSelectedPodName ∈ setOfPodsAlreadyProcessed then
          .retry (.jobError ("Selected pod has already been processed. Waiting for the next pod " ++
            "to be created having label " ++ jobPodSelector))
        else .ok activeSelectedPodName
      | _ => .retry (.jobError ("Cannot find active pod having label " ++ jobPodSelector))

/-- The delays of the selector's retry loop: 10 s, `min(30, max_duration / 10)` times. -/
def podRetryDelays (jobMaxDurationSecs : Nat) : List Nat :=
  fixedDelays 10000 (min 30 (jobMaxDurationSecs / 10))

/-- `get_active_job_pod_by_selector`, with the attempts and sleeps of its retry loop. -/
def getActiveJobPodBySelector (jobPodSelector : String) (setOfPodsAlreadyProcessed : List String)
    (jobMaxDurationSecs : Nat) (podLists : Nat → Except String (List Pod)) :
    Except EngineError String × List RetryEvent :=
  let run := retry (podRetryDelays jobMaxDurationSecs) fun currentTry =>
    selectActiveJobPod jobPodSelector setOfPodsAlreadyProcessed (podLists currentTry)
  (run.1.mapError RetryError.error, run.2)

/-! ## One listing -/

/-- A listing yields the pod `p`: the list call succeeded with a non-empty list, no pod of it is
pending, exactly one of its pods has a running container, that pod is `p`, and `p` has not been
processed yet. -/
def Accepts (setOfPodsAlreadyProcessed : List String) (podList : Except String (List Pod))
    (p : String) : Prop :=
  ∃ pods, podList = .ok pods ∧ pods ≠ [] ∧ (∀ pod ∈ pods, isPendingPod pod = false) ∧
    activeJobPods pods = [p] ∧ p ∉ setOfPodsAlreadyProcessed

variable {jobPodSelector : String} {processed : List String} {podList : Except String (List Pod)}

theorem selectActiveJobPod_eq_ok_iff {p : String} :
    selectActiveJobPod jobPodSelector processed podList = .ok p ↔ Accepts processed podList p := by
  cases podList with
  | error e => simp [selectActiveJobPod, Accepts]
  | ok pods =>
    simp only [selectActiveJobPod, Accepts, Except.ok.injEq, exists_eq_left']
    by_cases h1 : pods = []
    · simp [h1]
    by_cases h2 : pods.any isPendingPod = true
    · obtain ⟨pod, hm, hp⟩ := List.any_eq_true.mp h2
      simp only [List.isEmpty_eq_false.mpr h1, h2, if_true, if_false]
      exact ⟨fun h => (nomatch h), fun ⟨_, hall, _⟩ => by simp [hall pod hm] at hp⟩
    have hall : ∀ pod ∈ pods, isPendingPod pod = false := by simpa using h2
    simp only [List.isEmpty_eq_false.mpr h1, h2, if_false, Bool.false_eq_true]
    split
    · next q hq => split_ifs with h3 <;> simp_all <;> (rintro rfl; exact h3)
    · next hq => simp_all

/-- The closure never returns `OperationResult::Err`: a listing yields a pod or asks for another
attempt. -/
theorem selectActiveJobPod_ok_or_retry :
    (∃ p, selectActiveJobPod jobPodSelector processed podList = .ok p) ∨
      (selectActiveJobPod jobPodSelector processed podList).IsRetry := by
  unfold selectActiveJobPod OperationResult.IsRetry
  split
  · simp
  · split_ifs <;> (try split) <;> (try split_ifs) <;> simp

theorem selectActiveJobPod_isRetry (h : ∀ p, ¬ Accepts processed podList p) :
    (selectActiveJobPod jobPodSelector processed podList).IsRetry :=
  selectActiveJobPod_ok_or_retry.resolve_left fun ⟨p, hp⟩ =>
    h p (selectActiveJobPod_eq_ok_iff.mp hp)

/-- A listing yields at most one pod. -/
theorem Accepts.unique {p q : String} (hp : Accepts processed podList p)
    (hq : Accepts processed podList q) : p = q := by
  obtain ⟨pods, rfl, -, -, hp, -⟩ := hp
  obtain ⟨_, h, -, -, hq, -⟩ := hq
  cases h
  simpa [hp] using hq

/-! ## The retry loop -/

/-- Attempt `i` is the first whose listing yields a pod, and that pod is `p`. -/
def FirstAccepting (processed : List String) (podLists : Nat → Except String (List Pod))
    (i : Nat) (p : String) : Prop :=
  Accepts processed (podLists i) p ∧ ∀ j, 1 ≤ j → j < i → ∀ q, ¬ Accepts processed (podLists j) q

variable {podLists : Nat → Except String (List Pod)} {secs : Nat}

theorem getActiveJobPodBySelector_of_first {i : Nat} {p : String} (hi1 : 1 ≤ i)
    (hi : i ≤ min 30 (secs / 10) + 1) (hfirst : FirstAccepting processed podLists i p) :
    getActiveJobPodBySelector jobPodSelector processed secs podLists =
      (.ok p, attemptsEvery 10000 1 (i - 1)) := by
  have hrun := retryWithIndex_fixed_ok
    (fun currentTry => selectActiveJobPod jobPodSelector processed (podLists currentTry)) 10000
    (n := min 30 (secs / 10)) (i := i - 1) (c := 1) (t := 0) (by omega)
    (fun j hj => selectActiveJobPod_isRetry (hfirst.2 (1 + j) (by omega) (by omega)))
    (by rw [show 1 + (i - 1) = i by omega]; exact selectActiveJobPod_eq_ok_iff.mpr hfirst.1)
  simp [getActiveJobPodBySelector, retry, podRetryDelays, fixedDelays, hrun, Except.mapError]

theorem getActiveJobPodBySelector_of_none
    (hnone : ∀ i, 1 ≤ i → i ≤ min 30 (secs / 10) + 1 → ∀ p, ¬ Accepts processed (podLists i) p) :
    ∃ e, selectActiveJobPod jobPodSelector processed (podLists (min 30 (secs / 10) + 1)) =
        .retry e ∧
      getActiveJobPodBySelector jobPodSelector processed secs podLists =
        (.error e, attemptsEvery 10000 1 (min 30 (secs / 10))) := by
  obtain ⟨e, he⟩ : (selectActiveJobPod jobPodSelector processed
      (podLists (min 30 (secs / 10) + 1))).IsRetry :=
    selectActiveJobPod_isRetry (hnone _ (by omega) le_rfl)
  refine ⟨e, he, ?_⟩
  have hrun := retryWithIndex_fixed_exhausted
    (fun currentTry => selectActiveJobPod jobPodSelector processed (podLists currentTry)) 10000
    (n := min 30 (secs / 10)) (c := 1) (t := 0)
    (fun j hj => selectActiveJobPod_isRetry (hnone (1 + j) (by omega) (by omega)))
    (by rw [Nat.add_comm]; exact he)
  simp [getActiveJobPodBySelector, retry, podRetryDelays, fixedDelays, hrun, Except.mapError]

/-- Some attempt within the first `M` yields a pod, so there is a first such attempt. -/
theorem exists_firstAccepting {M : Nat}
    (h : ∃ i, 1 ≤ i ∧ i ≤ M ∧ ∃ p, Accepts processed (podLists i) p) :
    ∃ i p, 1 ≤ i ∧ i ≤ M ∧ FirstAccepting processed podLists i p := by
  classical
  have hex : ∃ i, 1 ≤ i ∧ ∃ p, Accepts processed (podLists i) p :=
    let ⟨i, h1, _, hp⟩ := h; ⟨i, h1, hp⟩
  obtain ⟨h1, p, hp⟩ := Nat.find_spec hex
  obtain ⟨i, hi1, hiM, hi⟩ := h
  refine ⟨Nat.find hex, p, h1, (Nat.find_min' hex ⟨hi1, hi⟩).trans hiM, hp, ?_⟩
  intro j hj1 hj q hq
  exact Nat.find_min hex hj ⟨hj1, q, hq⟩

/-- **`get_active_job_pod_by_selector`.** With `N = min(30, d / 10)`: the selector returns `Ok p`
exactly when some attempt `i ≤ N + 1` is the first whose listing yields a pod, and that pod is
`p`; it then makes `i` list calls with a 10 s sleep between consecutive ones. When no attempt up
to `N + 1` yields a pod it makes `N + 1` calls and returns the error of the last one. Either way
it sleeps at most `min(300 s, d)`. -/
theorem get_active_job_pod_by_selector_contract (jobPodSelector : String)
    (processed : List String) (secs : Nat) (podLists : Nat → Except String (List Pod)) :
    (∀ p, (getActiveJobPodBySelector jobPodSelector processed secs podLists).1 = .ok p ↔
      ∃ i, 1 ≤ i ∧ i ≤ min 30 (secs / 10) + 1 ∧ FirstAccepting processed podLists i p) ∧
    (∀ i p, 1 ≤ i → i ≤ min 30 (secs / 10) + 1 → FirstAccepting processed podLists i p →
      (getActiveJobPodBySelector jobPodSelector processed secs podLists).2 =
        attemptsEvery 10000 1 (i - 1)) ∧
    ((∀ i, 1 ≤ i → i ≤ min 30 (secs / 10) + 1 → ∀ p, ¬ Accepts processed (podLists i) p) →
      ∃ e, selectActiveJobPod jobPodSelector processed (podLists (min 30 (secs / 10) + 1)) =
          .retry e ∧
        getActiveJobPodBySelector jobPodSelector processed secs podLists =
          (.error e, attemptsEvery 10000 1 (min 30 (secs / 10)))) ∧
    totalSleep (getActiveJobPodBySelector jobPodSelector processed secs podLists).2 ≤
      1000 * min 300 secs := by
  by_cases hsome : ∃ i, 1 ≤ i ∧ i ≤ min 30 (secs / 10) + 1 ∧ ∃ p, Accepts processed (podLists i) p
  · obtain ⟨i, p, hi1, hi, hfirst⟩ := exists_firstAccepting hsome
    have hrun : getActiveJobPodBySelector jobPodSelector processed secs podLists = _ :=
      getActiveJobPodBySelector_of_first hi1 hi hfirst
    refine ⟨fun q => ⟨fun hq => ?_, fun ⟨i', hi1', hi', hq⟩ => ?_⟩, fun i' q hi1' hi' hq => ?_,
      fun hnone => absurd hsome (by simpa using hnone), ?_⟩
    · rw [hrun] at hq
      cases hq
      exact ⟨i, hi1, hi, hfirst⟩
    · rw [getActiveJobPodBySelector_of_first hi1' hi' hq]
    · rw [getActiveJobPodBySelector_of_first hi1' hi' hq]
    · rw [hrun, totalSleep_attemptsEvery]
      omega
  · have hnone : ∀ i, 1 ≤ i → i ≤ min 30 (secs / 10) + 1 → ∀ p,
        ¬ Accepts processed (podLists i) p := fun i h1 h2 p hp => hsome ⟨i, h1, h2, p, hp⟩
    obtain ⟨e, he, hrun⟩ : ∃ e, selectActiveJobPod jobPodSelector processed
        (podLists (min 30 (secs / 10) + 1)) = .retry e ∧
        getActiveJobPodBySelector jobPodSelector processed secs podLists = _ :=
      getActiveJobPodBySelector_of_none hnone
    refine ⟨fun q => ⟨fun hq => (by rw [hrun] at hq; cases hq),
      fun ⟨i, hi1, hi, hq⟩ => absurd hq.1 (hnone i hi1 hi q)⟩,
      fun i q hi1 hi hq => absurd hq.1 (hnone i hi1 hi q), fun _ => ⟨e, he, hrun⟩, ?_⟩
    rw [hrun, totalSleep_attemptsEvery]
    omega

/-- Listings in which the pod `job-1` is still pending at the first attempt, and has its job
container running from the second on. -/
def secondAttemptListings : Nat → Except String (List Pod)
  | 1 => .ok [⟨"job-1", some ⟨some "Pending", none⟩⟩]
  | _ => .ok [⟨"job-1", some ⟨some "Running", some [⟨"job", some ⟨true, false⟩⟩]⟩⟩]

theorem get_active_job_pod_by_selector_contract_second_attempt :
    FirstAccepting [] secondAttemptListings 2 "job-1" ∧
      getActiveJobPodBySelector "job-name=job" [] 60 secondAttemptListings =
        (.ok "job-1", attemptsEvery 10000 1 1) := by
  have hfirst : FirstAccepting [] secondAttemptListings 2 "job-1" := by
    refine ⟨⟨_, rfl, by simp, by decide, rfl, List.not_mem_nil _⟩, fun j hj1 hj2 q hq => ?_⟩
    obtain rfl : j = 1 := by omega
    obtain ⟨pods, hpods, -, hall, -⟩ := hq
    cases hpods
    exact absurd (hall _ (List.mem_singleton_self _)) (by decide)
  have hcontract :=
    get_active_job_pod_by_selector_contract "job-name=job" [] 60 secondAttemptListings
  exact ⟨hfirst, Prod.ext ((hcontract.1 "job-1").mpr ⟨2, by norm_num, by norm_num, hfirst⟩)
    (hcontract.2.1 2 "job-1" (by norm_num) (by norm_num) hfirst)⟩

end QoveryEngine
