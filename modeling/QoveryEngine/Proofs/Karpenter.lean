import QoveryEngine.Karpenter

/-!
# Proofs: Karpenter's pause, restart and deletion

The drain timeout is the longest termination grace period of the cluster's pods, clamped between
60 s and the cluster's maximum. Deleting the nodes succeeds exactly when the first listing found
no node, or when one of the at most 22 polls found no `EC2NodeClass`, and in the second case the
calls are always made in the same order: the configuration chart uninstalled with the drain
timeout, the finalizers of every node still listed removed, then the polls, 30 s apart. `pause`
and `delete` go on only once the nodes are deleted. `restart` lists Karpenter's pods at most eleven
times, 10 s apart, and installs the configuration only once two of them run.
-/

namespace QoveryEngine

/-! ## The drain timeout -/

namespace Karpenter

/-! ## The wait for the `EC2NodeClass`es -/

/-- The calls of `i + 1` polls of the `EC2NodeClass`es, 30 s apart. -/
def ec2NodeClassesPolls : Nat → List KarpenterCall
  | 0 => [.getEc2NodeClasses]
  | i + 1 => .getEc2NodeClasses :: .sleep 30 :: ec2NodeClassesPolls i

theorem waitEc2NodeClassesDeleted_of_ne {poll : Nat → Except String (List String)} {n : Nat}
    (h : poll n ≠ .ok []) (left : Nat) :
    waitEc2NodeClassesDeleted poll n (left + 1) =
      ((waitEc2NodeClassesDeleted poll (n + 1) left).1,
        .getEc2NodeClasses :: .sleep 30 :: (waitEc2NodeClassesDeleted poll (n + 1) left).2) := by
  rw [waitEc2NodeClassesDeleted]
  split
  · contradiction
  · rfl

/-- **The loop, for every sequence of polls.** From the poll `n`, with `left` polls that may be
followed by a sleep, the loop polls `i + 1` times for some `i ≤ left`: every poll before the last
listed some class or failed, and the last one listed none or was the last allowed. It returns what
the last poll returned. -/
theorem waitEc2NodeClassesDeleted_run (poll : Nat → Except String (List String)) (n left : Nat) :
    ∃ i ≤ left, (∀ j < i, poll (n + j) ≠ .ok []) ∧ (i = left ∨ poll (n + i) = .ok []) ∧
      waitEc2NodeClassesDeleted poll n left = (poll (n + i), ec2NodeClassesPolls i) := by
  induction left generalizing n with
  | zero => exact ⟨0, le_rfl, nofun, .inl rfl, rfl⟩
  | succ left ih =>
    by_cases h : poll n = .ok []
    · refine ⟨0, Nat.zero_le _, nofun, .inr h, ?_⟩
      simp only [waitEc2NodeClassesDeleted, Nat.add_zero, h, ec2NodeClassesPolls]
    · obtain ⟨i, hi, hne, hlast, heq⟩ := ih (n + 1)
      refine ⟨i + 1, by omega, fun j hj => ?_, ?_, ?_⟩
      · rcases j with _ | j
        · exact h
        · simpa [Nat.add_right_comm, Nat.add_assoc] using hne j (by omega)
      · simpa [Nat.add_right_comm, Nat.add_assoc] using hlast
      · rw [waitEc2NodeClassesDeleted_of_ne h, heq, Nat.add_right_comm, Nat.add_assoc]
        rfl

/-- The loop ends on an empty list exactly when one of its polls listed none. -/
theorem waitEc2NodeClassesDeleted_eq_ok_nil_iff (poll : Nat → Except String (List String))
    (n left : Nat) :
    (waitEc2NodeClassesDeleted poll n left).1 = .ok [] ↔ ∃ k ≤ left, poll (n + k) = .ok [] := by
  obtain ⟨i, hi, hne, hlast, heq⟩ := waitEc2NodeClassesDeleted_run poll n left
  rw [heq]
  constructor
  · exact fun h => ⟨i, hi, h⟩
  · rintro ⟨k, hk, hpoll⟩
    rcases Nat.lt_or_ge k i with hki | hki
    · exact absurd hpoll (hne k hki)
    · rcases hlast with rfl | hlast
      · rwa [Nat.le_antisymm hk hki] at hpoll
      · exact hlast

/-! ## Deleting the nodes -/

/-- The nodes Karpenter spawned are deleted, as far as `delete_nodes_spawned_by_karpenter` can
tell: the parameters are set, and the first listing found no node, or the second listing succeeded
and one of the at most 22 polls found no `EC2NodeClass`. -/
def NodesDeleted (karpenterParameters : Option KarpenterParameters) (io : KarpenterIo) : Prop :=
  karpenterParameters.isSome ∧
    (io.nodes = .ok [] ∨ (∃ node nodes, io.nodes = .ok (node :: nodes)) ∧
      (∃ remainingNodes, io.remainingNodes = .ok remainingNodes) ∧
      ∃ i ≤ 21, io.ec2NodeClasses i = .ok [])

theorem deleteNodesSpawnedByKarpenter_ok_iff (karpenterParameters : Option KarpenterParameters)
    (io : KarpenterIo) :
    (deleteNodesSpawnedByKarpenter karpenterParameters io).1 = .ok () ↔
      NodesDeleted karpenterParameters io := by
  unfold deleteNodesSpawnedByKarpenter NodesDeleted
  rcases karpenterParameters with _ | karpenterParameters
  · simp
  rcases io.nodes with e | _ | ⟨node, nodes⟩
  · simp
  · simp
  rcases io.remainingNodes with e | remainingNodes
  · simp
  have hloop := waitEc2NodeClassesDeleted_eq_ok_nil_iff io.ec2NodeClasses 0 21
  simp only [Nat.zero_add] at hloop
  rw [← hloop]
  rcases hw : (waitEc2NodeClassesDeleted io.ec2NodeClasses 0 21).1 with e | _ | ⟨c, cs⟩ <;>
    simp [hw]

/-- **Pausing and deleting Karpenter succeed only once the nodes are deleted.** `pause` succeeds
exactly when the nodes Karpenter spawned are deleted and the deployment is then scaled to zero;
`delete` exactly when the nodes are deleted, whatever the uninstall of the Karpenter chart
returns. -/
theorem karpenter_pause_and_delete_ok_iff (karpenterParameters : Option KarpenterParameters)
    (io : KarpenterIo) :
    ((pause karpenterParameters io).1 = .ok () ↔
      NodesDeleted karpenterParameters io ∧ io.setDeploymentReplicasNumber = .ok ()) ∧
    ((delete karpenterParameters io).1 = .ok () ↔ NodesDeleted karpenterParameters io) := by
  rw [← deleteNodesSpawnedByKarpenter_ok_iff]
  unfold pause delete
  rcases deleteNodesSpawnedByKarpenter karpenterParameters io with ⟨_ | ⟨⟩, calls⟩
  · simp
  · cases io.setDeploymentReplicasNumber <;> simp [Except.mapError]

/-- **The calls of the deletion.** When the nodes are listed twice, the deletion uninstalls the
configuration chart with the drain timeout, removes the finalizers of every node of the second
listing, in order, and polls the `EC2NodeClass`es `i + 1` times, 30 s apart, for some `i ≤ 21`:
every poll before the last listed some class or failed, and the last one listed none or was the
22nd. It succeeds when the last poll listed none, and fails with that poll's error or with a
node group error otherwise. -/
theorem delete_nodes_spawned_by_karpenter_calls (karpenterParameters : KarpenterParameters)
    (io : KarpenterIo) {node : String} {nodes remainingNodes : List String}
    (hnodes : io.nodes = .ok (node :: nodes)) (hremaining : io.remainingNodes = .ok remainingNodes) :
    ∃ i ≤ 21, (∀ j < i, io.ec2NodeClasses j ≠ .ok []) ∧ (i = 21 ∨ io.ec2NodeClasses i = .ok []) ∧
      (deleteNodesSpawnedByKarpenter (some karpenterParameters) io).2 =
        [.getNodes, .getPods, .uninstallChart .karpenterConfiguration
            (some (getNodesDrainTimeout io.pods karpenterParameters.maxNodeDrainTimeInSecs)),
          .getNodes] ++ remainingNodes.map .removeNodeFinalizers ++ ec2NodeClassesPolls i ∧
      (deleteNodesSpawnedByKarpenter (some karpenterParameters) io).1 =
        match io.ec2NodeClasses i with
        | .ok [] => .ok ()
        | .ok _ => .error (.nodegroupDeleteError (some "Karpenter")
            "can't delete nodes spawned by Karpenter")
        | .error e => .error (.engineError e) := by
  obtain ⟨i, hi, hne, hlast, heq⟩ := waitEc2NodeClassesDeleted_run io.ec2NodeClasses 0 21
  simp only [Nat.zero_add] at hne hlast heq
  refine ⟨i, hi, hne, hlast, ?_⟩
  simp only [deleteNodesSpawnedByKarpenter, hnodes, hremaining, heq, List.isEmpty_cons,
    Bool.false_eq_true, if_false]
  rcases io.ec2NodeClasses i with e | _ | ⟨c, cs⟩ <;> exact ⟨rfl, rfl⟩

/-- An io where the nodes are listed twice, the fourth poll finds no `EC2NodeClass`, and the third
listing of Karpenter's pods shows two running pods. -/
def sampleKarpenterIo : KarpenterIo where
  nodes := .ok ["node-a", "node-b"]
  pods := .ok [some 30, none, some 90]
  remainingNodes := .ok ["node-b"]
  ec2NodeClasses := fun n => if n < 3 then .ok ["default"] else .ok []
  setDeploymentReplicasNumber := .ok ()
  karpenterPods := fun n => if n < 3 then .error "timed out" else .ok [.running, .pending, .running]
  helmNew := .ok ()
  upgradeConfiguration := .ok ()
  deployments := .ok ["karpenter"]

theorem delete_nodes_spawned_by_karpenter_calls_sample :
    sampleKarpenterIo.nodes = .ok ["node-a", "node-b"] ∧ sampleKarpenterIo.remainingNodes = .ok ["node-b"] ∧
    ∃ i ≤ 21, (∀ j < i, sampleKarpenterIo.ec2NodeClasses j ≠ .ok []) ∧
      (i = 21 ∨ sampleKarpenterIo.ec2NodeClasses i = .ok []) ∧
      (deleteNodesSpawnedByKarpenter (some ⟨some 120⟩) sampleKarpenterIo).2 =
        [.getNodes, .getPods, .uninstallChart .karpenterConfiguration
            (some (getNodesDrainTimeout sampleKarpenterIo.pods (some 120))),
          .getNodes] ++ ["node-b"].map .removeNodeFinalizers ++ ec2NodeClassesPolls i ∧
      (deleteNodesSpawnedByKarpenter (some ⟨some 120⟩) sampleKarpenterIo).1 =
        match sampleKarpenterIo.ec2NodeClasses i with
        | .ok [] => .ok ()
        | .ok _ => .error (.nodegroupDeleteError (some "Karpenter")
            "can't delete nodes spawned by Karpenter")
        | .error e => .error (.engineError e) :=
  ⟨rfl, rfl, delete_nodes_spawned_by_karpenter_calls ⟨some 120⟩ sampleKarpenterIo rfl rfl⟩

/-! ## Restarting -/

/-- A listing of Karpenter's pods that ends the wait: it succeeded, and exactly two of the pods
run. -/
def KarpenterPodsRun (listing : Except String (List KubernetesPodStatusPhase)) : Prop :=
  ∃ pods, listing = .ok pods ∧ pods.count .running = karpenterExpectedPodCount

theorem karpenterPodsAttempt_of_run {listing : Except String (List KubernetesPodStatusPhase)}
    (h : KarpenterPodsRun listing) : karpenterPodsAttempt listing = .ok () := by
  obtain ⟨pods, rfl, hcount⟩ := h
  rw [karpenterPodsAttempt, if_pos (by rwa [List.count, List.countP_eq_length_filter] at hcount)]

theorem karpenterPodsAttempt_ok_of_not_run {pods : List KubernetesPodStatusPhase}
    (h : ¬ KarpenterPodsRun (.ok pods)) :
    karpenterPodsAttempt (.ok pods) = .retry "Pods didn't restart yet. Waiting..." := by
  have hcount : ¬ (pods.filter fun phase => phase == .running).length = karpenterExpectedPodCount :=
    fun hcount => h ⟨pods, rfl, by rwa [List.count, List.countP_eq_length_filter]⟩
  rw [karpenterPodsAttempt, if_neg hcount]

theorem karpenterPodsAttempt_isRetry_iff (listing : Except String (List KubernetesPodStatusPhase)) :
    (karpenterPodsAttempt listing).IsRetry ↔ ¬ KarpenterPodsRun listing := by
  by_cases h : KarpenterPodsRun listing
  · simp [karpenterPodsAttempt_of_run h, OperationResult.IsRetry, h]
  · rcases listing with e | pods
    · simp [karpenterPodsAttempt, OperationResult.IsRetry, h]
    · simp [karpenterPodsAttempt_ok_of_not_run h, OperationResult.IsRetry, h]

/-- **Restarting Karpenter, for every sequence of listings.** Once the deployment is scaled to two
replicas, `restart` lists Karpenter's pods `i + 1` times, 10 s apart, for some `i ≤ 10`, until a
listing shows exactly two running pods. When the last listing does, the configuration chart is
installed and `restart` returns what the install returns; otherwise the eleventh listing did not,
and `restart` fails with the error of that listing, after 100 s of sleep. -/
theorem karpenter_restart_outcome (karpenterParameters : Option KarpenterParameters)
    (io : KarpenterIo) (hscaled : io.setDeploymentReplicasNumber = .ok ()) :
    ∃ i ≤ 10, (∀ j < i, ¬ KarpenterPodsRun (io.karpenterPods (j + 1))) ∧
      (KarpenterPodsRun (io.karpenterPods (i + 1)) →
        restart karpenterParameters io =
          ((installKarpenterConfiguration karpenterParameters io).1,
            .setDeploymentReplicasNumber 2 :: (attemptsEvery 10000 1 i).map .waitForKarpenterPods ++
              (installKarpenterConfiguration karpenterParameters io).2)) ∧
      (¬ KarpenterPodsRun (io.karpenterPods (i + 1)) → i = 10 ∧
        restart karpenterParameters io =
          (.error (.k8sCannotGetPods ⟨match io.karpenterPods 11 with
              | .error e => e
              | .ok _ => "Pods didn't restart yet. Waiting...", 100000, 11⟩),
            .setDeploymentReplicasNumber 2 :: (attemptsEvery 10000 1 10).map .waitForKarpenterPods)) := by
  obtain ⟨i, hi, hretry, hlast, heq⟩ :=
    retryWithIndex_fixed (fun n => karpenterPodsAttempt (io.karpenterPods n)) 10000 10 1 0
  simp only [Nat.add_comm 1, karpenterPodsAttempt_isRetry_iff, not_not] at hretry hlast heq
  refine ⟨i, hi, hretry, fun hrun => ?_, fun hrun => ?_⟩
  · simp only [restart, waitForKarpenterPods, retry, fixedDelays, hscaled, heq,
      karpenterPodsAttempt_of_run hrun]
    rfl
  · obtain rfl : i = 10 := hlast.resolve_right hrun
    refine ⟨rfl, ?_⟩
    simp only [Nat.reduceAdd, Nat.reduceMul] at heq hrun
    simp only [restart, waitForKarpenterPods, retry, fixedDelays, hscaled, heq]
    revert hrun
    cases io.karpenterPods 11 with
    | error e => exact fun _ => rfl
    | ok pods => exact fun hrun => by rw [karpenterPodsAttempt_ok_of_not_run hrun]; rfl

theorem karpenter_restart_outcome_sample :
    sampleKarpenterIo.setDeploymentReplicasNumber = .ok () ∧
    ∃ i ≤ 10, (∀ j < i, ¬ KarpenterPodsRun (sampleKarpenterIo.karpenterPods (j + 1))) ∧
      (KarpenterPodsRun (sampleKarpenterIo.karpenterPods (i + 1)) →
        restart none sampleKarpenterIo =
          ((installKarpenterConfiguration none sampleKarpenterIo).1,
            .setDeploymentReplicasNumber 2 :: (attemptsEvery 10000 1 i).map .waitForKarpenterPods ++
              (installKarpenterConfiguration none sampleKarpenterIo).2)) ∧
      (¬ KarpenterPodsRun (sampleKarpenterIo.karpenterPods (i + 1)) → i = 10 ∧
        restart none sampleKarpenterIo =
          (.error (.k8sCannotGetPods ⟨match sampleKarpenterIo.karpenterPods 11 with
              | .error e => e
              | .ok _ => "Pods didn't restart yet. Waiting...", 100000, 11⟩),
            .setDeploymentReplicasNumber 2 :: (attemptsEvery 10000 1 10).map .waitForKarpenterPods)) :=
  ⟨rfl, karpenter_restart_outcome none sampleKarpenterIo rfl⟩

end Karpenter

/-! ## The node groups of a cluster with Karpenter -/

/-- The cluster keeps its node groups when
Karpenter is disabled, or on an update of a cluster deployed before whose Karpenter deployment is
not installed yet; it keeps none when Karpenter is enabled and the action is anything else, and
fails only on such an update when the Kubernetes client cannot be made. -/
theorem nodeGroupsWhenKarpenterIsEnabled_cases {α : Type} (isKarpenterEnabled : Bool)
    (isFirstClusterDeployment : Bool) (mkKubeClient : Except String Unit)
    (deployments : Except String (List String)) (nodeGroups : List α)
    (kubernetesAction : KubernetesClusterAction) :
    let result := nodeGroupsWhenKarpenterIsEnabled isKarpenterEnabled isFirstClusterDeployment
      mkKubeClient deployments nodeGroups kubernetesAction
    (result = .ok nodeGroups ∧
        (isKarpenterEnabled = false ∨ kubernetesAction = .update ∧ isFirstClusterDeployment = false ∧
          mkKubeClient = .ok () ∧ Karpenter.deploymentIsInstalled deployments = false)) ∨
      (result = .ok [] ∧ isKarpenterEnabled = true ∧
        (kubernetesAction ≠ .update ∨ isFirstClusterDeployment = true ∨
          mkKubeClient = .ok () ∧ Karpenter.deploymentIsInstalled deployments = true)) ∨
      (∃ e, result = .error (.engineError e) ∧ isKarpenterEnabled = true ∧
        kubernetesAction = .update ∧ isFirstClusterDeployment = false ∧ mkKubeClient = .error e) := by
  unfold nodeGroupsWhenKarpenterIsEnabled
  cases isKarpenterEnabled
  · simp
  cases kubernetesAction
  case update =>
    cases isFirstClusterDeployment
    · cases mkKubeClient with
      | error e => simp
      | ok u => cases h : Karpenter.deploymentIsInstalled deployments <;> simp [h]
    · simp
  all_goals simp

end QoveryEngine
