import QoveryEngine.Retry

/-!
# Karpenter's pause, restart and deletion

`Karpenter::pause` and `Karpenter::delete` first delete the nodes Karpenter spawned. When there are
any, they uninstall the `karpenter-configuration` chart, whose finalizers make Karpenter drain and
terminate the nodes, with a timeout as long as the longest termination grace period of any pod
(at least 60 s, at most the cluster's `max_node_drain_time_in_secs`). They then remove the
finalizers of the nodes left and poll the `EC2NodeClass`es, every 30 s and at most 22 times, until
none is left. `pause` then scales the Karpenter deployment to zero replicas, `delete` uninstalls
the Karpenter chart. `restart` scales the deployment back to two replicas, waits for its two pods
to run, and installs the configuration chart again.

The calls to the cluster, to Helm and to AWS are not part of the sources: their results are
inputs of the model (`KarpenterIo`), and each action returns, beside its result, the calls it made
in order. The results of the calls whose errors are only logged (the uninstalls and the patches of
the nodes) are left out. Durations are whole seconds.
-/

namespace QoveryEngine

/-- `KARPENTER_MIN_NODES_DRAIN_TIMEOUT`, in seconds. -/
def karpenterMinNodesDrainTimeout : Int := 60

/-- `KARPENTER_EXPECTED_POD_COUNT`. -/
def karpenterExpectedPodCount : Nat := 2

/-- `KarpenterParameters`, with the one field the Karpenter actions read. -/
structure KarpenterParameters where
  /-- `max_node_drain_time_in_secs`, as the seconds of `ChronoDuration::seconds(duration as i64)`. -/
  maxNodeDrainTimeInSecs : Option Int
  deriving DecidableEq, Repr

/-- `KubernetesPodStatusPhase`: the phases of a pod. -/
inductive KubernetesPodStatusPhase
  | pending
  | running
  | succeeded
  | failed
  | unknown
  deriving DecidableEq, Repr

/-- The charts the Karpenter actions uninstall or upgrade. -/
inductive KarpenterChart
  /-- `KarpenterChart`: Karpenter itself. -/
  | karpenter
  /-- `KarpenterConfigurationChart`: the node pools and `EC2NodeClass`es. -/
  | karpenterConfiguration
  deriving DecidableEq, Repr

/-- The `EngineError`s of the Karpenter actions. -/
inductive KarpenterError
  /-- An `EngineError` returned by a call, or built by the code from a call's error in a case not
  listed below, by its text. -/
  | engineError (message : String)
  /-- `EngineError::new_k8s_delete_karpenter_nodes_error`, with its `CommandError`'s message. -/
  | k8sDeleteKarpenterNodesError (message : String)
  /-- `EngineError::new_nodegroup_delete_error`, with the node group's name and the message. -/
  | nodegroupDeleteError (nodegroupName : Option String) (message : String)
  /-- `EngineError::new_k8s_cannot_get_pods`, made from the error of `wait_for_karpenter_pods`'
  retry loop. -/
  | k8sCannotGetPods (error : RetryError String)
  deriving DecidableEq, Repr

/-- What the Karpenter actions ask of the cluster, of Helm and of AWS, in order. -/
inductive KarpenterCall
  /-- `get_nodes` of the nodes labelled `karpenter.sh/nodepool`. -/
  | getNodes
  /-- `get_pods` of every namespace. -/
  | getPods
  /-- `uninstall_chart` of a chart of `kube-system`, with its timeout in seconds, if any. -/
  | uninstallChart (chart : KarpenterChart) (timeout : Option Int)
  /-- `patch_node` removing the finalizers of the node. -/
  | removeNodeFinalizers (node : String)
  /-- `get_ec2_node_classes`: the listing of the cluster's EC2 node classes. -/
  | getEc2NodeClasses
  /-- `tokio::time::sleep`, in seconds. -/
  | sleep (secs : Nat)
  /-- `set_deployment_replicas_number` of the deployment `karpenter` of `kube-system`. -/
  | setDeploymentReplicasNumber (replicas : Nat)
  /-- An attempt or a sleep of the retry loop of `wait_for_karpenter_pods`. -/
  | waitForKarpenterPods (event : RetryEvent)
  /-- `helm.upgrade` of the `karpenter-configuration` chart. -/
  | upgradeConfiguration
  /-- `get_deployments` of `kube-system` labelled `app.kubernetes.io/name=karpenter`. -/
  | getDeployments
  deriving DecidableEq, Repr

/-- What the calls of one Karpenter action return. An error is the text of the `EngineError` (or
of the `CommandError`) the call returns. -/
structure KarpenterIo where
  /-- `get_nodes` at its first call: the names of the nodes. -/
  nodes : Except String (List String)
  /-- `get_pods` of every namespace: each pod's `termination_grace_period_seconds`, if set. -/
  pods : Except String (List (Option Int))
  /-- `get_nodes` at its second call, once the configuration chart is uninstalled. -/
  remainingNodes : Except String (List String)
  /-- `get_ec2_node_classes` at its `n`-th call, counted from 0: the names of the classes. -/
  ec2NodeClasses : Nat → Except String (List String)
  /-- `set_deployment_replicas_number`: the result of scaling Karpenter's deployment. -/
  setDeploymentReplicasNumber : Except String Unit
  /-- `kubectl_exec_get_pods` of Karpenter's pods at the `n`-th attempt, counted from 1: their
  phases. -/
  karpenterPods : Nat → Except String (List KubernetesPodStatusPhase)
  /-- `Helm::new`: the result of making the Helm client. -/
  helmNew : Except String Unit
  /-- The rest of `install_karpenter_configuration` once the parameters are found: the region,
  the chart and `helm.upgrade`. -/
  upgradeConfiguration : Except String Unit
  /-- `get_deployments`: the names of the deployments. -/
  deployments : Except String (List String)

/-! ## Deleting the nodes -/

/-- `get_nodes_drain_timeout`, once `get_pods` returned `pods`: the longest termination grace
period of a pod (an unset one counts as 0), at least 60 s, and at most `max_nodes_drain_duration`.
A failed listing counts as no pod. -/
def getNodesDrainTimeout (pods : Except String (List (Option Int)))
    (maxNodesDrainDuration : Option Int) : Int :=
  let podsList := match pods with
    | .ok pods => pods
    | .error _ => []
  let maxTerminationGracePeriodSeconds := (podsList.map fun pod => pod.getD 0).max?
  let timeout := match maxTerminationGracePeriodSeconds with
    | none => karpenterMinNodesDrainTimeout
    | some duration => max duration karpenterMinNodesDrainTimeout
  match maxNodesDrainDuration with
  | none => timeout
  | some maxDuration => min timeout maxDuration

namespace Karpenter

/-- The wait for the `EC2NodeClass`es to be deleted (the `loop` of
`delete_nodes_spawned_by_karpenter`) from its poll numbered `nbRetry`, while `left = 21 - nb_retry`
polls may still be followed by a sleep: a poll that lists none ends the loop, the 22nd poll ends it
with whatever it returned, and any other poll is followed by a sleep of 30 s. -/
def waitEc2NodeClassesDeleted (getEc2NodeClasses : Nat → Except String (List String))
    (nbRetry : Nat) : Nat → Except String (List String) × List KarpenterCall
  | 0 => (getEc2NodeClasses nbRetry, [.getEc2NodeClasses])
  | left + 1 =>
    match getEc2NodeClasses nbRetry with
    | .ok [] => (.ok [], [.getEc2NodeClasses])
    | _ =>
      let next := waitEc2NodeClassesDeleted getEc2NodeClasses (nbRetry + 1) left
      (next.1, .getEc2NodeClasses :: .sleep 30 :: next.2)

/-- `Karpenter::delete_nodes_spawned_by_karpenter`, for the cluster's Karpenter parameters. -/
def deleteNodesSpawnedByKarpenter (karpenterParameters : Option KarpenterParameters)
    (io : KarpenterIo) : Except KarpenterError Unit × List KarpenterCall :=
  match karpenterParameters with
  | none => (.error (.k8sDeleteKarpenterNodesError "Karpenter parameters are missing"), [])
  | some karpenterParameters =>
    match io.nodes with
    | .error e => (.error (.engineError e), [.getNodes])
    | .ok nodes =>
      if nodes.isEmpty then (.ok (), [.getNodes])
      else
        let nodesDrainTimeout :=
          getNodesDrainTimeout io.pods karpenterParameters.maxNodeDrainTimeInSecs
        let drain : List KarpenterCall := [.getNodes, .getPods,
          .uninstallChart .karpenterConfiguration (some nodesDrainTimeout), .getNodes]
        match io.remainingNodes with
        | .error e => (.error (.engineError e), drain)
        | .ok nodes =>
          let ec2NodeClasses := waitEc2NodeClassesDeleted io.ec2NodeClasses 0 21
          let calls := drain ++ nodes.map KarpenterCall.removeNodeFinalizers ++ ec2NodeClasses.2
          match ec2NodeClasses.1 with
          | .error e => (.error (.engineError e), calls)
          | .ok ec2NodeClasses =>
            if ec2NodeClasses.isEmpty then (.ok (), calls)
            else
              (.error (.nodegroupDeleteError (some "Karpenter")
                "can't delete nodes spawned by Karpenter"), calls)

/-- `Karpenter::pause`: the nodes deleted, then the deployment scaled to zero replicas. -/
def pause (karpenterParameters : Option KarpenterParameters) (io : KarpenterIo) :
    Except KarpenterError Unit × List KarpenterCall :=
  match deleteNodesSpawnedByKarpenter karpenterParameters io with
  | (.error e, calls) => (.error e, calls)
  | (.ok (), calls) =>
    (io.setDeploymentReplicasNumber.mapError .engineError, calls ++ [.setDeploymentReplicasNumber 0])

/-- `Karpenter::delete`: the nodes deleted, then the Karpenter chart uninstalled, whose failure is
only logged. -/
def delete (karpenterParameters : Option KarpenterParameters) (io : KarpenterIo) :
    Except KarpenterError Unit × List KarpenterCall :=
  match deleteNodesSpawnedByKarpenter karpenterParameters io with
  | (.error e, calls) => (.error e, calls)
  | (.ok (), calls) => (.ok (), calls ++ [.uninstallChart .karpenter none])

/-! ## Restarting -/

/-- The closure given to `retry::retry` by `wait_for_karpenter_pods`, once `kubectl_exec_get_pods`
returned `pods`: done when exactly two pods run. -/
def karpenterPodsAttempt :
    Except String (List KubernetesPodStatusPhase) → OperationResult Unit String
  | .ok pods =>
    if (pods.filter fun phase => phase == .running).length = karpenterExpectedPodCount then .ok ()
    else .retry "Pods didn't restart yet. Waiting..."
  | .error e => .retry e

/-- `Karpenter::wait_for_karpenter_pods`: ten delays of 10 s, so at most eleven listings. -/
def waitForKarpenterPods (karpenterPods : Nat → Except String (List KubernetesPodStatusPhase)) :
    Except KarpenterError Unit × List RetryEvent :=
  match retry (fixedDelays 10000 10) fun currentTry => karpenterPodsAttempt (karpenterPods currentTry) with
  | (.ok (), events) => (.ok (), events)
  | (.error error, events) => (.error (.k8sCannotGetPods error), events)

/-- `Karpenter::install_karpenter_configuration`: Helm, then the parameters, then the upgrade. -/
def installKarpenterConfiguration (karpenterParameters : Option KarpenterParameters)
    (io : KarpenterIo) : Except KarpenterError Unit × List KarpenterCall :=
  match io.helmNew with
  | .error e => (.error (.engineError e), [])
  | .ok () =>
    match karpenterParameters with
    | none => (.error (.k8sDeleteKarpenterNodesError "Karpenter parameters are missing"), [])
    | some _ => (io.upgradeConfiguration.mapError .engineError, [.upgradeConfiguration])

/-- `Karpenter::restart`: the deployment scaled to two replicas, its pods waited for, and the
configuration chart installed. -/
def restart (karpenterParameters : Option KarpenterParameters) (io : KarpenterIo) :
    Except KarpenterError Unit × List KarpenterCall :=
  match io.setDeploymentReplicasNumber with
  | .error e => (.error (.engineError e), [.setDeploymentReplicasNumber karpenterExpectedPodCount])
  | .ok () =>
    let waited := waitForKarpenterPods io.karpenterPods
    let calls := KarpenterCall.setDeploymentReplicasNumber karpenterExpectedPodCount ::
      waited.2.map KarpenterCall.waitForKarpenterPods
    match waited.1 with
    | .error e => (.error e, calls)
    | .ok () =>
      let installed := installKarpenterConfiguration karpenterParameters io
      (installed.1, calls ++ installed.2)

/-! ## Whether Karpenter runs -/

/-- `Karpenter::deployment_is_installed`: `get_deployments` listed a deployment; a failed call
lists none. -/
def deploymentIsInstalled (deployments : Except String (List String)) : Bool :=
  match deployments with
  | .ok deployments => !deployments.isEmpty
  | .error _ => false

/-- `Karpenter::is_paused`: the deployment is installed and no node was spawned by Karpenter. -/
def isPaused (io : KarpenterIo) : Except KarpenterError Bool :=
  if !deploymentIsInstalled io.deployments then .ok false
  else
    match io.nodes with
    | .error e => .error (.engineError e)
    | .ok nodes => .ok nodes.isEmpty

end Karpenter

/-! ## The node groups of a cluster with Karpenter -/

/-- `KubernetesClusterAction`, without the data its variants carry. -/
inductive KubernetesClusterAction
  | bootstrap
  | update
  | upgrade
  | pause
  | resume
  | delete
  | cleanKarpenterMigration
  deriving DecidableEq, Repr

/-- `node_groups_when_karpenter_is_enabled`: with Karpenter, the cluster keeps no node group of
its own, except on an update of a cluster deployed before whose Karpenter deployment is not
installed yet. `mkKubeClient` is the result of `infra_context.mk_kube_client()`, which the guard
calls only when the cluster was deployed before. -/
def nodeGroupsWhenKarpenterIsEnabled {α : Type} (isKarpenterEnabled isFirstClusterDeployment : Bool)
    (mkKubeClient : Except String Unit) (deployments : Except String (List String))
    (nodeGroups : List α) (kubernetesAction : KubernetesClusterAction) :
    Except KarpenterError (List α) :=
  if !isKarpenterEnabled then .ok nodeGroups
  else
    match kubernetesAction with
    | .update =>
      if isFirstClusterDeployment then .ok []
      else
        match mkKubeClient with
        | .error e => .error (.engineError e)
        | .ok () => if Karpenter.deploymentIsInstalled deployments then .ok [] else .ok nodeGroups
    | _ => .ok []

end QoveryEngine
