import QoveryEngine.Kube
import QoveryEngine.Retry
import QoveryEngine.PodSelector
import QoveryEngine.F64
import QoveryEngine.Json
import QoveryEngine.JsonText
import QoveryEngine.JobOutput
import QoveryEngine.Runner
import QoveryEngine.ForceTrigger
import QoveryEngine.JobController
import QoveryEngine.BuildPaths
import QoveryEngine.GitClone
import QoveryEngine.Kubeconfig
import QoveryEngine.SshKeys
import QoveryEngine.Karpenter
import QoveryEngine.Database
import QoveryEngine.LocalDocker
import QoveryEngine.Proofs.RestartLoop
import QoveryEngine.Proofs.Cancellation
import QoveryEngine.Proofs.OutputCapture
import QoveryEngine.Proofs.Json
import QoveryEngine.Proofs.JsonText
import QoveryEngine.Proofs.JobOutput
import QoveryEngine.Proofs.JobController
import QoveryEngine.Proofs.SshKeys
import QoveryEngine.Proofs.Karpenter
import QoveryEngine.Proofs.Database
import QoveryEngine.Proofs.LocalDocker
