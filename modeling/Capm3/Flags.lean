import Capm3.Tls.Policy
import Capm3.Discovery

/-!
# The manager's flags

The values `initFlags` binds to the package variables of `main.go` (`Flags`), with the defaults it
registers (`Flags.defaults`), and what `main` derives from them: the `ctrl.Options` of the manager
(`managerOptions`) and what `setupReconcilers` hands each of its seven reconcilers
(`reconcilerSetups`).  Six reconcilers log their type name when their registration fails; the
remediation reconciler logs its kind instead (`controllerName_reconcilerSetups`).
-/

namespace Capm3

open Tls

/-- `time.Minute`. -/
def minute : Int := 60 * second

/-- The package variables `initFlags` binds, after `pflag.Parse`. -/
structure Flags where
  metricsBindAddr : String
  enableLeaderElection : Bool
  enableBMHNameBasedPreallocation : Bool
  leaderElectionLeaseDuration : Int
  leaderElectionRenewDeadline : Int
  leaderElectionRetryPeriod : Int
  watchNamespace : String
  watchFilterValue : String
  syncPeriod : Int
  webhookPort : Int
  webhookCertDir : String
  healthAddr : String
  metal3MachineConcurrency : Int
  metal3ClusterConcurrency : Int
  metal3DataTemplateConcurrency : Int
  metal3DataConcurrency : Int
  metal3LabelSyncConcurrency : Int
  metal3MachineTemplateConcurrency : Int
  metal3RemediationConcurrency : Int
  tlsOptions : TLSOptions
  deriving DecidableEq

/-- The defaults `initFlags` registers. -/
def Flags.defaults : Flags where
  metricsBindAddr := "localhost:8080"
  enableLeaderElection := false
  enableBMHNameBasedPreallocation := false
  leaderElectionLeaseDuration := 15 * second
  leaderElectionRenewDeadline := 10 * second
  leaderElectionRetryPeriod := 2 * second
  watchNamespace := ""
  watchFilterValue := ""
  syncPeriod := 10 * minute
  webhookPort := 9443
  webhookCertDir := "/tmp/k8s-webhook-server/serving-certs/"
  healthAddr := ":9440"
  metal3MachineConcurrency := 1
  metal3ClusterConcurrency := 10
  metal3DataTemplateConcurrency := 10
  metal3DataConcurrency := 10
  metal3LabelSyncConcurrency := 10
  metal3MachineTemplateConcurrency := 10
  metal3RemediationConcurrency := 10
  tlsOptions := { tlsMaxVersion := "TLS13", tlsMinVersion := "TLS12", tlsCipherSuites := "" }

/-- The fields of `ctrl.Options` that `main` sets (the scheme apart). -/
structure ManagerOptions where
  metricsBindAddress : String
  leaseDuration : Int
  renewDeadline : Int
  retryPeriod : Int
  leaderElection : Bool
  leaderElectionID : String
  leaderElectionResourceLock : String
  syncPeriod : Int
  port : Int
  certDir : String
  healthProbeBindAddress : String
  watchNamespace : String
  tlsOpts : List Mutator
  deriving DecidableEq

/-- `resourcelock.LeasesResourceLock`. -/
def leasesResourceLock : String := "leases"

/-- The `ctrl.Options` of `main`'s `ctrl.NewManager` call. -/
def managerOptions (flags : Flags) (tlsOptionOverrides : List Mutator) : ManagerOptions where
  metricsBindAddress := flags.metricsBindAddr
  leaseDuration := flags.leaderElectionLeaseDuration
  renewDeadline := flags.leaderElectionRenewDeadline
  retryPeriod := flags.leaderElectionRetryPeriod
  leaderElection := flags.enableLeaderElection
  leaderElectionID := "controller-leader-election-capm3"
  leaderElectionResourceLock := leasesResourceLock
  syncPeriod := flags.syncPeriod
  port := flags.webhookPort
  certDir := flags.webhookCertDir
  healthProbeBindAddress := flags.healthAddr
  watchNamespace := flags.watchNamespace
  tlsOpts := tlsOptionOverrides

/-- The reconcilers `setupReconcilers` registers. -/
inductive Reconciler
  | metal3Machine
  | metal3Cluster
  | metal3DataTemplate
  | metal3Data
  | metal3LabelSync
  | metal3MachineTemplate
  | metal3Remediation
  deriving DecidableEq, Repr

/-- What `setupReconcilers` hands one reconciler: the name of its logger under `controllers`,
whether its `CapiClientGetter` is `infraremote.NewClusterClient`, its `WatchFilterValue` (`""`
when left unset), the `MaxConcurrentReconciles` of `concurrency(...)`, and the name logged under
`controller` when `SetupWithManager` fails. -/
structure ReconcilerSetup where
  reconciler : Reconciler
  logName : String
  capiClientGetter : Bool
  watchFilterValue : String
  maxConcurrentReconciles : Int
  controllerName : String
  deriving DecidableEq

/-- The registrations of `setupReconcilers`, in its order. -/
def reconcilerSetups (flags : Flags) : List ReconcilerSetup :=
  [⟨.metal3Machine, "Metal3Machine", true, flags.watchFilterValue,
      flags.metal3MachineConcurrency, "Metal3MachineReconciler"⟩,
    ⟨.metal3Cluster, "Metal3Cluster", false, flags.watchFilterValue,
      flags.metal3ClusterConcurrency, "Metal3ClusterReconciler"⟩,
    ⟨.metal3DataTemplate, "Metal3DataTemplate", false, flags.watchFilterValue,
      flags.metal3DataTemplateConcurrency, "Metal3DataTemplateReconciler"⟩,
    ⟨.metal3Data, "Metal3Data", false, flags.watchFilterValue,
      flags.metal3DataConcurrency, "Metal3DataReconciler"⟩,
    ⟨.metal3LabelSync, "Metal3LabelSync", true, "",
      flags.metal3LabelSyncConcurrency, "Metal3LabelSyncReconciler"⟩,
    ⟨.metal3MachineTemplate, "Metal3MachineTemplate", false, "",
      flags.metal3MachineTemplateConcurrency, "Metal3MachineTemplateReconciler"⟩,
    ⟨.metal3Remediation, "Metal3Remediation", false, "",
      flags.metal3RemediationConcurrency, "Metal3Remediation"⟩]

/-- The failure log of a registration names the reconciler's type (its logger's name with
`Reconciler` appended) for every reconciler but the remediation one, which is named by its kind. -/
theorem controllerName_reconcilerSetups (flags : Flags) :
    ∀ setup ∈ reconcilerSetups flags,
      (setup.controllerName = setup.logName ++ "Reconciler" ↔
        setup.reconciler ≠ .metal3Remediation) ∧
      (setup.reconciler = .metal3Remediation → setup.controllerName = setup.logName) := by
  simp only [reconcilerSetups, List.mem_cons, List.mem_singleton, List.not_mem_nil, or_false]
  rintro setup (rfl | rfl | rfl | rfl | rfl | rfl | rfl) <;> simp

/-- The kinds `setupWebhooks` registers a webhook for, in its order. -/
def webhooks : List String :=
  ["Metal3Cluster", "Metal3Machine", "Metal3MachineTemplate", "Metal3DataTemplate", "Metal3Data",
    "Metal3DataClaim", "Metal3Remediation", "Metal3RemediationTemplate"]

end Capm3
