import GShare.Model.Cluster.Nodes

/-! # The cordon of a node, in the ledger and in Kubernetes

The ledger keeps a cordon in the status of its row, which the console and the health events of the operator
write. Kubernetes keeps it in `spec.unschedulable`, which `kubectl` and the health controller write too. At each
tick the operator makes the second follow the first, and marks the cordons of its own with an annotation.
-/

namespace GShare.Model

/-- What the operator reads and writes of a `Node`. -/
structure KubeNode where
  name : String
  unschedulable : Bool
  /-- The annotation `gshare.io/cordoned` is `true`. -/
  ours : Bool
deriving DecidableEq, Repr

namespace KubeNode

/-- `mirrorCordon`, with the list of hostnames that the ledger holds as cordoned. -/
def mirrorCordon (wanted : List String) (node : KubeNode) : KubeNode :=
  let desired := wanted.contains node.name
  if desired && !node.unschedulable then { node with unschedulable := true, ours := true }
  else if !desired && node.ours && node.unschedulable then { node with unschedulable := false, ours := false }
  else node

/-- `HealthReconciler.cordon`. -/
def cordon (node : KubeNode) : KubeNode := { node with unschedulable := true }

end KubeNode

/-- `cordoned_nodes`, for the operator of a cluster. -/
def cordonedNodes (rows : List ClusterNode) (cluster : ℕ) : List String :=
  (rows.filter fun row => row.clusterId == cluster && row.status == .cordoned).map ClusterNode.hostname

/-- The ledger, a node of one cluster, and whether the last that somebody did to it with `kubectl` was to cordon
it. -/
structure CordonState where
  rows : List ClusterNode
  cluster : ℕ
  node : KubeNode
  byHand : Bool
deriving DecidableEq, Repr

inductive CordonEvent where
  /-- `cordon_node`. -/
  | console (id : ℕ) (cordon : Bool)
  /-- A critical signal: the health controller cordons the node and reports the event. -/
  | health
  /-- `kubectl cordon` and `kubectl uncordon`. -/
  | manual (cordon : Bool)
  | tick

namespace CordonState

/-- The hostname is one that the ledger holds as cordoned. -/
def inLedger (state : CordonState) : Prop := state.node.name ∈ cordonedNodes state.rows state.cluster

instance (state : CordonState) : Decidable state.inLedger := inferInstanceAs (Decidable (_ ∈ _))

def setStatus (state : CordonState) (which : ClusterNode → Bool) (status : NodeStatus) : List ClusterNode :=
  state.rows.map fun row => if which row then { row with status := status } else row

def step (state : CordonState) : CordonEvent → Option CordonState
  | .console id cordon =>
    some { state with rows := state.setStatus (·.id == id) (if cordon then .cordoned else .ready) }
  | .health =>
    some { state with
      node := state.node.cordon
      rows := state.setStatus
        (fun row => row.clusterId == state.cluster && row.hostname == state.node.name) .cordoned }
  | .manual cordon => some { state with node := { state.node with unschedulable := cordon }, byHand := cordon }
  | .tick => some { state with node := state.node.mirrorCordon (cordonedNodes state.rows state.cluster) }

end CordonState

end GShare.Model
