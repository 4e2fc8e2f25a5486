import GShare.Model.Cluster.Liveness

/-! # The removal of a node

`delete_node` clears the cards of a node and leaves its row behind as `decommissioning`; the row goes when the
operator confirms that the Node object is gone. Until then the operator may go on reporting the node and its
cards, and the workers look at it like at every other.
-/

namespace GShare.Model

/-- A card, and the row of the node that it is attached to. -/
structure DeviceRow where
  uuid : String
  clusterId : ℕ
  nodeId : ℕ
deriving DecidableEq, Repr

namespace ClusterNode

def isKnownAs (node : ClusterNode) (cluster : ℕ) (hostname : String) : Bool :=
  node.clusterId == cluster && node.hostname == hostname

def staleSweep (node : ClusterNode) (cutoff : ℤ) : ClusterNode :=
  if node.status = .cordoned then node
  else if node.lastSeenAt.all (· < cutoff) then { node with status := .offline } else node

end ClusterNode

/-- The nodes and cards of the ledger. No id is given out twice. -/
structure NodeTable where
  liveClusters : List ℕ
  nodes : List ClusterNode
  devices : List DeviceRow
  nextId : ℕ
deriving DecidableEq, Repr

/-- What happens to the tables. A health event comes with the row that its query finds. -/
inductive NodeEvent where
  | reportNode (cluster : ℕ) (hostname : String) (ready : Option Bool) (now : ℤ)
  | reportDevice (cluster : ℕ) (hostname uuid : String) (ready : Option Bool) (now : ℤ)
  | health (id : ℕ) (cordon : Bool)
  | sweep (now : ℤ)
  | decommissioned (cluster : ℕ) (hostname : String)
  | delete (id live : ℕ)

namespace NodeTable

variable (table : NodeTable)

/-- Change the rows with the id. -/
def setStatus (id : ℕ) (status : NodeStatus) : List ClusterNode :=
  table.nodes.map fun node => if node.id = id then { node with status := status } else node

/-- The row of a node that is reported for the first time. -/
def newNode (cluster : ℕ) (hostname : String) (ready : Option Bool) (now : ℤ) : ClusterNode :=
  if ready = some false then ⟨table.nextId, cluster, hostname, .offline, none⟩
  else ⟨table.nextId, cluster, hostname, .ready, some now⟩

/-- The node of a report, as `upsert_node` and `upsert_device` treat it, and its row unless the report ends
there. A hostname that several rows have is an error. -/
def report (cluster : ℕ) (hostname : String) (ready : Option Bool) (now : ℤ) : Option (NodeTable × Option ℕ) :=
  if cluster ∉ table.liveClusters then some (table, none)
  else match table.nodes.filter (·.isKnownAs cluster hostname) with
    | [] => some ({ table with
        nodes := table.nodes ++ [table.newNode cluster hostname ready now]
        nextId := table.nextId + 1 }, some table.nextId)
    | [node] =>
      if node.status = .decommissioning then some (table, none)
      else some ({ table with nodes := table.nodes.map (Site.reportedAs cluster hostname ready now) },
        some node.id)
    | _ => none

/-- The row of the card follows the report. -/
def attach (cluster : ℕ) (uuid : String) (nodeId : ℕ) : NodeTable :=
  let here := fun dev : DeviceRow => dev.clusterId == cluster && dev.uuid == uuid
  { table with
    devices := if table.devices.any here then
        table.devices.map fun dev => if here dev then { dev with nodeId := nodeId } else dev
      else table.devices ++ [⟨uuid, cluster, nodeId⟩] }

/-- The clusters whose operator was heard from since the moment. -/
def aliveClusters (cutoff : ℤ) : List ℕ :=
  (table.nodes.filter fun node => node.lastSeenAt.any (cutoff ≤ ·)).map ClusterNode.clusterId

/-- The part of `node_liveness.run` that marks the silent nodes. -/
def sweep (now : ℤ) : NodeTable :=
  let cutoff := now - nodeStale * second
  { table with
    nodes := table.nodes.map fun node =>
      if (table.aliveClusters cutoff).contains node.clusterId then node.staleSweep cutoff else node }

def nodeDecommissioned (cluster : ℕ) (hostname : String) : Option NodeTable :=
  let gone := fun node : ClusterNode => node.isKnownAs cluster hostname && node.status == .decommissioning
  if 1 < (table.nodes.filter gone).length then none
  else some { table with nodes := table.nodes.filter (!gone ·) }

/-- `delete_node`, with the number of live allocations and sessions that it counts on the node. -/
def deleteNode (id live : ℕ) : Option NodeTable :=
  match table.nodes.find? (·.id == id) with
  | none => none
  | some node =>
    if node.status ≠ .offline ∧ node.status ≠ .decommissioning ∨ live ≠ 0 then none
    else some { table with
      nodes := table.setStatus id .decommissioning
      devices := table.devices.filter (·.nodeId != id) }

def step : NodeEvent → Option NodeTable
  | .reportNode cluster hostname ready now => (table.report cluster hostname ready now).map Prod.fst
  | .reportDevice cluster hostname uuid ready now =>
    (table.report cluster hostname ready now).map fun (reported, node) =>
      node.elim reported (reported.attach cluster uuid)
  | .health id cordon => some { table with nodes := if cordon then table.setStatus id .cordoned else table.nodes }
  | .sweep now => some (table.sweep now)
  | .decommissioned cluster hostname => table.nodeDecommissioned cluster hostname
  | .delete id live => table.deleteNode id live

end NodeTable

end GShare.Model
