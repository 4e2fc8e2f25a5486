import GShare.Model.Cluster.Nodes
import Mathlib.Data.Int.Order.Basic

/-! # The operator's reports and the liveness workers

The operators report the nodes of their clusters and the sessions that have a pod, at any time and in any
order; one that is down sends nothing for that long. `node_liveness` and `session_liveness` run at any moment and
judge by the times of the last reports. `Vigil` is the site with a clock; it also remembers when each session last
went up, and whether it has been reported since.
-/

namespace GShare.Model

def nodeStale : ℤ := 300

def sessionStale : ℤ := 300

namespace ClusterNode

variable (node : ClusterNode) (ready : Option Bool) (now : ℤ)

/-- `touch`: one report about the node. An operator that does not know the condition reports a live node. -/
def touch : ClusterNode :=
  if ready = some false then
    { node with status := if node.status = .ready ∨ node.status = .busy then .offline else node.status }
  else
    { node with
      lastSeenAt := some now
      status := if node.status = .offline then .ready else node.status }

/-- The report in `upsert_node`; a node that is being removed does not come back. -/
def reported : ClusterNode :=
  if node.status = .decommissioning then node else node.touch ready now

theorem reported_same :
    (node.reported ready now).id = node.id ∧ (node.reported ready now).clusterId = node.clusterId := by
  unfold reported touch
  split_ifs <;> exact ⟨rfl, rfl⟩

end ClusterNode

namespace Site

variable (site : Site) (cluster : ℕ)

/-- Change what a node says about itself. -/
def mapNodes (change : ClusterNode → ClusterNode)
    (same : ∀ node, (change node).id = node.id ∧ (change node).clusterId = node.clusterId) : Site where
  nodes := ⟨site.nodes.rows.map change, by
    have keeps : ClusterNode.id ∘ change = ClusterNode.id := funext fun node => (same node).1
    rw [List.map_map, keeps]
    exact site.nodes.unique⟩
  nodeOf := site.nodeOf
  seats := site.seats
  ledger := site.ledger
  homed seat member dev isDevice other isOther here := by
    obtain ⟨before, old, rfl⟩ := List.mem_map.mp isOther
    obtain ⟨sameId, sameCluster⟩ := same before
    rw [sameCluster]
    exact site.homed seat member dev isDevice before old (sameId ▸ here)

variable (hostname : String) (ready : Option Bool) (now : ℤ)

/-- The report as it changes the rows: a node is known by its cluster and hostname. -/
def reportedAs (node : ClusterNode) : ClusterNode :=
  if node.clusterId = cluster ∧ node.hostname = hostname then node.reported ready now else node

theorem reportedAs_same (node : ClusterNode) :
    (reportedAs cluster hostname ready now node).id = node.id ∧
      (reportedAs cluster hostname ready now node).clusterId = node.clusterId := by
  unfold reportedAs
  split_ifs
  · exact node.reported_same ready now
  · exact ⟨rfl, rfl⟩

/-- `upsert_node`, of a node that is known. -/
def upsertNode : Site :=
  site.mapNodes (reportedAs cluster hostname ready now) (reportedAs_same cluster hostname ready now)

/-- The newest report about a node of the cluster. -/
def lastNodeSeen : Option ℤ :=
  ((site.nodes.rows.filter (·.clusterId == cluster)).filterMap ClusterNode.lastSeenAt).max?

/-- `_operator_outlived`: the operator went on reporting nodes for a whole window after the session's last
report. -/
def operatorOutlived (lastReport : ℤ) : Bool :=
  (site.lastNodeSeen cluster).any fun seen => sessionStale * second ≤ seen - lastReport

/-- The pod of the session is taken to be lost: it has not been reported for a window, and its operator is alive
and has gone on without it. -/
def isLost (now : ℤ) (seat : Seat) : Bool :=
  seat.isActive && !seat.deleted && seat.row.lastReportedAt.any fun lastReport =>
    decide (lastReport < now - sessionStale * second)
      && ((site.lastNodeSeen seat.clusterId).any fun seen => decide (now - nodeStale * second ≤ seen))
      && site.operatorOutlived seat.clusterId lastReport

def lost (now : ℤ) : List SessionId := (site.seats.rows.filter (site.isLost now)).map Seat.id

/-- `session_liveness.run`: end the sessions whose pod is lost. -/
def settleLost (now : ℤ) (inputs : SessionId → List SiteEnv) : Site :=
  (site.lost now).foldl
    (fun site id => (run id (inputs id) site (.terminate (.code "pod_lost") .called)).1) site

def lastReported (id : SessionId) : Option ℤ :=
  (site.seats.find? id).bind (·.row.lastReportedAt)

/-- The session has come to run or to prepare for it. -/
def wentUp (next : Site) (id : SessionId) : Bool :=
  (next.seats.find? id).any fun seat =>
    seat.isActive && (site.seats.find? id).any (·.row.status != seat.row.status)

end Site

/-- The site under the eyes of the workers. -/
structure Vigil where
  site : Site
  clock : ℤ
  /-- When a session last came to run, or to prepare for it. -/
  upSince : SessionId → Option ℤ
  /-- The session has been reported since. -/
  heard : SessionId → Bool

inductive VigilEvent where
  /-- One transaction of a call on a session, a status callback or a heartbeat among them. -/
  | transact (id : SessionId) (call : SessionCall) (input : SiteEnv)
  | reportsNode (cluster : ℕ) (hostname : String) (ready : Option Bool) (now : ℤ)
  | nodeLiveness (now : ℤ) (inputs : SessionId → List SiteEnv)
  | sessionLiveness (now : ℤ) (inputs : SessionId → List SiteEnv)

namespace Vigil

/-- Take note of what happened. -/
def observe (vigil : Vigil) (next : Site) (now : ℤ) : Vigil where
  site := next
  clock := now
  upSince id := if vigil.site.wentUp next id then some now else vigil.upSince id
  heard id := next.lastReported id == some now || (vigil.heard id && !vigil.site.wentUp next id)

/-- One event; the clock does not go back. -/
def step (vigil : Vigil) : VigilEvent → Option Vigil
  | .transact id call input =>
    if input.env.now < vigil.clock then none
    else (vigil.site.turn id call input).map fun (next, _) => vigil.observe next input.env.now
  | .reportsNode cluster hostname ready now =>
    if now < vigil.clock then none
    else some (vigil.observe (vigil.site.upsertNode cluster hostname ready now) now)
  | .nodeLiveness now inputs =>
    if now < vigil.clock then none
    else some (vigil.observe (vigil.site.sweep (now - nodeStale * second) inputs) now)
  | .sessionLiveness now inputs =>
    if now < vigil.clock then none else some (vigil.observe (vigil.site.settleLost now inputs) now)

end Vigil

def VigilEvent.isWorker : VigilEvent → Bool
  | .nodeLiveness .. | .sessionLiveness .. => true
  | _ => false

/-- A site whose sessions the idle reaper pauses. -/
structure Ward where
  site : Site
  /-- For a custom resource with `spec.paused`: whether its `status.phase` is `Paused`. -/
  paused : SessionId → Option Bool

inductive WardEvent where
  /-- A heartbeat or another report on a session that is not paused. One that is lost is no event. -/
  | report (id : SessionId) (event : StatusEvent) (input : SiteEnv)
  | reportsNode (cluster : ℕ) (hostname : String) (ready : Option Bool) (now : ℤ)
  /-- The idle reaper sets `spec.paused`. -/
  | reap (id : SessionId)
  /-- A reconcile writes the phase `Paused` and reports it, once; without an input the report is lost. -/
  | pause (id : SessionId) (event : StatusEvent) (input : Option SiteEnv)
  | sessionLiveness (now : ℤ) (inputs : SessionId → List SiteEnv)

def Ward.step (ward : Ward) : WardEvent → Option Ward
  | .report id event input =>
    if ward.paused id = none then
      (ward.site.turn id (.callback event) input).map fun taken => { ward with site := taken.1 }
    else none
  | .reportsNode cluster hostname ready now =>
    some { ward with site := ward.site.upsertNode cluster hostname ready now }
  | .reap id =>
    if ward.paused id = none then some { ward with paused := Function.update ward.paused id (some false) }
    else none
  | .pause id event input =>
    if ward.paused id = some false ∧ event.phase = .paused then
      let site := input.elim (some ward.site) fun given =>
        (ward.site.turn id (.callback event) given).map Prod.fst
      site.map (⟨·, Function.update ward.paused id (some true)⟩)
    else none
  | .sessionLiveness now inputs => some { ward with site := ward.site.settleLost now inputs }

end GShare.Model
