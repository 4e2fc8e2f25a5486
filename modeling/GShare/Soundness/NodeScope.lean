import GShare.Proofs.Cluster.Nodes
import GShare.Soundness.Samples

/-! # Node operations and the cluster of the node

A drain and the liveness worker find the sessions of a node by its hostname, among the sessions of all
clusters. They stay inside the cluster of the node exactly as long as no session of another cluster is on a
node of the same name.
-/

namespace GShare.Soundness.NodeScope

open Accounting GShare.Model Site List

/-- A drain acts on sessions of the node's cluster, and every session of another cluster keeps what it has. -/
structure DrainLocal (site : Site) (node : ClusterNode) (next : Site) : Prop where
  acted : ∀ seat ∈ site.seats.rows, seat.id ∈ site.affected node → seat.clusterId = node.clusterId
  others : ∀ seat ∈ site.seats.rows, seat.clusterId ≠ node.clusterId → Keeps seat.id site next

def On (nodes : List ClusterNode) (seat : Seat) : Prop :=
  ∃ node ∈ nodes, node.clusterId = seat.clusterId ∧ seat.row.nodeHostname = some node.hostname

/-- The worker ends sessions whose own node is gone, and every other session keeps what it has. -/
structure SweepLocal (site : Site) (cutoff : ℤ) (next : Site) : Prop where
  acted : ∀ seat ∈ site.seats.rows, seat.id ∈ site.stranded cutoff → On (site.gone cutoff) seat
  others : ∀ seat ∈ site.seats.rows, ¬ On (site.gone cutoff) seat → Keeps seat.id site next

/-- Every session with a pod under the hostname of one of the nodes is in the cluster of such a node. -/
def NoNamesake (site : Site) (nodes : List ClusterNode) : Prop :=
  ∀ seat ∈ site.seats.rows, seat.reports (nodes.map ClusterNode.hostname) → On nodes seat

variable {site : Site} {node : ClusterNode} {mode : DrainMode} {cutoff : ℤ}
variable {id : SessionId}

theorem drain_keeps {inputs : SessionId → EvictInput} (apart : id ∉ site.affected node) :
    Keeps id site (site.drain node mode inputs) := by
  have cordoned : Keeps id site (site.cordon node) := ⟨rfl, rfl⟩
  exact cordoned.trans (foldl_keeps (fun _ _ differs => evict_keeps differs) apart)

theorem sweep_keeps {inputs : SessionId → List SiteEnv} (apart : id ∉ site.stranded cutoff) :
    Keeps id site (site.sweep cutoff inputs) := by
  have marked : Keeps id site (site.markStale cutoff) := ⟨rfl, rfl⟩
  exact marked.trans (foldl_keeps (fun _ _ differs => run_keeps trivial differs) apart)

/-- Without a namesake, a drain finds sessions of the node's cluster only: a card is given to sessions of
its cluster. -/
theorem affected_local (listed : node ∈ site.nodes.rows) (alone : NoNamesake site [node]) {seat : Seat}
    (member : seat ∈ site.seats.rows) (acted : seat.id ∈ site.affected node) : seat.clusterId = node.clusterId := by
  obtain ⟨found, isFound, same, onCard | reports⟩ := mem_affected.mp acted
  · obtain ⟨dev, isDevice, here⟩ := onCard
    rw [← Roster.eq_of_key isFound member same]
    exact (site.homed found isFound dev isDevice node listed here).symm
  · obtain ⟨own, isOwn, sameCluster, -⟩ := alone found isFound reports
    rw [← Roster.eq_of_key isFound member same, ← sameCluster, mem_singleton.mp isOwn]

theorem drainLocal_iff (listed : node ∈ site.nodes.rows) (inputs : SessionId → EvictInput) :
    DrainLocal site node (site.drain node mode inputs) ↔ NoNamesake site [node] := by
  constructor
  · intro stays seat member reports
    have acted := mem_affected.mpr ⟨seat, member, rfl, .inr reports⟩
    refine ⟨node, mem_singleton_self node, (stays.acted seat member acted).symm, ?_⟩
    simp only [Seat.reports, map_cons, map_nil, Bool.and_eq_true, Option.any_eq_true] at reports
    obtain ⟨⟨⟨host, isHost, same⟩, -⟩, -⟩ := reports
    rw [isHost]
    simpa using same
  · intro alone
    refine ⟨fun seat member => affected_local listed alone member, fun seat member foreign => ?_⟩
    exact drain_keeps fun acted => foreign (affected_local listed alone member acted)

theorem sweepLocal_iff (inputs : SessionId → List SiteEnv) :
    SweepLocal site cutoff (site.sweep cutoff inputs) ↔ NoNamesake site (site.gone cutoff) := by
  constructor
  · intro stays seat member reports
    exact stays.acted seat member (mem_byHost.mpr ⟨seat, member, reports, rfl⟩)
  · intro alone
    have own : ∀ seat ∈ site.seats.rows, seat.id ∈ site.stranded cutoff → On (site.gone cutoff) seat := by
      intro seat member acted
      obtain ⟨found, isFound, reports, same⟩ := mem_byHost.mp acted
      rw [← Roster.eq_of_key isFound member same]
      exact alone found isFound reports
    exact ⟨own, fun seat member elsewhere => sweep_keeps fun acted => elsewhere (own seat member acted)⟩

/-- Both stay inside the cluster of the node iff no session of another cluster is active on a node of that
name. -/
theorem node_operations_local_iff (site : Site) (node : ClusterNode) (listed : node ∈ site.nodes.rows)
    (mode : DrainMode) (cutoff : ℤ) (evictions : SessionId → EvictInput) (inputs : SessionId → List SiteEnv) :
    (DrainLocal site node (site.drain node mode evictions) ↔ NoNamesake site [node]) ∧
    (SweepLocal site cutoff (site.sweep cutoff inputs) ↔ NoNamesake site (site.gone cutoff)) :=
  ⟨drainLocal_iff listed evictions, sweepLocal_iff inputs⟩

section Sample

open Samples

/-- A node of the first cluster that is not heard from any more. -/
def silentNode : ClusterNode := ⟨0, 0, "gpu-1", .ready, none⟩

def seatOn (id clusterId : ℕ) (hostname : String) (dev : DeviceId) : Seat where
  row := { wholeCard id 600 with nodeHostname := some hostname }
  clusterId := clusterId
  deleted := false
  live := some .resident
  device := some dev
  queued := false
  resumeGeneration := none
  pauseAck := none
  grace := none
  yieldIdle := none

/-- Two clusters. The first has a silent node with one session; the session of the second is on a node of some
name. -/
def twoClusters (hostname : String) : Site where
  nodes := ⟨[silentNode, ⟨1, 0, "gpu-2", .ready, some 100⟩, ⟨2, 1, hostname, .ready, some 100⟩],
    (by decide : [0, 1, 2].Nodup)⟩
  nodeOf dev := some (if dev = 0 then 0 else 2)
  seats := ⟨[seatOn 6 0 "gpu-1" 0, seatOn 7 1 hostname 1], (by decide : [6, 7].Nodup)⟩
  ledger := hundredCredits
  homed := by
    intro seat member dev isDevice node isNode here
    simp only [mem_cons, not_mem_nil, or_false] at member isNode
    rcases member with rfl | rfl <;> cases isDevice <;> rcases isNode with rfl | rfl | rfl <;>
      first | rfl | simp [silentNode] at here

/-- Enough transactions for a termination. -/
def fiveTurns : List SiteEnv := List.replicate 5 ⟨granted (60 * second), 0⟩

/-- The status of a session and how many rows the ledger has about it. -/
def outcome (site : Site) (id : SessionId) : Option Status × ℕ :=
  ((site.seats.find? id).map (·.row.status), (site.ledger.rowsOf id).length)

/-- With names of their own, the drain and the worker end the session of the silent node only. -/
theorem twoClusters_local : DrainLocal (twoClusters "gpu-3") silentNode
      ((twoClusters "gpu-3").drain silentNode .forceTerminate fun _ => ⟨fiveTurns, []⟩) ∧
    SweepLocal (twoClusters "gpu-3") 50 ((twoClusters "gpu-3").sweep 50 fun _ => fiveTurns) ∧
    (outcome ((twoClusters "gpu-3").sweep 50 fun _ => fiveTurns) 6).1 = some .terminated := by
  have operations := node_operations_local_iff (twoClusters "gpu-3") silentNode (by decide) .forceTerminate 50
    (fun _ => ⟨fiveTurns, []⟩) fun _ => fiveTurns
  refine ⟨operations.1.mpr ?_, operations.2.mpr ?_, by decide +kernel⟩
  · unfold NoNamesake On
    decide +kernel
  · unfold NoNamesake On
    decide +kernel

/-- A session of the second cluster that is on a node of the same name is ended and billed with it. -/
theorem twoClusters_namesake :
    let site := twoClusters "gpu-1"
    let drained := site.drain silentNode .forceTerminate fun _ => ⟨fiveTurns, []⟩
    let swept := site.sweep 50 fun _ => fiveTurns
    outcome site 7 = (some .running, 0) ∧ outcome drained 7 = (some .terminated, 2) ∧
    outcome swept 7 = (some .terminated, 2) ∧ ¬ DrainLocal site silentNode drained ∧
    ¬ SweepLocal site 50 swept := by
  intro site drained swept
  have listed : seatOn 7 1 "gpu-1" 1 ∈ site.seats.rows := by simp [site, twoClusters]
  have alive {after : Site} (same : after.seats.find? 7 = site.seats.find? 7) :
      (after.seats.find? 7).map (·.row.status) ≠ some .terminated := by
    rw [same]
    decide +kernel
  refine ⟨by decide +kernel, by decide +kernel, by decide +kernel, fun stays => ?_, fun stays => ?_⟩
  · exact alive (stays.others _ listed (by decide)).seat (by decide +kernel)
  · exact alive (stays.others _ listed (by unfold On; decide +kernel)).seat (by decide +kernel)

end Sample

end GShare.Soundness.NodeScope
