import GShare.Accounting.Roster
import GShare.Model.Session.Scheduler

/-! # Nodes, and the sessions that go with them

The nodes of all clusters and the sessions on them. `drain_node` takes the sessions with a live allocation on
a card of the node and those that report its hostname, and moves or ends them; the liveness worker ends the
sessions that report the hostname of a node that is gone. Both act through the calls of the lifecycle service,
each on one session and on the common ledger.
-/

namespace GShare.Model

open Accounting Roster

inductive NodeStatus where
  | ready | busy | cordoned | offline | decommissioning
deriving DecidableEq, Repr

/-- One node. The same hostname may occur in several clusters. -/
structure ClusterNode where
  id : ℕ
  clusterId : ℕ
  hostname : String
  status : NodeStatus
  lastSeenAt : Option ℤ
deriving DecidableEq, Repr

/-- A session with its cluster and the card of its live allocation, and what else is its own. -/
structure Seat where
  row : Session
  clusterId : ℕ
  deleted : Bool
  live : Option AllocationKind
  device : Option DeviceId
  queued : Bool
  resumeGeneration : Option ℕ
  pauseAck : Option ℤ
  grace : Option ℤ
  yieldIdle : Option ℤ

namespace Seat

def id (seat : Seat) : SessionId := seat.row.id

def within (seat : Seat) (ledger : Ledger) : World where
  row := seat.row
  live := seat.live
  queued := seat.queued
  ledger := ledger
  resumeGeneration := seat.resumeGeneration
  pauseAck := seat.pauseAck
  grace := seat.grace
  yieldIdle := seat.yieldIdle

/-- The session after a transaction; `card` is where a new allocation is. -/
def after (seat : Seat) (world : World) (card : Option DeviceId) : Seat where
  row := { world.row with id := seat.row.id }
  clusterId := seat.clusterId
  deleted := seat.deleted
  live := world.live
  device := if world.live.isNone then none else if seat.live.isSome then seat.device else card
  queued := world.queued
  resumeGeneration := world.resumeGeneration
  pauseAck := world.pauseAck
  grace := world.grace
  yieldIdle := world.yieldIdle

/-- A session with a pod, or with one on the way. -/
def isActive (seat : Seat) : Bool := seat.row.status == .preparing || seat.row.status == .running

def reports (seat : Seat) (hosts : List String) : Bool :=
  seat.row.nodeHostname.any (hosts.contains ·) && seat.isActive && !seat.deleted

/-- The card of the session is on no node of another cluster. -/
def Homed (nodes : List ClusterNode) (nodeOf : DeviceId → Option ℕ) (seat : Seat) : Prop :=
  ∀ dev ∈ seat.device, ∀ node ∈ nodes, nodeOf dev = some node.id → node.clusterId = seat.clusterId

end Seat

/-- The nodes, the cards on them, and the sessions. A card is given to sessions of its cluster only. -/
structure Site where
  nodes : Roster ClusterNode.id
  nodeOf : DeviceId → Option ℕ
  seats : Roster Seat.id
  ledger : Ledger
  homed : ∀ seat ∈ seats.rows, seat.Homed nodes.rows nodeOf

/-- What a transaction meets, and the card that it would give the session. -/
structure SiteEnv where
  env : Env
  card : DeviceId

/-- Without a card there is no slice. -/
def Env.onCard (env : Env) (card : Option DeviceId) : Env :=
  { env with slice := card.bind fun _ => env.slice, spotSlice := card.bind fun _ => env.spotSlice }

section

variable (env : Env) (card : Option DeviceId)

@[simp]
theorem Env.onCard_now : (env.onCard card).now = env.now := rfl

@[simp]
theorem Env.onCard_accepted : (env.onCard card).accepted = env.accepted := rfl

end

/-- The card comes from a placement query, and not from a report. -/
def SessionCall.places : SessionCall → Bool
  | .start _ | .promote _ => true
  | .stop .. | .restart | .terminate .. | .callback _ | .cancel | .tick _ | .returned => false

namespace Site

/-- Replace the row of a session. -/
def setSeat (site : Site) (seat : Seat) (homed : seat.Homed site.nodes.rows site.nodeOf) : Site where
  nodes := site.nodes
  nodeOf := site.nodeOf
  seats := site.seats.revise seat.id (fun old => { seat with row := { seat.row with id := old.id } })
    fun _ => rfl
  ledger := site.ledger
  homed other member := by
    rcases mem_revise.mp member with ⟨old, -⟩ | ⟨_, -, -, rfl⟩
    · exact site.homed other old
    · exact homed

/-- The card if it is one of the cluster, and for a placement one of a ready node: `placeable_device_clauses`. -/
def cardOf (site : Site) (seat : Seat) (call : SessionCall) (dev : DeviceId) : Option DeviceId :=
  if ∀ node ∈ site.nodes.rows, site.nodeOf dev = some node.id →
      node.clusterId = seat.clusterId ∧ (call.places → node.status = .ready) then some dev
  else none

theorem homed_after {site : Site} {seat : Seat} {call : SessionCall} {world : World} {dev : DeviceId}
    (homed : seat.Homed site.nodes.rows site.nodeOf) :
    (seat.after world (site.cardOf seat call dev)).Homed site.nodes.rows site.nodeOf := by
  intro card isCard
  simp only [Seat.after] at isCard
  split_ifs at isCard
  · cases isCard
  · exact homed card isCard
  · unfold cardOf at isCard
    split_ifs at isCard with here
    · cases isCard
      exact fun node member own => (here node member own).1
    · cases isCard

/-- One transaction of a call on a session; a deleted one is not found. -/
def turn (site : Site) (id : SessionId) (call : SessionCall) (input : SiteEnv) : Option (Site × SessionCall) :=
  match found : site.seats.find? id with
  | none => none
  | some seat =>
    if seat.deleted then none
    else
      (call.next (seat.within site.ledger) (input.env.onCard (site.cardOf seat call input.card))).map fun reached =>
      ({ site.setSeat (seat.after reached.1 (site.cardOf seat call input.card))
          (homed_after (site.homed seat (find?_eq_some_iff.mp found).1)) with
        ledger := reached.1.ledger }, reached.2)

/-- Let a call run until it returns, or until the process stops; it stands where it is then. -/
def run (id : SessionId) : List SiteEnv → Site → SessionCall → Site × SessionCall
  | [], site, call => (site, call)
  | input :: inputs, site, call =>
    match site.turn id call input with
    | none => (site, call)
    | some (next, after) => run id inputs next after

variable (site : Site) (cutoff : ℤ)

/-- Change the columns of a session that no call changes for it. -/
def amend (id : SessionId) (pauseMode : Option PauseMode) (queue : Bool) : Site :=
  match found : site.seats.find? id with
  | none => site
  | some seat => site.setSeat
      { seat with
        row := { seat.row with pauseMode := pauseMode.getD seat.row.pauseMode }
        queued := seat.queued || queue }
      (site.homed seat (find?_eq_some_iff.mp found).1)

/-- The session passes the checks with which a resume begins, and is not running. -/
def stillPaused (id : SessionId) : Bool :=
  (site.seats.find? id).any fun seat =>
    seat.row.status.assertTransition .running && !(seat.within site.ledger).insolvent

inductive DrainMode where
  | reschedule | forceTerminate
deriving DecidableEq, Repr

structure EvictInput where
  stop : List SiteEnv
  start : List SiteEnv

/-- One session leaves the node. A pause that moves it is a cold one, and a session that nothing else fits
waits in the queue for its resume. -/
def evict (mode : DrainMode) (input : EvictInput) (id : SessionId) : Site :=
  match mode with
  | .forceTerminate => (run id input.stop site (.terminate .adminStopped .called)).1
  | .reschedule =>
    if (site.seats.find? id).any Seat.isActive then
      match run id input.stop (site.amend id (some .cold) false) (.stop (.code "drained") false .called) with
      | (stopped, .returned) =>
        let started := (run id input.start stopped (.start .called)).1
        if stopped.stillPaused id && started.stillPaused id then started.amend id none true else started
      | (stopped, _) => stopped
    else site

def onCards (node : ClusterNode) : List SessionId :=
  (site.seats.rows.filter fun seat => seat.device.any fun dev => site.nodeOf dev == some node.id).map
    Seat.id

def byHost (hosts : List String) : List SessionId :=
  (site.seats.rows.filter (·.reports hosts)).map Seat.id

/-- The sessions that a drain acts on. -/
def affected (node : ClusterNode) : List SessionId :=
  (site.onCards node ++ site.byHost [node.hostname]).eraseDups

/-- No new placements on the node. -/
def cordon (node : ClusterNode) : Site where
  nodes := site.nodes.revise node.id (fun old => { old with status := .cordoned }) fun _ => rfl
  nodeOf := site.nodeOf
  seats := site.seats
  ledger := site.ledger
  homed seat member dev isDevice other isOther here := by
    rcases mem_revise.mp isOther with ⟨old, -⟩ | ⟨before, old, -, rfl⟩
    · exact site.homed seat member dev isDevice other old here
    · exact site.homed seat member dev isDevice before old here

/-- `drain_node`. -/
def drain (node : ClusterNode) (mode : DrainMode) (inputs : SessionId → EvictInput) : Site :=
  (site.affected node).foldl (fun site id => site.evict mode (inputs id) id) (site.cordon node)

/-- The clusters whose operator was heard from since the moment. -/
def aliveClusters : List ℕ :=
  (site.nodes.rows.filter fun node => node.lastSeenAt.any (cutoff ≤ ·)).map ClusterNode.clusterId

/-- `stale_sweep`, for the nodes of a cluster whose operator reports: one that was silent is offline. -/
def swept (node : ClusterNode) : ClusterNode :=
  if (site.aliveClusters cutoff).contains node.clusterId ∧ node.status ≠ .cordoned
      ∧ node.lastSeenAt.all (· < cutoff) then { node with status := .offline }
  else node

theorem swept_same (site : Site) (cutoff : ℤ) (node : ClusterNode) :
    (site.swept cutoff node).id = node.id ∧ (site.swept cutoff node).clusterId = node.clusterId := by
  unfold swept
  split_ifs <;> exact ⟨rfl, rfl⟩

def markStale : Site where
  nodes := ⟨site.nodes.rows.map (site.swept cutoff), by
    have same : ClusterNode.id ∘ site.swept cutoff = ClusterNode.id :=
      funext fun node => (site.swept_same cutoff node).1
    rw [List.map_map, same]
    exact site.nodes.unique⟩
  nodeOf := site.nodeOf
  seats := site.seats
  ledger := site.ledger
  homed seat member dev isDevice other isOther here := by
    obtain ⟨before, old, rfl⟩ := List.mem_map.mp isOther
    obtain ⟨sameId, sameCluster⟩ := site.swept_same cutoff before
    rw [sameCluster]
    exact site.homed seat member dev isDevice before old (sameId ▸ here)

def gone : List ClusterNode :=
  (site.markStale cutoff).nodes.rows.filter fun node =>
    node.status == .offline && (site.aliveClusters cutoff).contains node.clusterId

/-- The sessions that the liveness worker ends. -/
def stranded : List SessionId :=
  site.byHost ((site.gone cutoff).map ClusterNode.hostname)

/-- `node_liveness.run`: mark the silent nodes, then end the sessions of the nodes that are gone. -/
def sweep (inputs : SessionId → List SiteEnv) : Site :=
  (site.stranded cutoff).foldl
    (fun site id => (run id (inputs id) site (.terminate (.code "node_offline") .called)).1)
    (site.markStale cutoff)

end Site

end GShare.Model
