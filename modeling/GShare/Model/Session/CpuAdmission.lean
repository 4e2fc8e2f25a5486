import GShare.Model.Cluster.Deployment
import GShare.Model.Device.Admission

/-! # CPU sessions and the nodes they fit on

`_validate_capacity` for a CPU session: no node is too small for it, and the CPU nodes of its cluster have left
what it asks for, after the CPU sessions that are up. `create_session` makes this check, and `start` does not. A
call here is a completed one; a creation that fails leaves its row with an error.
-/

namespace GShare.Model

open Accounting

structure CpuSession where
  id : SessionId
  holder : Holder
  cpu : Option ℕ
  memGb : Option ℕ
  diskGb : Option ℕ
  deleted : Bool
deriving DecidableEq, Repr

namespace CpuSession

def need (sess : CpuSession) : HostResource → ℕ
  | .cpu => sess.cpu.getD 0
  | .memory => sess.memGb.getD 0
  | .disk => sess.diskGb.getD 0

def withStatus (sess : CpuSession) (status : Status) : CpuSession :=
  { sess with holder := { sess.holder with status := status } }

/-- The query of the sessions that take room on the CPU nodes of a cluster. -/
def takesRoom (cluster : ℕ) (sess : CpuSession) : Bool :=
  sess.holder.clusterId == cluster && !sess.deleted && sess.holder.resourceClass == .cpu
    && sess.holder.status.isUp

def taken (cluster : ℕ) (resource : HostResource) (sess : CpuSession) : ℕ :=
  if sess.takesRoom cluster then sess.need resource else 0

end CpuSession

def Node.reported (node : Node) : HostResource → ℕ
  | .cpu => node.cpu.getD 0
  | .memory => node.mem.getD 0
  | .disk => node.disk.getD 0

inductive NoCapacity where
  | noCpuNode (cluster : ℕ)
  | nodeTooSmall (resource : HostResource) (need : ℕ) (most : ℤ)
  | exhausted (resource : HostResource) (need available : ℕ)
deriving DecidableEq, Repr

structure CpuHall where
  nodes : List Node
  /-- The role of the node is `cpu`. -/
  isCpu : NodeId → Bool
  sessions : Roster CpuSession.id

namespace CpuHall

variable (hall : CpuHall)

def cpuNodes (cluster : ℕ) : List Node :=
  hall.nodes.filter fun node => node.clusterId == cluster && node.ready && hall.isCpu node.id

def total (cluster : ℕ) (resource : HostResource) : ℕ :=
  ((hall.cpuNodes cluster).map fun node => node.reported resource).sum

section

variable (sess : CpuSession) (resource : HostResource)

def used : ℕ :=
  (hall.sessions.remove sess.id).total (CpuSession.taken sess.holder.clusterId resource)

/-- A pod must land whole on one node. A resource that no node reports is not compared. -/
def feasible : Except NoCapacity Unit :=
  let need := sess.need resource
  let most : ℤ := ((hall.cpuNodes sess.holder.clusterId).map fun node => node.capacity resource).max?.getD 0
  if need ≠ 0 ∧ most ≠ 0 ∧ most < need then .error (.nodeTooSmall resource need most) else .ok ()

/-- Enough is left. Disk is compared only where some is reported. -/
def available : Except NoCapacity Unit :=
  let need := sess.need resource
  let total := hall.total sess.holder.clusterId resource
  let used := hall.used sess resource
  if need ≠ 0 ∧ (resource = .disk → 0 < total) ∧ total < used + need then
    .error (.exhausted resource need (total - used))
  else .ok ()

end

/-- `_validate_capacity`, of a CPU session. -/
def validateCapacity (sess : CpuSession) : Except NoCapacity Unit :=
  let resources := [HostResource.cpu, .memory, .disk]
  if resources.all fun resource => sess.need resource == 0 then .ok ()
  else if hall.cpuNodes sess.holder.clusterId = [] then .error (.noCpuNode sess.holder.clusterId)
  else do
    resources.forM (hall.feasible sess)
    resources.forM (hall.available sess)

def setStatus (id : SessionId) (status : Status) : CpuHall :=
  { hall with sessions := hall.sessions.revise id (·.withStatus status) fun _ => rfl }

end CpuHall

inductive CpuCall where
  /-- `create_session`; `admitted` when the later gates and the handoff let the session through. -/
  | create (sess : CpuSession) (admitted : Bool)
  /-- `stop`; `accepted` when the operator takes the pause. -/
  | stop (id : SessionId) (accepted : Bool)
  | start (id : SessionId) (solvent : Bool)
  | terminate (id : SessionId)
  /-- A report of the operator; `stale` when it is older than the current run. -/
  | report (id : SessionId) (event : StatusEvent) (stale : Bool)

namespace CpuHall

/-- The pending row is inserted, then checked; a rejected one stays with an error. -/
def create (hall : CpuHall) (sess : CpuSession) (admitted : Bool) : Option CpuHall :=
  if sess.holder.resourceClass = .cpu ∧ sess.holder.status = .pending ∧ sess.deleted = false then
    (hall.sessions.insert sess).map fun sessions =>
      let persisted := { hall with sessions := sessions }
      if (persisted.validateCapacity sess).isOk && admitted then persisted
      else persisted.setStatus sess.id .error
  else none

def reportedStatus (holder : Holder) (event : StatusEvent) (stale : Bool) : Status :=
  match Inventory.verdict holder event stale with
  | .ignore => holder.status
  | .bind => .running
  | .pause => .paused
  | .finish status => if holder.status.isFinal then holder.status else status
  | .advance status => status

/-- Run one call on a CPU session; `none` when it is refused. -/
def step (hall : CpuHall) : CpuCall → Option CpuHall
  | .create sess admitted => hall.create sess admitted
  | .stop id accepted =>
    (hall.sessions.find? id).bind fun sess =>
      match sess.holder.status with
      | .pending | .preparing => some (hall.setStatus id .terminated)
      | .running => if accepted then some (hall.setStatus id .paused) else none
      | .paused | .terminating | .terminated | .error => none
  | .start id solvent =>
    (hall.sessions.find? id).bind fun sess =>
      if sess.holder.resourceClass = .cpu ∧ sess.deleted = false ∧ solvent
          ∧ sess.holder.status.assertTransition .running then
        some (hall.setStatus id .running)
      else none
  | .terminate id => (hall.sessions.find? id).map fun _ => hall.setStatus id .terminated
  | .report id event stale =>
    (hall.sessions.find? id).map fun sess =>
      hall.setStatus id (reportedStatus sess.holder event stale)

end CpuHall

end GShare.Model
