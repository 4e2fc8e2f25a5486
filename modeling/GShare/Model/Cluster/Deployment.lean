import GShare.Model.Cluster.Resource
import GShare.Model.Device.Calls

/-! # The ledger and the custom resources of one cluster

The calls that book, keep, give up and take back a card, each with the custom resource that it leaves behind.
The operator is taken to be in step: it has done what a call asks of it when the next call begins, a paused
session keeps its resource, and that of a terminated session is deleted.
-/

namespace GShare.Model

open Accounting

/-- A session that runs or is on its way to it. -/
def Status.isUp : Status → Bool
  | .pending | .preparing | .running => true
  | .paused | .terminating | .terminated | .error => false

/-- The device tables, and the custom resources by their session. -/
structure Deployment where
  inventory : Inventory
  resources : Roster SessionResource.session

/-- A completed call, with the queries and the choices of the database. -/
inductive DeploymentCall where
  /-- `create_session` inserts the row. -/
  | persist (id : SessionId) (holder : Holder)
  /-- `create_session` hands a CPU session off. -/
  | handOff (id : SessionId)
  /-- `create_session` or `reschedule_from_queue` books a card and hands the session off. -/
  | reserve (id : SessionId) (query : Query)
  /-- They borrow a card and hand the session off. -/
  | borrow (id : SessionId) (query : Query)
  /-- `apply_desired` once more, with what the session object carries. -/
  | reapply (id : SessionId) (pinned : Option DeviceId)
  /-- The pod runs, and its report is in. -/
  | ran (id : SessionId)
  | stop (id : SessionId)
  | start (id : SessionId) (query : Query)
  | demote (id first : SessionId)
  | terminate (id : SessionId)
  /-- The finalizer of a deleted resource is done. -/
  | finalized (id : SessionId)

namespace Deployment

section

variable (handoff : Handoff) (dep : Deployment) (id : SessionId)

def bookedCard? : Option DeviceId :=
  (dep.inventory.live.find? id).bind Allocation.device

def withInventory (inv : Inventory) : Deployment :=
  { dep with inventory := inv }

def setStatus (dep : Deployment) (id : SessionId) (status : Status) : Deployment :=
  dep.withInventory (dep.inventory.setStatus id status)

/-- `apply_desired`: create the resource, or patch the one that is there. -/
def applyDesired (holder : Holder) (pinned : Option DeviceId) : Deployment :=
  let spec := handoff.desired (dep.inventory.live.find? id) holder pinned
  { dep with
    resources := match dep.resources.insert (.create id spec) with
      | some resources => resources
      | none => dep.resources.revise id
          (fun cr => { cr with spec := cr.spec.mergePatch spec }) fun _ => rfl }

/-- Pause or resume a session that has a resource; the patch of a missing one fails. -/
def setPaused (handoff : Handoff) (dep : Deployment) (id : SessionId) (paused : Bool)
    (holder : Holder) (gracefulDemote : Option Bool) (pinned : Option DeviceId) : Option Deployment :=
  if (dep.resources.find? id).isSome then
    some { dep with
      resources := dep.resources.revise id
        (·.setPaused handoff paused holder gracefulDemote pinned)
        SessionResource.setPaused_session }
  else none

/-- `terminate`: the allocation goes back and the resource is deleted. -/
def terminate : Deployment :=
  match dep.inventory.session id with
  | none => dep
  | some holder =>
    if holder.status = .terminated then dep
    else
      { inventory := (dep.inventory.releaseAllocation id).setStatus id .terminated
        resources := dep.resources.revise id
          (fun cr => { cr with deleting := true }) fun _ => rfl }

def borrowers (dev : DeviceId) (state : LendState) : List SessionId :=
  if state = .lent then (dep.inventory.live.rows.filter (·.borrows dev)).map Allocation.session
  else []

/-- `_reclaim_spot`: the borrowers of the card go, unless one of them outranks the resident. -/
def reclaim : Option Deployment :=
  match ResumeCall.loan? id dep.inventory with
  | none | some (_, .normal) => some dep
  | some (dev, state) =>
    let borrowers := dep.borrowers dev state
    let own := ((dep.inventory.session id).map Holder.priority).getD 0
    let highest := ((borrowers.filterMap dep.inventory.session).map Holder.priority).foldr max 0
    if own < highest then none
    else
      let freed := borrowers.foldl terminate dep
      some (freed.withInventory
        (freed.inventory.modifyCard dev fun card => { card with lendState := .normal }))

/-- The pod of a session may be built: it is wanted, and a borrowed card is really lent to it. -/
def admitsPod (cr : SessionResource) : Bool :=
  !cr.spec.paused && !cr.deleting && (cr.spec.borrowedGpuUuid.isNone ||
    (cr.borrowGuard dep.resources.rows).isOk)

/-- `start`: take the card back that the pod kept, or book one. -/
def start (holder : Holder) (query : Query) : Option Deployment :=
  if !holder.status.assertTransition .running then none
  else if holder.pauseMode = .yield ∧ (dep.inventory.live.find? id).isSome then
    (dep.reclaim id).bind fun freed =>
      (freed.setStatus id .running).setPaused handoff id false holder none none
  else if holder.resourceClass = .gpu then
    (dep.inventory.reserveSlice id holder query).bind fun (inv, placed) =>
      let booked := dep.withInventory inv
      if placed then
        (booked.setStatus id .running).setPaused handoff id false holder none (booked.bookedCard? id)
      else some booked
  else (dep.setStatus id .running).setPaused handoff id false holder none none

end

/-- `demote`, of a session that is paused with its pod kept: its workers call it for no other. -/
def demote (handoff : Handoff) (dep : Deployment) (id first : SessionId) (holder : Holder) :
    Option Deployment :=
  if holder.status = .paused ∧ holder.pauseMode = .yield then
    -- The card is empty: the pod may restore its memory once more.
    let graceful := (dep.inventory.residentCard? id).any fun dev =>
      (dep.inventory.card dev).isSome && (dep.inventory.firstBorrow dev first).isNone
    (dep.inventory.demote id first).bind fun inv =>
      (dep.withInventory inv).setPaused handoff id true { holder with pauseMode := .cold }
        (some graceful) none
  else none

/-- Run one call; `none` when it fails. -/
def apply (handoff : Handoff) (dep : Deployment) (call : DeploymentCall) : Option Deployment :=
  match call with
  | .persist id holder =>
    if holder.mode = some .mig then none
    else (dep.inventory.apply (.persist id holder)).map dep.withInventory
  | .handOff id =>
    (dep.inventory.session id).bind fun holder =>
      if holder.resourceClass = .cpu ∧ holder.status = .pending then
        some (dep.applyDesired handoff id holder none)
      else none
  | .reserve id query =>
    (dep.inventory.session id).bind fun holder =>
      if holder.resourceClass = .gpu ∧ holder.status = .pending then
        (dep.inventory.reserveSlice id holder query).map fun (inv, placed) =>
          let booked := dep.withInventory inv
          if placed then booked.applyDesired handoff id holder (booked.bookedCard? id) else booked
      else none
  | .borrow id query =>
    (dep.inventory.session id).bind fun holder =>
      if holder.resourceClass = .gpu ∧ holder.status = .pending then
        (dep.inventory.reserveSpotSlice id holder query).map fun (inv, placed) =>
          let booked := dep.withInventory inv
          if placed then booked.applyDesired handoff id holder none else booked
      else none
  | .reapply id pinned =>
    (dep.inventory.session id).bind fun holder =>
      if holder.status.isUp && (dep.resources.find? id).isSome then
        some (dep.applyDesired handoff id holder pinned)
      else none
  | .ran id =>
    (dep.inventory.session id).bind fun holder =>
      (dep.resources.find? id).bind fun cr =>
        if holder.status.isUp && dep.admitsPod cr then
          some { dep.setStatus id .running with
            resources := dep.resources.revise id (fun cr => { cr with
              isPaused := false
              boundGpuUuid := (dep.bookedCard? id).map handoff.uuid }) fun _ => rfl }
        else none
  | .stop id =>
    (dep.inventory.session id).bind fun holder =>
      match holder.status with
      | .pending | .preparing => some (dep.terminate id)
      | .running => (dep.setPaused handoff id true holder none none).map fun paused =>
          paused.withInventory (paused.inventory.pause id holder.pauseMode)
      | .paused | .terminating | .terminated | .error => none
  | .start id query =>
    (dep.inventory.session id).bind fun holder => dep.start handoff id holder query
  | .demote id first =>
    (dep.inventory.session id).bind fun holder => dep.demote handoff id first holder
  | .terminate id => (dep.inventory.session id).map fun _ => dep.terminate id
  | .finalized id =>
    (dep.resources.find? id).bind fun cr =>
      if cr.deleting then some { dep with resources := dep.resources.remove id }
      else none

end Deployment

end GShare.Model
