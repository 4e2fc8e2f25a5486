import GShare.Model.Device.Inventory

/-! # The transactions on the device tables

Every committed transaction of admission, promotion, pause, resume, termination, demotion and the
operator callbacks, as far as it writes cards, allocations or the session columns that lending
depends on. `Inventory.apply` runs one of them; a transaction that fails leaves nothing behind.
-/

namespace GShare.Model

def StatusEvent.crashLoops (event : StatusEvent) : Bool :=
  mentions (event.containerState.getD "").toLower "crashloopbackoff"
    && decide (crashLoopRestarts ≤ event.restartCount.getD 0)

/-- One transaction. Queries, and what a call read in an earlier transaction, come with it. -/
inductive Transaction where
  /-- Admission commits the pending row. -/
  | persist (id : SessionId) (holder : Holder)
  /-- Admission or promotion takes a slice, or borrows one for a preemptible session. -/
  | place (id : SessionId) (query spotQuery : Query)
  /-- Admission borrows the card that a preempted session yielded. -/
  | borrow (id : SessionId) (query : Query)
  /-- A failed creation or promotion. -/
  | rollBack (id : SessionId)
  /-- The last transaction of a pause, in the mode that the call loaded. -/
  | pause (id : SessionId) (mode : PauseMode)
  /-- A resume that takes a slice again. -/
  | resumeCold (id : SessionId) (query : Query)
  /-- A resume that kept its slice, or that needs none. -/
  | resumeHeld (id : SessionId)
  /-- The last transaction of a reclaim: the loan is over. -/
  | reclaim (dev : DeviceId)
  | demote (id first : SessionId)
  /-- A termination claims the row, releases the slice, and ends. -/
  | claim (id : SessionId)
  | release (id : SessionId)
  | finish (id : SessionId)
  /-- An operator report; `stale` when it is older than the current run. -/
  | report (id : SessionId) (event : StatusEvent) (stale : Bool)

/-- What a report comes to: nothing, a card for the pod, a pause, the end, or a status. -/
inductive Verdict where
  | ignore | bind | pause
  | finish (status : Status)
  | advance (status : Status)
deriving DecidableEq, Repr

namespace Inventory

section

variable (inv : Inventory) (id : SessionId) (holder : Holder)

def place (query spotQuery : Query) : Option Inventory := do
  let (inv, placed) ← inv.reserveSlice id holder query
  if placed || !holder.preemptible then some inv
  else (inv.reserveSpotSlice id holder spotQuery).map Prod.fst

/-- The last transaction of a pause: the slice goes back, or the card becomes lendable. -/
def pause (mode : PauseMode) : Inventory :=
  let vacated :=
    match mode with
    | .yield => inv.setLendState id .yielded
    | .cold => inv.releaseAllocation id
  vacated.setStatus id .paused

/-- Take a slice again and say running, if one is found. -/
def resumeCold (query : Query) : Option Inventory := do
  let (inv, placed) ← inv.reserveSlice id holder query
  some (if placed then inv.setStatus id .running else inv)

variable (event : StatusEvent)

/-- The pod runs: bind it to a card. -/
def onRunning : Option Inventory :=
  (inv.ensureAllocation id holder event.boundGpuUuid).map fun bound =>
    bound.modifySession id fun holder => { holder with
      boundGpuUuid := reported event.boundGpuUuid <|> holder.boundGpuUuid
      status := .running }

/-- The operator took the pod down on its own. The books follow what it did: a yielded pod keeps its
allocation and the reported card becomes lendable. -/
def onPaused : Inventory :=
  let vacated :=
    if event.yielded then
      match inv.resolveDevice holder event.boundGpuUuid with
      | none => inv
      | some (dev, _) => inv.modifyCard dev fun card => { card with lendState := .yielded }
    else inv.releaseAllocation id
  vacated.setStatus id .paused

/-- The pod is gone for good; a session that is over keeps its status. -/
def onEnded (inv : Inventory) (id : SessionId) (status : Status) : Inventory :=
  (inv.releaseAllocation id).modifySession id fun holder =>
    if holder.status.isFinal then holder else { holder with status := status }

/-- A report the current state overtook. -/
def dropped (stale : Bool) : Bool :=
  match holder.status, event.phase with
  | .paused, .running | .paused, .preparing | .paused, .pending => true
  | .running, .paused | .running, .terminated | .running, .error => stale
  | _, _ => false

/-- What a report asks for, by its phase and the status of the row. A session that is over does not come
back. -/
def verdict (stale : Bool) : Verdict :=
  if dropped holder event stale then .ignore
  else
    match event.phase with
    | .paused =>
      match holder.status with
      | .pending | .preparing | .running => .pause
      | .paused | .terminating | .terminated | .error => .ignore
    | .heartbeat =>
      if (holder.status = .running ∨ holder.status = .preparing) ∧ event.crashLoops then .finish .error
      else if holder.status = .pending ∨ holder.status = .preparing then .bind
      else .ignore
    | .running =>
      match holder.status with
      | .terminating | .terminated | .error => .ignore
      | .pending | .preparing | .running | .paused => .bind
    | .terminated => .finish .terminated
    | .error => .finish .error
    | .preparing => if holder.status = .pending then .advance .preparing else .ignore
    | .terminating =>
      if holder.status = .running ∨ holder.status = .paused then .advance .terminating else .ignore
    | .pending | .idlewarning | .other => .ignore

/-- `on_status`, on the device tables. -/
def onStatus (stale : Bool) : Option Inventory :=
  match verdict holder event stale with
  | .ignore => some inv
  | .bind => inv.onRunning id holder event
  | .pause => some (inv.onPaused id holder event)
  | .finish status => some (inv.onEnded id status)
  | .advance status => some (inv.setStatus id status)

end

/-- Run one transaction; `none` when it fails or has no row to work on. -/
def apply (inv : Inventory) : Transaction → Option Inventory
  | .persist id holder =>
    if (inv.session id).isNone ∧ (inv.live.find? id).isNone ∧ holder.status = .pending then
      some { inv with session := Function.update inv.session id (some holder) }
    else none
  | .place id query spotQuery =>
    (inv.session id).bind fun holder => inv.place id holder query spotQuery
  | .borrow id query =>
    (inv.session id).bind fun holder => (inv.reserveSpotSlice id holder query).map Prod.fst
  | .rollBack id => some (inv.releaseReservation id)
  | .pause id mode => (inv.session id).map fun _ => inv.pause id mode
  | .resumeCold id query =>
    (inv.session id).bind fun holder => inv.resumeCold id holder query
  | .resumeHeld id => (inv.session id).map fun _ => inv.setStatus id .running
  | .reclaim dev => some (inv.modifyCard dev fun card => { card with lendState := .normal })
  | .demote id first => inv.demote id first
  | .claim id => (inv.session id).map fun _ => inv.modifySession id fun holder =>
      if holder.status = .terminated then holder else { holder with status := .terminating }
  | .release id => some (inv.releaseAllocation id)
  | .finish id => (inv.session id).map fun _ => inv.setStatus id .terminated
  | .report id event stale =>
    (inv.session id).bind fun holder => inv.onStatus id holder event stale

end Inventory

/-- The cards, and the live allocations by their session, that a unit of work has loaded. -/
structure Loaded where
  cards : List (DeviceId × Card) := []
  allocations : List (SessionId × Allocation) := []

/-- Every loaded object says what its row says. -/
def Loaded.Fresh (inv : Inventory) (loaded : Loaded) : Prop :=
  Machine.Fresh inv.card loaded.cards ∧ Machine.Fresh inv.live.find? loaded.allocations
deriving Decidable

namespace Inventory

/-- `_release_allocation` in a unit of work. The query finds the live allocation and the lock its card, but
the objects stay as they were loaded. -/
def releaseLoaded (inv : Inventory) (loaded : Loaded) (id : SessionId) : Option Inventory :=
  match inv.live.find? id with
  | none => some inv
  | some row =>
    let alloc := (loaded.allocations.lookup id).getD row
    let handedBack :=
      match inv.cardOf? alloc with
      | none => some inv
      | some (dev, current) =>
        let card := (loaded.cards.lookup dev).getD current
        (card.flush (card.release alloc) current).map (inv.setCard dev)
    handedBack.map fun inv => { inv with live := inv.live.remove id }

/-- A transaction together with what its unit of work has loaded before. The release of a pause and of a
termination is the one that runs inside of longer calls. -/
def perform (inv : Inventory) : Transaction × Loaded → Option Inventory
  | (.release id, loaded) => inv.releaseLoaded loaded id
  | (.pause id .cold, loaded) => (inv.session id).bind fun _ =>
      (inv.releaseLoaded loaded id).map fun inv => inv.setStatus id .paused
  | (transaction, _) => inv.apply transaction

/-- The transaction meets the condition and works on what the rows say. -/
def OnFresh (ok : Inventory → Transaction → Prop) (inv : Inventory) (call : Transaction × Loaded) : Prop :=
  ok inv call.1 ∧ call.2.Fresh inv

instance (ok : Inventory → Transaction → Prop) [∀ inv transaction, Decidable (ok inv transaction)]
    (inv : Inventory) (call : Transaction × Loaded) : Decidable (OnFresh ok inv call) :=
  inferInstanceAs (Decidable (_ ∧ _))

end Inventory

end GShare.Model
