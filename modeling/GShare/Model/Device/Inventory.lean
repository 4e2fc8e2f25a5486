import GShare.Model.Device.Card
import GShare.Model.Session.Callbacks

/-! # Cards, sessions and live allocations together

The functions of the scheduler, the lifecycle service and the operator callbacks that write a card or
an allocation: `reserve_slice`, `reserve_spot_slice`, `_release_reservation`, `_release_allocation`,
`_ensure_allocation` with `_bump_device_usage`, `demote` and the last transaction of `_reclaim_spot`.
What nodes, pools, offerings and host capacity say about a card comes with the query that asks.
-/

namespace GShare.Model

open Accounting

/-- The columns of a session that placement and lending read. -/
structure Holder where
  resourceClass : ResourceClass
  mode : Option CardMode
  clusterId : ℕ
  gpuMemMb : Option ℕ
  gpuCores : Option ℕ
  pauseMode : PauseMode
  preemptible : Bool
  priority : ℕ
  status : Status
  boundGpuUuid : Option String
deriving DecidableEq, Repr

/-- The device table, the sessions, and the allocations without an end, of which the partial unique
index allows one for each session. -/
structure Inventory where
  card : DeviceId → Option Card
  /-- The unique index on the physical identifier. -/
  byUuid : String → Option DeviceId
  session : SessionId → Option Holder
  live : Roster Allocation.session

/-- What a placement query finds beside the columns of the cards themselves. -/
structure Query where
  /-- The cards of the right model on nodes that take placements, in the order of the query. -/
  devices : List DeviceId
  /-- The node has the host CPU and memory that the session asks for. -/
  headroom : DeviceId → Bool
  /-- The cards the tenant may use, best pools first. -/
  tiers : List (DeviceId → Bool)
  spread : Bool

namespace Allocation

variable (alloc : Allocation) (dev : DeviceId)

/-- It is recorded on the card. -/
def isOn : Bool := alloc.device == some dev

def borrows : Bool :=
  alloc.isOn dev && alloc.kind == .spot

def occupies : Bool :=
  alloc.isOn dev && alloc.kind == .resident

/-- The memory it adds to the card's drift-free sum. -/
def memOn (alloc : Allocation) : ℕ :=
  if alloc.occupies dev then alloc.gpuMemMb.getD 0 else 0

def coresOn (alloc : Allocation) : ℕ :=
  if alloc.occupies dev then alloc.gpuCores.getD 0 else 0

end Allocation

namespace Inventory

section

variable (inv : Inventory) (id : SessionId) (holder : Holder)

def setCard (dev : DeviceId) (card : Card) : Inventory :=
  { inv with card := Function.update inv.card dev (some card) }

def modifyCard (dev : DeviceId) (change : Card → Card) : Inventory :=
  match inv.card dev with
  | none => inv
  | some card => inv.setCard dev (change card)

def modifySession (change : Holder → Holder) : Inventory :=
  { inv with
    session := Function.update inv.session id ((inv.session id).map change) }

def setStatus (inv : Inventory) (id : SessionId) (status : Status) : Inventory :=
  inv.modifySession id fun holder => { holder with status := status }

/-- Recompute the counters of the queried cards from the live allocations that are no borrows. -/
def reconcile (inv : Inventory) : List DeviceId → Option Inventory
  | [] => some inv
  | dev :: rest =>
    match inv.card dev with
    | none => inv.reconcile rest
    | some card => do
      let card ← card.setUsed (inv.live.total (Allocation.memOn dev))
        (inv.live.total (Allocation.coresOn dev))
      (inv.setCard dev card).reconcile rest

/-- The cards a query returns that meet a condition on their columns. -/
def candidates (devices : List DeviceId) (meets : Card → Bool) : List Candidate :=
  devices.filterMap fun dev =>
    (inv.card dev).bind fun card => if meets card then some (dev, card) else none

/-- The pools that serve a request: a fractional one may also get an instance of a partitioned card. A
request without a mode matches no card. -/
def serves (mode : Option CardMode) (card : Card) : Bool :=
  mode.any fun mode => card.mode == some mode || mode == .fractional && card.mode == some .mig

/-- A card of the session's pool that may receive a placement. -/
def placeable (card : Card) : Bool :=
  card.ready && card.modeState == .ready && card.lendState == .normal
    && card.clusterId == holder.clusterId && serves holder.mode card

/-- Record an allocation; the unique index refuses a second live one of a session. -/
def record (alloc : Allocation) : Option Inventory :=
  (inv.live.insert alloc).map fun live => { inv with live := live }

def book (target : Target) : Option Inventory := do
  let card ← inv.card target.device
  let card ← card.setUsed (card.usedMemMb + target.mem) (card.usedCores + target.cores)
  (inv.setCard target.device card).record
    ⟨id, some target.device, some target.mem, some target.cores, .resident⟩

/-- `reserve_slice`: correct the counters of all candidates, then place tier by tier. -/
def reserveSlice (query : Query) : Option (Inventory × Bool) := do
  let devices := (inv.candidates query.devices (placeable holder)).map Prod.fst
  let inv ← inv.reconcile devices
  let roomy := inv.candidates (devices.filter query.headroom) fun _ => true
  let target := query.tiers.findSome? fun tier =>
    reserveTarget (roomy.filter fun (dev, _) => tier dev) (holder.gpuMemMb.getD 0)
      (holder.gpuCores.getD 0) (holder.mode == some .exclusive) query.spread
  match target with
  | none => some (inv, false)
  | some target => (inv.book id target).map fun inv => (inv, true)

/-- A yielded or lent card of the session's cluster. -/
def lendable (card : Card) : Bool :=
  card.ready && card.clusterId == holder.clusterId && card.mode == some .exclusive
    && card.lendState != .normal

/-- What a borrower takes of a card beside the borrowers that are there: the whole card if it asks for
one and nobody is there, else its own size if that is left. -/
def borrowable : Candidate → Option Target
  | (dev, card) =>
    let borrows := inv.live.rows.filter (·.borrows dev)
    let mem := holder.gpuMemMb.getD 0
    let cores := holder.gpuCores.getD 0
    if holder.mode = some .exclusive then
      if borrows.isEmpty then some ⟨dev, card.totalMemMb, card.totalCores⟩ else none
    else if 0 < mem ∧ (borrows.map fun borrow => borrow.gpuMemMb.getD 0).sum + mem ≤ card.totalMemMb
        ∧ (borrows.map fun borrow => borrow.gpuCores.getD 0).sum + cores ≤ card.totalCores then
      some ⟨dev, mem, cores⟩
    else none

/-- Record a borrow and mark the card lent; the counters stay the resident's. -/
def borrow (target : Target) : Option Inventory :=
  (inv.modifyCard target.device fun card => { card with lendState := .lent }).record
    ⟨id, some target.device, some target.mem, some target.cores, .spot⟩

/-- The first yielded or lent card with room. -/
def spotTarget (query : Query) : Option Target :=
  let allowed := query.devices.filter fun dev => query.tiers.any (· dev)
  (inv.candidates allowed (lendable holder)).findSome? (inv.borrowable holder)

/-- `reserve_spot_slice`: borrow the first yielded or lent card with room. -/
def reserveSpotSlice (query : Query) : Option (Inventory × Bool) :=
  match inv.spotTarget holder query with
  | none => some (inv, false)
  | some target => (inv.borrow id target).map fun inv => (inv, true)

/-- Close the live allocation of a session and hand it back to its card. -/
def close (handBack : Card → Allocation → Card) : Inventory :=
  match inv.live.find? id with
  | none => inv
  | some alloc =>
    let inv :=
      match alloc.device with
      | none => inv
      | some dev => inv.modifyCard dev (handBack · alloc)
    { inv with live := inv.live.remove id }

/-- `_release_allocation`, of the lifecycle service and of the callbacks. -/
def releaseAllocation : Inventory :=
  inv.close id Card.release

/-- `_release_reservation`: close the reservation of a failed handoff, and mark a session that never
started as failed. -/
def releaseReservation (inv : Inventory) (id : SessionId) : Inventory :=
  (inv.close id Card.rollBack).modifySession id fun holder =>
    if holder.status = .pending ∨ holder.status = .preparing then { holder with status := .error }
    else holder

/-- The card a report is about, by the reported or the last known identifier, in the session's
cluster. -/
def resolveDevice (uuid : Option String) : Option Candidate := do
  if holder.resourceClass = .cpu then none
  let uuid ← reported uuid <|> reported holder.boundGpuUuid
  let dev ← inv.byUuid uuid
  let card ← inv.card dev
  if card.clusterId = holder.clusterId then some (dev, card) else none

/-- Add what a session asked for to the counters of its card; an exclusive one occupies all of it. -/
def bumpDeviceUsage (card : Card) : Option Card :=
  if holder.mode = some .exclusive then card.setUsed card.totalMemMb card.totalCores
  else card.setUsed (card.usedMemMb + holder.gpuMemMb.getD 0) (card.usedCores + holder.gpuCores.getD 0)

/-- `_ensure_allocation` with `_bump_device_usage`: a running pod gets an allocation unless it has
one. A CPU session holds no slice. -/
def ensureAllocation (uuid : Option String) : Option Inventory :=
  if holder.resourceClass = .cpu ∨ (inv.live.find? id).isSome then some inv
  else
    match inv.resolveDevice holder uuid with
    | none => inv.record ⟨id, none, holder.gpuMemMb, holder.gpuCores, .resident⟩
    | some (dev, card) => do
      let card ← bumpDeviceUsage holder card
      (inv.setCard dev card).record
        ⟨id, some dev, holder.gpuMemMb, holder.gpuCores, .resident⟩

def resident? : Option Allocation :=
  (inv.live.find? id).filter (·.kind == .resident)

def residentCard? : Option DeviceId :=
  (inv.resident? id).bind Allocation.device

/-- Mark the card of a session's own allocation. -/
def setLendState (state : LendState) : Inventory :=
  match inv.residentCard? id with
  | none => inv
  | some dev => inv.modifyCard dev fun card => { card with lendState := state }

/-- A value, or a default for a missing or zero one. -/
def orElse (value : Option ℕ) (default : ℕ) : ℕ :=
  match value with
  | none | some 0 => default
  | some value => value

/-- The borrower that a demotion makes the occupant of the card: the row the database returns first. -/
def firstBorrow (dev : DeviceId) (first : SessionId) : Option Allocation :=
  (inv.live.rows.find? fun row => row.borrows dev && row.session == first)
    <|> inv.live.rows.find? (·.borrows dev)

def promoteBorrow : Roster Allocation.session :=
  inv.live.revise id (fun row => { row with kind := .resident }) fun _ => rfl

/-- Take the card from its resident: a borrower becomes the occupant, or the card is empty. -/
def takeCard (dev : DeviceId) (card : Card) (first : SessionId) : Option Inventory :=
  match inv.firstBorrow dev first with
  | some borrow => do
    let card ← card.setUsed (orElse borrow.gpuMemMb card.totalMemMb) (orElse borrow.gpuCores card.totalCores)
    some { inv.setCard dev { card with lendState := .normal } with
      live := inv.promoteBorrow borrow.session }
  | none => do
    let card ← card.setUsed 0 0
    some (inv.setCard dev { card with lendState := .normal })

def cardOf? (alloc : Allocation) : Option Candidate :=
  alloc.device.bind fun dev => (inv.card dev).map fun card => (dev, card)

/-- End a session's own allocation for good. -/
def vacate (first : SessionId) : Option Inventory :=
  match inv.resident? id with
  | none => some inv
  | some alloc =>
    let taken :=
      match inv.cardOf? alloc with
      | none => some inv
      | some (dev, card) => inv.takeCard dev card first
    taken.map fun taken => { taken with live := taken.live.remove id }

end

/-- `demote`: the session loses its own allocation and its claim to a lossless resume. -/
def demote (inv : Inventory) (id first : SessionId) : Option Inventory :=
  (inv.vacate id first).map fun vacated =>
    vacated.modifySession id fun holder => { holder with pauseMode := .cold }

end Inventory

end GShare.Model
