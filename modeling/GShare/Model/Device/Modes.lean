import GShare.Model.Device.Transactions

/-! # Moving cards between the pools

Who writes `mode`, `desired_mode` and `mode_state` of a card: the administrator's `set_gpu_device_mode` and
`set_pool_targets`, the inventory sync (`upsert_device`), and the pool rebalancer with the
`GpuModeChange` objects that the operator carries out on the node. `CardTables.apply` runs one transaction
of any of these, or one of the transactions on sessions.
-/

namespace GShare.Model

open Function

/-- What a node runs for a card. -/
inductive Backend where
  | hamiCore | mig
deriving DecidableEq, Repr

/-- `_TARGET_BACKEND`. -/
def CardMode.backend : CardMode → Backend
  | .fractional | .exclusive => .hamiCore
  | .mig => .mig

inductive ChangePhase where
  | pending | running | succeeded | failed
deriving DecidableEq, Repr

/-- A `GpuModeChange` object: one for each card at most, by its name. -/
structure ModeChange where
  target : Backend
  phase : ChangePhase
  jobCreated : Bool
deriving DecidableEq, Repr

/-- What the operator sees of the node's job. -/
inductive JobState where
  | active | succeeded | failed | gone
deriving DecidableEq, Repr

namespace ModeChange

def finished (change : ModeChange) : Bool := change.phase == .succeeded || change.phase == .failed

/-- The object that `apply_change` creates. -/
def requested (target : Backend) : ModeChange := ⟨target, .pending, false⟩

/-- One reconcile of the operator. Without an agent image every change fails. -/
def reconcile (change : ModeChange) (configured : Bool) (job : JobState) : ModeChange :=
  if change.finished then change
  else if !configured then { change with phase := .failed }
  else if !change.jobCreated then { change with phase := .running, jobCreated := true }
  else
    match job with
    | .active => change
    | .succeeded => { change with phase := .succeeded }
    | .failed | .gone => { change with phase := .failed }

end ModeChange

/-- The status of a card; a fault is only taken back by an administrator. -/
inductive DeviceStatus where
  | ready | notready | unhealthy
deriving DecidableEq, Repr

structure DeviceReport where
  /-- The row of the card: a new one is named after the reported identifier. -/
  device : DeviceId
  uuid : String
  clusterId : ℕ
  mode : Option CardMode
  totalMemMb : ℕ
  usedMemMb : ℕ
  totalCores : ℕ
  usedCores : ℕ
  status : DeviceStatus
  /-- The cluster is registered. -/
  clusterLive : Bool
  /-- The node is being decommissioned. -/
  nodeLeaving : Bool
deriving DecidableEq, Repr

namespace Card

def placeableDevice (card : Card) (nodeReady : Bool) : Bool :=
  card.ready && card.modeState == .ready && card.lendState == .normal && nodeReady

/-- The report decides between partitioned and not; among the other two modes the administrator does, and
without a target the report is taken for a card that was partitioned or new. -/
def observe (card : Card) (mode : Option CardMode) : Card :=
  match mode with
  | none => card
  | some .mig => { card with mode := some .mig }
  | some reported =>
    if card.desiredMode.any isMetadata then
      if card.modeState = .ready then { card with mode := card.desiredMode } else card
    else if card.mode = none ∨ card.mode = some .mig then { card with mode := some reported }
    else card

/-- Take the reported size; the check constraint may fail the transaction. -/
def resize (card : Card) (mem cores : ℕ) : Option Card :=
  if fits : card.usedMemMb ≤ mem ∧ card.usedCores ≤ cores then
    some { card with totalMemMb := mem, totalCores := cores, noOvercommit := fits }
  else none

def refresh (card : Card) (faulted : Bool) (report : DeviceReport) : Option Card :=
  (card.resize report.totalMemMb (if report.totalCores = 0 then card.totalCores else report.totalCores)).map
    fun sized => Card.observe { sized with
      ready := if report.status = .unhealthy ∨ !faulted then report.status == .ready else card.ready }
      report.mode

/-- The row of a card that is reported for the first time. -/
def fromReport (report : DeviceReport) : Option Card :=
  let cores := if report.totalCores = 0 then 100 else report.totalCores
  if fits : report.usedMemMb ≤ report.totalMemMb ∧ report.usedCores ≤ cores then
    some {
      clusterId := report.clusterId
      totalMemMb := report.totalMemMb
      usedMemMb := report.usedMemMb
      totalCores := cores
      usedCores := report.usedCores
      ready := report.status == .ready
      mode := report.mode
      desiredMode := none
      modeState := .ready
      lendState := .normal
      noOvercommit := fits }
  else none

variable (card : Card)

/-- `set_gpu_device_mode`: a loan has to end first. -/
def setMode (desired : Option CardMode) : Option Card :=
  if card.lendState ≠ .normal then none
  else some { card with
    desiredMode := desired
    modeState := if desired = none ∨ desired = card.mode then .ready else .draining }

def targetPool : CardMode := (card.desiredMode <|> card.mode).getD .fractional

/-- `set_pool_targets` sends a card to the partitioned pool, or takes it back from there. -/
def sendToMig : Card :=
  { card with desiredMode := some .mig, modeState := if card.mode = some .mig then .ready else .draining }

def takeFromMig : Card :=
  { card with
    desiredMode := some .fractional, modeState := if card.mode = some .mig then .draining else .ready }

/-- A change between partitioned and not, which the node has to carry out. -/
def needsNodeWork : Bool := (card.desiredMode == some .mig) != (card.mode == some .mig)

def isEmpty : Bool :=
  card.usedMemMb == 0 && card.usedCores == 0 && card.lendState == .normal

/-- The backend that the rebalancer asks the operator for. -/
def request? (hasNode : Bool) : Option Backend :=
  if card.modeState = .draining ∧ card.needsNodeWork ∧ card.isEmpty ∧ hasNode then
    card.desiredMode.map CardMode.backend
  else none

end Card

/-- How the cluster answers the rebalancer: whether it does, and whether a deletion goes through. -/
structure ApiAnswer where
  answers : Bool
  deletes : Bool
deriving DecidableEq, Repr

/-- `_step` of the rebalancer, for a card that is draining or applying. An object that exists is left as it
is when a change is requested. -/
def rebalanceStep (card : Card) (change : Option ModeChange) (hasNode : Bool) (api : ApiAnswer) :
    Card × Option ModeChange :=
  match card.modeState, card.desiredMode with
  | .ready, _ | .error, _ => (card, change)
  | .draining, none | .applying, none => ({ card with modeState := .ready }, change)
  | .draining, some _ =>
    if !card.needsNodeWork then (card.applyDrainedMode, change)
    else
      match card.request? hasNode with
      | none => (card, change)
      | some target =>
        if api.answers then
          ({ card with modeState := .applying }, change <|> some (.requested target))
        else (card, change)
  | .applying, some desired =>
    match if api.answers then change.map ModeChange.phase else none with
    | some .failed => ({ card with modeState := .error }, change)
    | some .succeeded =>
      if (card.mode == some .mig) = (desired == .mig) then
        ({ card with mode := some desired, modeState := .ready }, if api.deletes then none else change)
      else (card, change)
    | _ => (card, change)

namespace Inventory

variable (inv : Inventory) (rows : List DeviceId) (clusterId : ℕ)

def modifyCards (devices : List DeviceId) (change : Card → Card) : Inventory :=
  { inv with
    card := fun dev =>
      if dev ∈ devices then (inv.card dev).map change else inv.card dev }

/-- The emptiest of some cards that nobody yielded. -/
def emptiest (cards : List Candidate) (count : ℕ) : List DeviceId :=
  let idle := cards.filter fun candidate => candidate.2.lendState == .normal
  let sorted := idle.insertionSort fun one other =>
    one.2.usedMemMb < other.2.usedMemMb ∨
      one.2.usedMemMb = other.2.usedMemMb ∧ one.2.usedCores ≤ other.2.usedCores
  (sorted.take count).map Prod.fst

def poolOf (partitioned : Bool) : List Candidate :=
  inv.candidates rows fun card =>
    card.clusterId == clusterId && card.ready && ((card.targetPool == .mig) == partitioned)

/-- The cards that `set_pool_targets` sends to the partitioned pool. -/
def sentToMig (count : ℕ) : List DeviceId :=
  emptiest (inv.poolOf rows clusterId false) (count - (inv.poolOf rows clusterId true).length)

/-- The cards that `set_pool_targets` takes back from there. -/
def takenFromMig (count : ℕ) : List DeviceId :=
  let mig := inv.poolOf rows clusterId true
  emptiest mig (mig.length - count)

/-- `set_pool_targets`: as many cards of the cluster as named are to be partitioned. -/
def setPoolTargets (count : ℕ) : Option Inventory :=
  let mig := (inv.poolOf rows clusterId true).length
  let cards := mig + (inv.poolOf rows clusterId false).length
  if cards = 0 ∨ cards < count then none
  else if mig < count then
    some (inv.modifyCards (inv.sentToMig rows clusterId count) Card.sendToMig)
  else if count < mig then
    some (inv.modifyCards (inv.takenFromMig rows clusterId count) Card.takeFromMig)
  else some inv

end Inventory

/-- The device tables with the faults of the cards and the objects of the operator. -/
structure CardTables where
  inventory : Inventory
  /-- The status of the card is `unhealthy`. -/
  faulted : DeviceId → Bool
  change : DeviceId → Option ModeChange

/-- The tables before the first report. -/
def CardTables.empty : CardTables where
  inventory := ⟨fun _ => none, fun _ => none, fun _ => none, .empty _⟩
  faulted _ := false
  change _ := none

/-- One transaction of the administrator, the rebalancer, the operator, the inventory sync or a session. -/
inductive ModeCall where
  | setMode (dev : DeviceId) (desired : Option CardMode)
  /-- The rows of the device table come in the order of the query. -/
  | setTargets (rows : List DeviceId) (clusterId count : ℕ)
  | rebalance (dev : DeviceId) (hasNode : Bool) (api : ApiAnswer)
  | operate (dev : DeviceId) (configured : Bool) (job : JobState)
  | report (report : DeviceReport)
  | transact (transaction : Transaction)

namespace CardTables

section

variable (tables : CardTables)

/-- The card a report is about: the one with its identifier in its cluster. -/
def reported? (report : DeviceReport) : Option Candidate := do
  let dev ← tables.inventory.byUuid report.uuid
  let card ← tables.inventory.card dev
  if card.clusterId = report.clusterId then some (dev, card) else none

/-- Write the card of a report; a fault stays. -/
def storeReport (dev : DeviceId) (card : Card) (report : DeviceReport) : CardTables :=
  { tables with
    inventory := tables.inventory.setCard dev card
    faulted := update tables.faulted dev
      (tables.faulted dev || report.status == .unhealthy) }

/-- Insert the row of a new card; its identifiers are unique. -/
def insertCard (card : Card) (report : DeviceReport) : Option CardTables :=
  if (tables.inventory.byUuid report.uuid).isSome ∨ (tables.inventory.card report.device).isSome then none
  else
    let stored := tables.storeReport report.device card report
    some { stored with
      inventory := { stored.inventory with
        byUuid := update stored.inventory.byUuid report.uuid (some report.device) } }

/-- `upsert_device`. -/
def upsertDevice (report : DeviceReport) : Option CardTables :=
  if !report.clusterLive || report.nodeLeaving then some tables
  else
    match tables.reported? report with
    | some (dev, card) => (card.refresh (tables.faulted dev) report).map fun refreshed =>
        tables.storeReport dev refreshed report
    | none => (Card.fromReport report).bind fun card => tables.insertCard card report

end

/-- Run one transaction; `none` when it is refused. -/
def apply (tables : CardTables) : ModeCall → Option CardTables
  | .setMode dev desired => do
    let card ← tables.inventory.card dev
    let card ← card.setMode desired
    some { tables with inventory := tables.inventory.setCard dev card }
  | .setTargets rows clusterId count =>
    (tables.inventory.setPoolTargets rows clusterId count).map fun inv =>
      { tables with inventory := inv }
  | .rebalance dev hasNode api => do
    let card ← tables.inventory.card dev
    let (card, change) := rebalanceStep card (tables.change dev) hasNode api
    some { tables with
      inventory := tables.inventory.setCard dev card
      change := update tables.change dev change }
  | .operate dev configured job => some { tables with
      change := update tables.change dev
        ((tables.change dev).map fun change => change.reconcile configured job) }
  | .report report => tables.upsertDevice report
  | .transact transaction => (tables.inventory.apply transaction).map fun inv =>
      { tables with inventory := inv }

/-- A call together with what its unit of work has loaded before. -/
def perform (tables : CardTables) : ModeCall × Loaded → Option CardTables
  | (.transact transaction, loaded) => (tables.inventory.perform (transaction, loaded)).map fun inv =>
      { tables with inventory := inv }
  | (call, _) => tables.apply call

end CardTables

end GShare.Model
