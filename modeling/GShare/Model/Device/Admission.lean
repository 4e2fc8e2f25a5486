import GShare.Model.Device.Fleet
import GShare.Model.Device.Transactions

/-! # Which requests are admitted, where, and at whose expense

The gates of `create_session` that compare a request with the fleet: `_validate_balance` behind
`_validate_refs`, `_validate_capacity` and `_assert_serviceable`. Then `_resolve_cluster`, which chooses a
cluster when the request names none, and `_preempt_lower_priority`, which pauses somebody for the
request. Shares are exact fractions here.
-/

namespace GShare.Model

/-- A column of a node that a request is compared with. -/
inductive HostResource where
  | cpu | memory | disk
deriving DecidableEq, Repr

inductive Refusal where
  | vramBelowMinimum (mem minimum : ℕ)
  | imbalancedAllocation (mem cores reference : ℕ)
  /-- No single node has the capacity. -/
  | nodeTooSmall (resource : HostResource) (need : ℕ) (most : ℤ)
  | unserviceable (mode : CardMode) (model : Option String)
deriving DecidableEq, Repr

/-- A slice below this cannot even hold a CUDA context. -/
def minFractionalMemMb : ℕ := 1024

/-- The whole card of the balance check where the inventory has none. -/
def referenceMemMb : ℕ := 49152

/-- How far the shares of memory and cores may be apart, and the share below which none counts. -/
def balanceTolerance : ℚ := 2
def balanceFloor : ℚ := 1 / 20

/-- `_validate_balance`: a fractional slice takes about the same share of the memory and the cores. -/
def validateBalance (req : Request) (reference : ℕ) : Except Refusal Unit :=
  if req.holder.resourceClass ≠ .gpu ∨ req.holder.mode ≠ some .fractional then .ok ()
  else if req.mem < minFractionalMemMb then
    .error (.vramBelowMinimum req.mem minFractionalMemMb)
  else
    let memShare : ℚ := req.mem / reference
    let coreShare : ℚ := req.cores / 100
    if balanceTolerance * max (min memShare coreShare) balanceFloor < max memShare coreShare then
      .error (.imbalancedAllocation req.mem req.cores reference)
    else .ok ()

def Request.need (req : Request) : HostResource → ℕ
  | .cpu => req.host.cpu
  | .memory => req.host.memGb
  | .disk => req.diskGb

/-- What a node can give to a single pod, zero if it has not reported. -/
def Node.capacity (node : Node) : HostResource → ℤ
  | .cpu => if node.cpu.getD 0 = 0 then 0 else (node.cpu.getD 0 : ℤ) - nodeReserved.cpu
  | .memory => if node.mem.getD 0 = 0 then 0 else (node.mem.getD 0 : ℤ) - nodeReserved.memGb
  | .disk => node.disk.getD 0

namespace Fleet

variable (fleet : Fleet)

section

variable (req : Request)

/-- The memory of a whole card of the offering's model, measured on the first ready one. -/
def referenceMem : ℕ :=
  let measured :=
    if req.offeringClass = .gpu then
      (reported req.model).bind fun model => fleet.devices.findSome? fun dev =>
        (fleet.inventory.card dev).bind fun card =>
          if card.clusterId = req.holder.clusterId ∧ fleet.model dev = model ∧ card.ready then
            some card.totalMemMb
          else none
    else none
  Inventory.orElse measured referenceMemMb

/-- `_validate_capacity` for a GPU session: each column fits the most capable ready node of the cluster. A
column that nobody reports is not compared. -/
def validateCapacity : Except Refusal Unit :=
  let nodes := fleet.nodes.rows.filter fun node =>
    node.clusterId == req.holder.clusterId && node.ready
  [HostResource.cpu, .memory, .disk].forM fun resource =>
    let need := req.need resource
    let most : ℤ := (nodes.map fun node => node.capacity resource).max?.getD 0
    if need ≠ 0 ∧ most ≠ 0 ∧ most < need then .error (.nodeTooSmall resource need most) else .ok ()

/-- The ready cards of the request's cluster, mode and model that its tenant may place on, whatever their
load. A request without a mode matches all modes. -/
def matching : List Candidate :=
  fleet.inventory.candidates
    (fleet.devices.filter fun dev => fleet.suits req dev && fleet.allows req dev)
    fun card => card.ready && card.clusterId == req.holder.clusterId
      && (req.holder.mode.isNone || Inventory.serves req.holder.mode card)

/-- `_assert_serviceable`: some card could ever serve the request. -/
def assertServiceable : Except Refusal Unit :=
  match req.holder.mode with
  | none => .ok ()
  | some mode => if fleet.matching req = [] then .error (.unserviceable mode req.model) else .ok ()

/-- The gates that a queued request has passed. -/
def admits : Except Refusal Unit := do
  validateBalance req (fleet.referenceMem req)
  fleet.validateCapacity req
  fleet.assertServiceable req

/-- The cluster choice counts the card as one with room: by the stored counters, out of 100 cores, whatever
its state and its node. -/
def counts (card : Card) : Bool :=
  if req.exclusive then card.usedMemMb == 0 && card.usedCores == 0
  else req.mem ≤ card.freeMem && card.usedCores + req.cores ≤ 100

def counted (cluster : ClusterId) : List Candidate :=
  (fleet.matching (req.inCluster cluster)).filter fun (_, card) => counts req card

def fitFree (cluster : ClusterId) : ℕ :=
  ((fleet.counted req cluster).map fun (_, card) => card.freeMem).sum

/-- `_resolve_cluster`, among the connected clusters in the order of their creation: the most free memory
on counted cards, else the most matching cards, else the first. -/
def resolveCluster (clusters : List ClusterId) : Option ClusterId :=
  match clusters with
  | [] => none
  | [only] => some only
  | first :: _ =>
    if req.holder.resourceClass = .cpu then
      (clusters.find? fun cluster =>
        fleet.nodes.rows.any fun node => node.clusterId == cluster && node.ready) <|> some first
    else
      (clusters.filter fun cluster => !(fleet.counted req cluster).isEmpty).argmax
          (fleet.fitFree req)
        <|> (clusters.filter fun cluster => !(fleet.matching (req.inCluster cluster)).isEmpty).argmax
          (fun cluster => (fleet.matching (req.inCluster cluster)).length)
        <|> some first

end

/-- A running session that can yield the card it occupies, below the request in priority. -/
def preemptable (inv : Inventory) (req : Request) (row : Allocation) : Bool :=
  row.kind == .resident &&
    (inv.session row.session).any (fun holder =>
      holder.clusterId == req.holder.clusterId && holder.status == .running
        && holder.mode == some .exclusive && holder.pauseMode == .yield
        && decide (holder.priority < req.holder.priority)) &&
    row.device.any fun dev =>
      (inv.card dev).any (·.lendState == .normal) && (fleet.node? dev).isSome
        && fleet.allows req dev

/-- The session that `_preempt_lower_priority` pauses: one of the lowest priority. -/
def victim? (inv : Inventory) (req : Request) : Option Allocation :=
  (inv.live.rows.filter (fleet.preemptable inv req)).argmin fun row =>
    ((inv.session row.session).map (·.priority)).getD 0

/-- The first transaction of a placement: a slice of one's own, else a borrowed one for a preemptible
request. -/
def attempt (id : SessionId) (req : Request) : Option (Inventory × Bool) := do
  let (inv, placed) ← fleet.reserveSlice id req
  if placed || !req.holder.preemptible then some (inv, placed)
  else inv.reserveSpotSlice id req.holder (fleet.query req)

/-- How the placement of an admission ended: with which tables, whether the request has a slice, and who
was paused for it. -/
structure Placement where
  inventory : Inventory
  placed : Bool
  victim : Option SessionId

/-- The placement of `create_session`. A request with a priority that got nothing pauses somebody, who
yields the card, and borrows that card. -/
def place (id : SessionId) (req : Request) : Option Placement := do
  let (inv, placed) ← fleet.attempt id req
  if placed || req.holder.priority == 0 then some ⟨inv, placed, none⟩
  else
    match fleet.victim? inv req with
    | none => some ⟨inv, false, none⟩
    | some row => do
      let (inv, placed) ←
        (inv.pause row.session .yield).reserveSpotSlice id req.holder (fleet.query req)
      some ⟨inv, placed, some row.session⟩

end Fleet

end GShare.Model
