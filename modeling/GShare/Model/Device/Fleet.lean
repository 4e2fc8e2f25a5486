import GShare.Model.Device.Inventory

/-! # Nodes and pools around the cards

The rows that a placement query joins to the device table: the nodes with their host capacity, the node
pools with the grants of the tenants (`resolve_pool_access`), and the host sizes of the sessions
(`_filter_node_headroom`). Together with a request they determine the query that `reserve_slice` and
`reserve_spot_slice` ask.
-/

namespace GShare.Model

open Accounting

/-- A node as the inventory knows it; a capacity may not have been reported. -/
structure Node where
  id : NodeId
  clusterId : ClusterId
  ready : Bool
  cpu : Option ℕ
  mem : Option ℕ
  disk : Option ℕ
  pool : Option PoolId
deriving DecidableEq, Repr

/-- A named set of nodes of one cluster: open to everyone, or dedicated to the tenants with a grant. -/
structure NodePool where
  id : PoolId
  clusterId : ClusterId
  shared : Bool
deriving DecidableEq, Repr

/-- Who a pool is granted to. -/
inductive PoolScope where
  | group (id : GroupId)
  | org (id : OrgId)
deriving DecidableEq, Repr

structure NodePoolGrant where
  pool : PoolId
  scope : PoolScope
deriving DecidableEq, Repr

/-- The CPU cores and the memory of the host that a session asks for; nothing is zero. -/
structure HostSize where
  cpu : ℕ
  memGb : ℕ
deriving DecidableEq, Repr

/-- The device tables with everything a placement reads. Every card reports its cores: the inventory sync
writes 100 for a missing or zero total and never lowers a total to zero. -/
structure Fleet where
  inventory : Inventory
  reports : ∀ dev card, inventory.card dev = some card → 0 < card.totalCores
  /-- The device table in the order in which the database returns it. -/
  devices : List DeviceId
  listed : ∀ dev, (inventory.card dev).isSome → dev ∈ devices
  model : DeviceId → String
  nodeId : DeviceId → NodeId
  nodes : Roster Node.id
  pools : Roster NodePool.id
  grants : List NodePoolGrant
  orgOf : GroupId → Option OrgId
  /-- The resource policy lets the tenant spill from its own pools onto the shared ones. -/
  sharedPool : UserId → Option GroupId → Bool
  host : SessionId → HostSize
  /-- The placement policy of the system settings. -/
  spread : Bool

/-- A request as the pending row has it, with its tenant and its offering. Nobody asks for a partitioned
card: the schema admits the two other modes. -/
structure Request where
  holder : Holder
  unpartitioned : holder.mode ≠ some .mig
  owner : UserId
  group : Option GroupId
  offeringClass : ResourceClass
  /-- The GPU model of the offering. -/
  model : Option String
  host : HostSize
  diskGb : ℕ

namespace Request

def inCluster (req : Request) (cluster : ClusterId) : Request :=
  { req with holder := { req.holder with clusterId := cluster } }

def mem (req : Request) : ℕ := req.holder.gpuMemMb.getD 0

def cores (req : Request) : ℕ := req.holder.gpuCores.getD 0

def exclusive (req : Request) : Bool := req.holder.mode == some .exclusive

end Request

/-- What the kubelet and the system pods keep of a node. -/
def nodeReserved : HostSize := ⟨1, 2⟩

namespace Fleet

variable (fleet : Fleet)

/-- The node of a card; the queries join it from the outside. -/
def node? (dev : DeviceId) : Option Node := fleet.nodes.find? (fleet.nodeId dev)

/-- A cordoned or offline node takes no placements. -/
def nodeReady (dev : DeviceId) : Bool := (fleet.node? dev).all (·.ready)

def poolOf (dev : DeviceId) : Option PoolId := (fleet.node? dev).bind (·.pool)

section

variable (cluster : ClusterId) (req : Request)

def poolsIn : List NodePool := fleet.pools.rows.filter (·.clusterId == cluster)

def granted (scope : Option PoolScope) : List PoolId :=
  ((fleet.poolsIn cluster).filter fun pool => !pool.shared && scope.any fun scope =>
    fleet.grants.any fun grant => grant.pool == pool.id && grant.scope == scope).map (·.id)

/-- `resolve_pool_access`: the pools of the group, those of its organization, and the shared ones with the
nodes of no pool. A policy may forbid the last tier to a tenant with pools of its own. -/
def poolAccess (user : UserId) (group : Option GroupId) : List (List (Option PoolId)) :=
  let groupPools := fleet.granted cluster (group.map .group)
  let orgPools := (fleet.granted cluster ((group.bind fleet.orgOf).map .org)).filter (· ∉ groupPools)
  let dedicated := [groupPools, orgPools].filter (!·.isEmpty)
  let shared := none :: ((fleet.poolsIn cluster).filter (·.shared)).map fun pool => some pool.id
  dedicated.map (·.map some) ++
    if dedicated.isEmpty || fleet.sharedPool user group then [shared] else []

def tiers : List (DeviceId → Bool) :=
  (fleet.poolAccess req.holder.clusterId req.owner req.group).map fun tier dev =>
    tier.contains (fleet.poolOf dev)

/-- `_filter_pool_access`: the tenant may place on the card's node. -/
def allows (dev : DeviceId) : Bool := (fleet.tiers req).any (· dev)

/-- A card of the offering's model, on a node that takes placements. -/
def suits (dev : DeviceId) : Bool :=
  fleet.nodeReady dev && req.model.all (· == fleet.model dev)

/-- What a host column of the sessions on a node's cards adds up to. -/
def promised (node : NodeId) (column : HostSize → ℕ) : ℕ :=
  fleet.inventory.live.total fun row =>
    if row.kind = .resident ∧ row.device.any (fleet.nodeId · == node) then column (fleet.host row.session)
    else 0

/-- `_filter_node_headroom`: the card's node has the host CPU and memory, as far as they are reported. -/
def headroom (size : HostSize) (dev : DeviceId) : Bool :=
  size == ⟨0, 0⟩ || match fleet.node? dev with
    | none => true
    | some node =>
      node.cpu.isNone && node.mem.isNone ||
        node.ready &&
          node.cpu.all (nodeReserved.cpu + fleet.promised node.id HostSize.cpu + size.cpu ≤ ·) &&
          node.mem.all (nodeReserved.memGb + fleet.promised node.id HostSize.memGb + size.memGb ≤ ·)

def query : Query where
  devices := fleet.devices.filter (fleet.suits req)
  headroom := fleet.headroom req.host
  tiers := fleet.tiers req
  spread := fleet.spread

end

/-- `reserve_slice`, with the query it asks. -/
def reserveSlice (id : SessionId) (req : Request) : Option (Inventory × Bool) :=
  fleet.inventory.reserveSlice id req.holder (fleet.query req)

end Fleet

end GShare.Model
