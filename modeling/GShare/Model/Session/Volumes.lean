import GShare.Machine.Calls
import GShare.Model.Device.Admission
import Mathlib.Data.Finset.Union

/-! # Where a volume has its data

A volume gets its claim in a cluster from the first session there that mounts it, and nothing else ties the
volume to that cluster. `create_session` therefore asks on which clusters the volumes of a request have ever
been mounted (`_clusters_holding_volumes`), in the transaction of `_resolve_cluster` and again in one of its
own; the row of the session with its mounts is inserted by `_persist_pending`, several validators later.
-/

namespace GShare.Model

open Accounting Machine

abbrev VolumeId := ℕ

/-- A session and the volumes it was created with; both stay when it ends. -/
structure MountingSession where
  id : SessionId
  clusterId : ClusterId
  volumes : List VolumeId
deriving DecidableEq, Repr

/-- The part of a request that decides where its volumes are mounted. -/
structure MountRequest where
  request : Request
  /-- The cluster it names. -/
  cluster : Option ClusterId
  volumes : List VolumeId

inductive MountRefusal where
  | notConnected
  | volumesElsewhere
  | onAnotherCluster (cluster : ClusterId) (withData : Finset ClusterId)
  /-- By one of the validators in between, or answered with an earlier session. -/
  | otherwise

structure MountTables where
  sessions : Roster MountingSession.id

namespace MountTables

variable (tables : MountTables)

def clustersOf (volume : VolumeId) : Finset ClusterId :=
  ((tables.sessions.rows.filter (volume ∈ ·.volumes)).map (·.clusterId)).toFinset

/-- One more volume narrows the clusters, unless it has never been mounted. -/
def narrow (allowed : Option (Finset ClusterId)) (volume : VolumeId) : Option (Finset ClusterId) :=
  if tables.clustersOf volume = ∅ then allowed
  else some (allowed.elim (tables.clustersOf volume) (· ∩ tables.clustersOf volume))

/-- `_clusters_holding_volumes`: `none` is no constraint. -/
def clustersHoldingVolumes (volumes : List VolumeId) : Option (Finset ClusterId) :=
  volumes.foldl tables.narrow none

/-- `_resolve_cluster`, with the volumes of the request. -/
def resolveCluster (tables : MountTables) (fleet : Fleet) (req : MountRequest)
    (connected : List ClusterId) : Except MountRefusal ClusterId :=
  if connected = [] then .error .notConnected
  else
    let clusters := match tables.clustersHoldingVolumes req.volumes with
      | none => connected
      | some pinned => connected.filter (· ∈ pinned)
    match fleet.resolveCluster req.request clusters with
    | none => .error .volumesElsewhere
    | some cluster => .ok cluster

/-- The check of the cluster, chosen or named. -/
def checkCluster (volumes : List VolumeId) (cluster : ClusterId) : Except MountRefusal Unit :=
  match tables.clustersHoldingVolumes volumes with
  | none => .ok ()
  | some pinned => if cluster ∈ pinned then .ok () else .error (.onAnotherCluster cluster pinned)

/-- `_persist_pending`: the row and its mounts. -/
def persist (id : SessionId) (volumes : List VolumeId) (cluster : ClusterId) : Option MountTables :=
  (tables.sessions.insert ⟨id, cluster, volumes⟩).map fun sessions => ⟨sessions⟩

end MountTables

/-- Where a call of `create_session` stands between two of its transactions. -/
inductive MountCall where
  | requested (req : MountRequest)
  | located (req : MountRequest) (cluster : ClusterId)
  | checked (req : MountRequest) (cluster : ClusterId)
  | refused (refusal : MountRefusal)
  | created (id : SessionId)

structure MountInput where
  fleet : Fleet
  connected : List ClusterId
  /-- The validators since the last transaction let the request through, and its key is new. -/
  valid : Bool
  /-- The identifier drawn for a new row. -/
  id : SessionId

def mountNext (tables : MountTables) (call : MountCall) (input : MountInput) : Option (MountTables × MountCall) :=
  match call with
  | .requested req =>
    match req.cluster with
    | some cluster => some (tables, .located req cluster)
    | none => some (tables, match tables.resolveCluster input.fleet req input.connected with
      | .ok cluster => .located req cluster
      | .error refusal => .refused refusal)
  | .located req cluster =>
    if input.valid then some (tables, match tables.checkCluster req.volumes cluster with
      | .ok () => .checked req cluster
      | .error refusal => .refused refusal)
    else some (tables, .refused .otherwise)
  | .checked req cluster =>
    if input.valid then
      (tables.persist input.id req.volumes cluster).map fun tables => (tables, .created input.id)
    else some (tables, .refused .otherwise)
  | .refused _ | .created _ => none

/-- Calls of `create_session`; nothing else inserts or deletes a mount. -/
def mountProgram : Program MountTables MountCall MountInput Empty where
  entry call := ∃ req, call = .requested req
  next _ := mountNext
  outside _ change := change.elim

instance decidableMountEntry : DecidablePred mountProgram.entry :=
  fun call =>
    match call with
    | .requested req => isTrue ⟨req, rfl⟩
    | .located .. | .checked .. | .refused _ | .created _ => isFalse fun ⟨_, impossible⟩ => by cases impossible

end GShare.Model
