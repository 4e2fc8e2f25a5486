import GShare.Model.Access.Pools
import GShare.Model.Credit.Writers

/-! # Resource policies

The endpoints that write the rows of `resource_policy`, the approval of a resource request, and the merge of
the rows over the scopes. A write is carried to the live sessions, whose objects bear the idle window and the
longest runtime of the policy for the reaper.
-/

namespace GShare.Model

/-- `LIMIT_KEYS`. -/
inductive LimitKey where
  | cpu | memGb | gpuMemMb | gpuCores | storageGb | volumeGb
  | cpuSessionMaxConcurrent | cpuSessionMaxRuntimeMin | cpuSessionIdleTimeoutSec
  | sharedPool | allowPrivileged
deriving DecidableEq, Repr

/-- A column of a policy, or a key of its limits. -/
inductive Setting where
  | maxConcurrent | maxQueued | maxRuntime | idleTimeout
  | limit (key : LimitKey)
deriving DecidableEq, Repr

/-- What a row sets. A column that is NULL and a key that is missing or null are not set. -/
abbrev Settings := Setting → Option ℤ

/-- A scope has one row at most. -/
abbrev PolicyTable := PolicyScope → Option Settings

/-- The body of a request. An update leaves what it does not name, and can take a setting back. -/
inductive PolicyWrite where
  | create (body : Settings)
  | update (body : Setting → Option (Option ℤ))
  | delete

/-- `create_policy`, `update_policy` and `delete_policy`: the row of the scope after the request. A second
row is refused, and a new one whose columns are not all given and nonnegative. -/
def PolicyWrite.row : PolicyWrite → Option Settings → Option Settings
  | .create body, none =>
    if ∀ column ∈ [Setting.maxConcurrent, .maxQueued, .maxRuntime, .idleTimeout], ∃ value ∈ body column, 0 ≤ value
    then some body else none
  | .create _, some row => some row
  | .update body, row => row.map fun row setting => (body setting).getD (row setting)
  | .delete, _ => none

structure ResourceRequest where
  userId : UserId
  groupId : Option GroupId
  cpu : Option ℤ
  memGb : Option ℤ
  storageGb : Option ℤ
  gpuMemMb : Option ℤ
  gpuCores : Option ℤ
  status : RequestStatus

def ResourceRequest.granted (req : ResourceRequest) : Settings
  | .limit .cpu => req.cpu
  | .limit .memGb => req.memGb
  | .limit .storageGb => req.storageGb
  | .limit .gpuMemMb => req.gpuMemMb
  | .limit .gpuCores => req.gpuCores
  | _ => none

namespace PolicyTable

variable (table : PolicyTable) (dir : Rbac.Directory)

/-- The merge of `resolve_effective_policy`: each setting comes from the first row of the chain that has it. -/
def merge (chain : List PolicyScope) : Option Settings :=
  chain.foldl (fun merged scope => (table scope).elim merged fun row =>
    some fun setting => (merged.bind (· setting)).or (row setting)) none

def resolveEffectivePolicy (user : UserId) (group : Option GroupId) : Option Settings :=
  table.merge (policyChain user group (group.bind fun id => (dir.projects.find? id).map Rbac.Project.org))

/-- `EffectivePolicy`: what applies, and the scope that each setting was taken from. -/
structure Effective where
  settings : Settings := fun _ => none
  sources : Setting → Option PolicyScope := fun _ => none

/-- One pass of the loop: the row of a scope gives what is not set yet. -/
def Effective.absorb (merged : Effective) (scope : PolicyScope) (row : Settings) : Effective where
  settings setting := (merged.settings setting).or (row setting)
  sources setting :=
    if (row setting).isSome && (merged.settings setting).isNone then some scope else merged.sources setting

/-- `resolve_effective_policy` with the sources it returns. -/
def resolve (chain : List PolicyScope) : Option Effective :=
  chain.foldl (fun merged scope => (table scope).elim merged fun row => some ((merged.getD {}).absorb scope row))
    none

def write (scope : PolicyScope) (change : PolicyWrite) : PolicyTable :=
  Function.update table scope (change.row (table scope))

/-- `approve_resource_request`: the requester's own row takes over all that applied until now. -/
def approveResourceRequest (principal : Rbac.Principal) (req : ResourceRequest) : Option PolicyTable :=
  if req.status ≠ .pending ∨ principal.globalRole ≠ some .superAdmin then none else
  let effective := table.resolveEffectivePolicy dir req.userId req.groupId
  let row := (table (.user req.userId)).getD fun _ => none
  some (Function.update table (.user req.userId) (some fun
    | .limit key => (req.granted (.limit key)).or (effective.bind (· (.limit key)))
    | column => effective.elim (row column) (· column)))

end PolicyTable

/-- The columns of a session that a policy write reads. -/
structure GovernedSession where
  ownerUserId : UserId
  groupId : Option GroupId
  resourceClass : ResourceClass
  status : Status
  deleted : Bool
deriving DecidableEq, Repr

/-- The two annotations for the reaper. -/
structure ReaperStamp where
  idleTimeoutSec : ℤ
  maxRuntimeSec : ℤ
deriving DecidableEq, Repr

/-- `restamp_reaper`; 1800 is `IDLE_TIMEOUT_SEC`. -/
def restampReaper (policy : Option Settings) (resourceClass : ResourceClass) : ReaperStamp :=
  let (idle, lifetime) := match resourceClass with
    | .cpu => (Setting.limit .cpuSessionIdleTimeoutSec, Setting.limit .cpuSessionMaxRuntimeMin)
    | .gpu => (.idleTimeout, .maxRuntime)
  ⟨(policy.bind (· idle)).getD 1800,
    (policy.bind (· lifetime)).elim 0 fun minutes => if 0 < minutes then minutes * 60 else 0⟩

namespace GovernedSession

variable (dir : Rbac.Directory) (sess : GovernedSession)

def isActive : Bool :=
  !sess.deleted && [Status.pending, .preparing, .running, .paused].contains sess.status

/-- The statement of `_propagate_reaper_policy` selects the session: by its owner, or by the groups that the
owner is a member of. -/
def selected : PolicyScope → Bool
  | .user id => sess.ownerUserId == id
  | .group id => dir.memberships.any fun row => row.user == sess.ownerUserId && row.group == some id
  | .org id => dir.memberships.any fun row =>
      row.user == sess.ownerUserId && (row.group.bind dir.projects.find?).any (·.org == id)
  | .global => true

/-- The policy that the session started under, as it is now. -/
def policy (table : PolicyTable) : Option Settings :=
  table.resolveEffectivePolicy dir sess.ownerUserId sess.groupId

end GovernedSession

/-- `_propagate_reaper_policy`, with every patch accepted. -/
def propagateReaperPolicy (dir : Rbac.Directory) (table : PolicyTable) (scope : PolicyScope)
    (sessions : List GovernedSession) : List (GovernedSession × ReaperStamp) :=
  (sessions.filter fun sess => sess.isActive && sess.selected dir scope).map fun sess =>
    (sess, restampReaper (sess.policy dir table) sess.resourceClass)

end GShare.Model
