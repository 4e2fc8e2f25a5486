import GShare.Machine.Run
import GShare.Model.Access.Tenants

/-! # Logins and the principals of requests

A login and a request each decide on their own which accounts they refuse. A principal is served from the cache of
a worker process for half a minute.
-/

namespace GShare.Model

/-- `update_project`, as far as it changes the status. -/
def Tenants.updateProject (tenants : Tenants) (principal : Rbac.Principal) (id : GroupId) (status : GroupStatus) :
    Option Tenants := do
  guard (Rbac.rbacAllows principal "group.update" (some id))
  let group ← tenants.groups id
  guard (!group.deleted)
  let moved := { tenants with groups := Function.update tenants.groups id (some { group with status := status }) }
  match group.status, status with
  | .active, .inactive | .active, .archived => some (moved.cascadeGroupUsers (· == id) .inactive)
  | .inactive, .active | .archived, .active => some (moved.cascadeGroupUsers (· == id) .active)
  | _, _ => some moved

inductive LoginRefusal where
  | disabled | rateLimited | unknownAccount | accountDisabled | noCredential | badPassword | accountPending
deriving DecidableEq

/-- What `auth_login` checks of an account it has found; an empty hash is none. -/
def Tenants.User.refusal (verify : String → Bool) (user : Tenants.User) : Option LoginRefusal :=
  if user.deleted || user.status == .suspended then some .accountDisabled
  else
    match user.passwordHash with
    | none => some .noCredential
    | some hash =>
      if !verify hash then some .badPassword
      else if user.status == .pending then some .accountPending
      else none

/-- Besides the tenants: the settings, `verify_password`, the columns that a resolution reads, and the cached
principals of each worker, by the parts of the claims in the key. -/
structure Portal where
  tenants : Tenants
  allowLocalPassword : Bool
  verify : String → String → Bool
  byEmail : String → Option UserId
  profile : UserId → Rbac.User
  rows : Rbac.Directory
  cache : ℕ → List ((UserId × Option Rbac.GlobalRole × List Rbac.GlobalRole) × ℤ × Rbac.Principal)

namespace Portal

variable (portal : Portal)

/-- `auth_login`, with the answer of the rate limits. -/
def login (email password : String) (withinRate : Bool) : Except LoginRefusal UserId :=
  if !portal.allowLocalPassword then .error .disabled
  else if !withinRate then .error .rateLimited
  else
    match (portal.byEmail email).bind fun id => (portal.tenants.users id).map (id, ·) with
    | none => .error .unknownAccount
    | some (id, user) =>
      match user.refusal (portal.verify password) with
      | some refusal => .error refusal
      | none => .ok id

def directory : Rbac.Directory :=
  { portal.rows with
    users := fun id => (portal.tenants.users id).map fun user =>
      { portal.profile id with suspended := user.status == .suspended, deleted := user.deleted } }

variable (worker : ℕ) (claims : Rbac.Claims)

def cacheKey : UserId × Option Rbac.GlobalRole × List Rbac.GlobalRole :=
  (claims.sub, claims.globalRole, claims.globalRoles.mergeSort fun one other => one.rank ≤ other.rank)

/-- What the worker has cached for the claims within `_PRINCIPAL_TTL_SEC`, by its monotonic clock. -/
def cached (mono : ℤ) : Option Rbac.Principal :=
  (((portal.cache worker).lookup (cacheKey claims)).filter fun hit => mono - hit.1 < 30 * second).map Prod.snd

def resolvePrincipal (worker : ℕ) (claims : Rbac.Claims) (mono now : ℤ) : Except Rbac.Forbidden Rbac.Principal :=
  match portal.cached worker claims mono with
  | some principal => .ok principal
  | none => portal.directory.resolvePrincipal claims now

/-- The cache after a resolution: a hit leaves it, and a full one is cleared first. -/
def remember (mono now : ℤ) : Portal :=
  match portal.cached worker claims mono, portal.directory.resolvePrincipal claims now with
  | none, .ok principal =>
    let kept := if (portal.cache worker).length ≥ 8192 then [] else portal.cache worker
    { portal with
      cache := Function.update portal.cache worker
        ((cacheKey claims, mono, principal) :: kept.filter (·.1 != cacheKey claims)) }
  | _, _ => portal

end Portal

inductive PortalEvent where
  | login (email password : String) (withinRate : Bool)
  | request (worker : ℕ) (claims : Rbac.Claims) (mono now : ℤ)
  | organization (principal : Rbac.Principal) (org : OrgId) (status : OrgStatus)
  | project (principal : Rbac.Principal) (id : GroupId) (status : GroupStatus)

/-- The portal after an event; a refused one changes nothing. -/
def Portal.step (portal : Portal) : PortalEvent → Option Portal
  | .login .. => some portal
  | .request worker claims mono now => some (portal.remember worker claims mono now)
  | .organization principal org status =>
    some { portal with tenants := (portal.tenants.updateOrganization principal org status).getD portal.tenants }
  | .project principal id status =>
    some { portal with tenants := (portal.tenants.updateProject principal id status).getD portal.tenants }

end GShare.Model
