import GShare.Machine.Calls

/-! # The storage request of a volume's claim

Two controllers of the operator grow the claim of a volume: `ensureVolumeClaims` to the size in the session's
resource, and the volume syncer to the quota that the control plane answers with. Each reads the claim first and
patches it later, without a version check.
-/

namespace GShare.Model

open Machine

def gib : ℕ := 1024 * 1024 * 1024

/-- A claim, and the quota of its volume in the ledger. -/
structure ClaimStore where
  /-- The storage request in bytes, 0 where it is unset; `none` while there is no claim. -/
  request : Option ℕ
  quotaGb : ℕ

inductive ClaimCall where
  /-- The resource of a session is to be written. -/
  | session
  /-- It asks for the size; a reconcile may begin. -/
  | specified (sizeGb : ℕ)
  /-- The reconcile has got the claim. -/
  | got (sizeGb request : ℕ)
  | tick
  /-- The syncer has listed the claim. -/
  | listed (request : ℕ)
  /-- The control plane has answered. -/
  | directed (request quotaGb : ℕ)
  | done
deriving DecidableEq

namespace ClaimCall

def wanted (sizeGb : ℕ) : ℕ := (if sizeGb = 0 then 10 else sizeGb) * gib

/-- `growClaim`: the request that the patch asks for. -/
def growClaim (request want : ℕ) : Option ℕ := if want ≤ request then none else some want

/-- The patch that the call sends next. The syncer compares with `requestGb`, in whole GiB, and sends none for
a claim that it is told to reclaim. -/
def patch? (reclaim : Option Bool) : ClaimCall → Option ℕ
  | .got sizeGb request => growClaim request (wanted sizeGb)
  | .directed request quotaGb =>
    if reclaim = none ∧ request / gib < quotaGb then some (quotaGb * gib) else none
  | _ => none

/-- A patch changes a claim that is there. -/
def patched (store : ClaimStore) (patch : Option ℕ) : ClaimStore :=
  { store with request := store.request.map patch.getD }

/-- One step. With `reclaim` the control plane says that the volume was deleted long enough ago; the claim goes
unless, as it says further, a pod still mounts it. -/
def next (_ : ℕ) (store : ClaimStore) (call : ClaimCall) (reclaim : Option Bool) :
    Option (ClaimStore × ClaimCall) :=
  match call with
  | .session => some (store, .specified store.quotaGb)
  | .specified sizeGb =>
    match store.request with
    | none => some ({ store with request := some (wanted sizeGb) }, call)
    | some request => some (store, .got sizeGb request)
  | .got sizeGb _ => some (patched store (call.patch? reclaim), .specified sizeGb)
  | .tick => store.request.map fun request => (store, .listed request)
  | .listed request => some (store, .directed request store.quotaGb)
  | .directed .. =>
    if reclaim = some false then some ({ store with request := none }, .done)
    else some (patched store (call.patch? reclaim), .done)
  | .done => none

end ClaimCall

/-- Any number of sessions and of ticks, while the quota is raised. -/
def claimProgram : Program ClaimStore ClaimCall (Option Bool) ℕ where
  entry call := call = .session ∨ call = .tick
  next := ClaimCall.next
  outside store quotaGb := if store.quotaGb ≤ quotaGb then some { store with quotaGb := quotaGb } else none

instance : DecidablePred claimProgram.entry := fun _ => inferInstanceAs (Decidable (_ ∨ _))

end GShare.Model
