import GShare.Model.Basic

/-! # The session row and its lifecycle table

The columns of the session table that admission, the lifecycle service, the operator callbacks and
the credit engine read or write, and the table of allowed status transitions. Display data (name,
image, mounts, usage summary) is read by none of the modelled functions and is left out.
-/

namespace GShare.Model

inductive Status where
  | pending | preparing | running | paused | terminating | terminated | error
deriving DecidableEq, Repr

namespace Status

/-- The status transitions the lifecycle service lets through. -/
def allowedTransitions : Status → List Status
  | pending => [preparing, terminating, terminated, error]
  | preparing => [running, terminating, terminated, error]
  | running => [paused, terminating, error]
  | paused => [running, terminating, error]
  | terminating => [terminated, error]
  | terminated => []
  | error => [terminating]

/-- The check that answers a disallowed transition with a conflict. -/
def assertTransition (source target : Status) : Bool :=
  target ∈ source.allowedTransitions

/-- A session that is over, whether it ended or failed. -/
def isFinal (status : Status) : Bool := status == terminated || status == error

end Status

inductive ResourceClass where
  | gpu | cpu
deriving DecidableEq, Repr

inductive PauseMode where
  | cold | yield
deriving DecidableEq, Repr

/-- Why a session paused or ended. `code` is the error code of a rejected admission. -/
inductive Reason where
  | userStopped | adminStopped | creditExhausted | idle | maxRuntime | diskExceeded | crashLoop
  | code (text : String)
deriving DecidableEq, Repr

/-- One row of the session table. The hourly price is validated nonnegative where it is set. -/
structure Session where
  id : SessionId
  resourceClass : ResourceClass
  gpuMemMb : Option ℕ
  gpuCores : Option ℕ
  deviceTotalMemMb : Option ℕ
  billingWalletId : Option WalletId
  creditPerHourSnapshot : ℕ
  pauseMode : PauseMode
  preemptible : Bool
  priority : ℕ
  status : Status
  statusReason : Option Reason
  startedAt : Option ℤ
  terminatedAt : Option ℤ
  boundGpuUuid : Option String
  podRef : Option String
  nodeHostname : Option String
  lastReportedAt : Option ℤ
  restartCount : ℕ
deriving DecidableEq, Repr

namespace Session

/-- The row admission inserts: pending, with no history. -/
def pendingRow (id : SessionId) (resourceClass : ResourceClass) (gpuMemMb gpuCores : Option ℕ)
    (billingWalletId : Option WalletId) (creditPerHour : ℕ) (pauseMode : PauseMode)
    (preemptible : Bool) (priority : ℕ) : Session where
  id := id
  resourceClass := resourceClass
  gpuMemMb := gpuMemMb
  gpuCores := gpuCores
  deviceTotalMemMb := none
  billingWalletId := billingWalletId
  creditPerHourSnapshot := creditPerHour
  pauseMode := pauseMode
  preemptible := preemptible
  priority := priority
  status := .pending
  statusReason := none
  startedAt := none
  terminatedAt := none
  boundGpuUuid := none
  podRef := none
  nodeHostname := none
  lastReportedAt := none
  restartCount := 0

/-- A session the ledger charges: it names a wallet and its price is not zero. -/
def billable (sess : Session) : Bool :=
  sess.billingWalletId.isSome && sess.creditPerHourSnapshot != 0

end Session

end GShare.Model
