import GShare.Accounting.Roster
import GShare.Machine.Calls
import GShare.Model.Session.Row

/-! # Per-user quotas

`SchedulerService.create_session` of one user, transaction by transaction, as far as the caps of the
resource policy go: `_persist_pending` commits the row, `_check_quota` or `_check_cpu_quota` counts the
user's other rows and queue entries, and much later `_enqueue` inserts an entry. What the gates between
them, the placement and the cluster answer comes with each transaction.
-/

namespace GShare.Model

open Accounting Machine

/-- A column whose sum a policy can limit, by the key of the limit. -/
inductive Resource where
  | gpuMemMb | gpuCores | cpu | memGb | storageGb
deriving DecidableEq, Repr

def Resource.key : Resource → String
  | .gpuMemMb => "gpu_mem_mb"
  | .gpuCores => "gpu_cores"
  | .cpu => "cpu"
  | .memGb => "mem_gb"
  | .storageGb => "storage_gb"

/-- The order of the checks. -/
def Resource.all : List Resource := [.gpuMemMb, .gpuCores, .cpu, .memGb, .storageGb]

structure Offering where
  cpu : Option ℕ
  memGb : Option ℕ
  diskGb : Option ℕ
deriving DecidableEq, Repr

/-- What a request asks for; amounts are validated nonnegative. -/
structure SizeRequest where
  resourceClass : ResourceClass
  priority : ℕ
  /-- The offering it names. -/
  offering : Option Offering
  gpuMemMb : Option ℕ
  gpuCores : Option ℕ
  cpu : Option ℕ
  memGb : Option ℕ
  diskGb : Option ℕ
deriving DecidableEq, Repr

/-- The limits that apply to the user; a limit of zero is none. -/
structure EffectivePolicy where
  maxConcurrent : Option ℕ
  maxQueued : Option ℕ
  cpuSessionMaxConcurrent : ℕ
  limits : Resource → ℕ

/-- The columns of one of the user's sessions that the counts read. -/
structure OwnedSession where
  id : SessionId
  resourceClass : ResourceClass
  size : Resource → Option ℕ
  status : Status
  deleted : Bool
  /-- Its request has passed the quota step. -/
  passed : Bool

/-- A row of the queue; a drain parks paused sessions there. -/
structure QueueEntry where
  session : SessionId
  parked : Bool
deriving DecidableEq, Repr

structure Account where
  sessions : Roster OwnedSession.id
  queue : Roster QueueEntry.session

inductive QuotaExceeded where
  | maxConcurrent (limit active : ℕ)
  | maxQueued (limit queued : ℕ)
  | cpuSessions (limit active : ℕ)
  | resourceSum (resource : Resource) (limit used req : ℕ)
deriving DecidableEq, Repr

/-- A session that holds resources or waits for them. -/
def Status.isActive : Status → Bool
  | .pending | .preparing | .running | .paused | .terminating => true
  | .terminated | .error => false

def OwnedSession.isActive (row : OwnedSession) : Bool := row.status.isActive && !row.deleted

/-- The size columns of the row that admission inserts: the request, else the offering. -/
def persistedSize (req : SizeRequest) : Resource → Option ℕ
  | .gpuMemMb => req.gpuMemMb
  | .gpuCores => req.gpuCores
  | .cpu => req.cpu <|> req.offering.bind Offering.cpu
  | .memGb => req.memGb <|> req.offering.bind Offering.memGb
  | .storageGb => req.diskGb <|> req.offering.bind Offering.diskGb

/-- What the sum check adds for a request. -/
def requestedSize (req : SizeRequest) : Resource → ℕ
  | .gpuMemMb => req.gpuMemMb.getD 0
  | .gpuCores => req.gpuCores.getD 0
  | .cpu => req.cpu.getD ((req.offering.bind Offering.cpu).getD 0)
  | .memGb => req.memGb.getD ((req.offering.bind Offering.memGb).getD 0)
  | .storageGb => req.diskGb.getD ((req.offering.bind Offering.diskGb).getD 0)

namespace Account

variable (account : Account) (own id : SessionId)

def activeSum (weight : OwnedSession → ℕ) : ℕ :=
  account.sessions.total fun row => if row.isActive ∧ row.id ≠ own then weight row else 0

def countActive : ℕ := account.activeSum own fun _ => 1

def countActiveCpu : ℕ :=
  account.activeSum own fun row => if row.resourceClass = .cpu then 1 else 0

/-- Every entry of the user, parked ones too. -/
def countQueued : ℕ := account.queue.total fun _ => 1

section

variable (policy : EffectivePolicy) (req : SizeRequest)

/-- The first sum over its limit. -/
def checkResourceSum : Except QuotaExceeded Unit :=
  match Resource.all.find? fun resource => 0 < policy.limits resource ∧ policy.limits resource
      < account.activeSum own (fun row => (row.size resource).getD 0) + requestedSize req resource with
  | none => .ok ()
  | some resource => .error (.resourceSum resource (policy.limits resource)
      (account.activeSum own fun row => (row.size resource).getD 0)
      (requestedSize req resource))

/-- A cap on a count that the session itself is not in yet. -/
def checkCap (cap : Option ℕ) (count : ℕ) (exceeded : ℕ → ℕ → QuotaExceeded) : Except QuotaExceeded Unit :=
  match cap with
  | none => .ok ()
  | some limit => if limit ≤ count then .error (exceeded limit count) else .ok ()

def checkQuota : Except QuotaExceeded Unit := do
  checkCap policy.maxConcurrent (account.countActive own) .maxConcurrent
  checkCap policy.maxQueued account.countQueued .maxQueued
  account.checkResourceSum own policy req

def checkCpuQuota : Except QuotaExceeded Unit := do
  checkCap policy.maxConcurrent (account.countActive own) .maxConcurrent
  let cpuCap := if policy.cpuSessionMaxConcurrent = 0 then none else some policy.cpuSessionMaxConcurrent
  checkCap cpuCap (account.countActiveCpu own) .cpuSessions
  account.checkResourceSum own policy req

/-- The quota step of a request; a user without a policy has no caps. -/
def quota (policy : Option EffectivePolicy) (req : SizeRequest) : Except QuotaExceeded Unit :=
  match policy with
  | none => .ok ()
  | some policy =>
    match req.resourceClass with
    | .cpu => account.checkCpuQuota own policy req
    | .gpu => account.checkQuota own policy req

/-- `_persist_pending`: the row is there before anything is counted. -/
def persist : Option Account :=
  let row := ⟨id, req.resourceClass, persistedSize req, .pending, false, false⟩
  (account.sessions.insert row).map fun sessions => { account with sessions := sessions }

end

def reviseSession (change : OwnedSession → OwnedSession)
    (keeps : ∀ row, (change row).id = row.id) : Account :=
  { account with sessions := account.sessions.revise id change keeps }

/-- Note that the request of the session passed the quota step. -/
def markPassed : Account :=
  account.reviseSession id (fun row => { row with passed := true }) fun _ => rfl

/-- A failed admission marks the row, unless the session has moved on. -/
def markFailed : Account :=
  account.reviseSession id (fun row =>
    if row.status = .pending ∨ row.status = .preparing then { row with status := .error } else row)
    fun row => by split_ifs <;> rfl

/-- `_enqueue`: one entry for each session. -/
def enqueue : Account :=
  match account.queue.insert ⟨id, false⟩ with
  | none => account
  | some queue => { account with queue := queue }

end Account

inductive AdmitPoint where
  | validating | quoting | budgeting | holding | reserving | preempting | borrowing | checking
  | enqueueing | applying | failed
deriving DecidableEq, Repr

inductive CreateCall where
  | requested (req : SizeRequest)
  | admitting (req : SizeRequest) (id : SessionId) (point : AdmitPoint)
  | finished
deriving DecidableEq, Repr

structure CreateInput where
  /-- The identifier drawn for the row. -/
  id : SessionId
  /-- The gate, the ledger or the cluster accepts; a victim could be preempted. -/
  accepted : Bool
  /-- A slice was found. -/
  placed : Bool

def CreateCall.next (policy : Option EffectivePolicy) (account : Account) (call : CreateCall)
    (input : CreateInput) : Option (Account × CreateCall) :=
  match call with
  | .requested req =>
    (account.persist input.id req).map fun account =>
      (account, .admitting req input.id .validating)
  | .admitting req id point =>
    let go (point : AdmitPoint) : Account × CreateCall := (account, .admitting req id point)
    let gate (point : AdmitPoint) : Account × CreateCall := go (if input.accepted then point else .failed)
    match point with
    | .validating => some (gate .quoting)
    | .quoting =>
      match account.quota id policy req with
      | .error _ => some (go .failed)
      | .ok _ =>
        let next : AdmitPoint :=
          match req.resourceClass with
          | .cpu => .applying
          | .gpu => .budgeting
        -- The estimate in the same transaction may still fail.
        some (account.markPassed id, .admitting req id (if input.accepted then next else .failed))
    | .budgeting => some (gate .holding)
    | .holding => some (gate .reserving)
    | .reserving =>
      some (go (if input.placed then .applying else if 0 < req.priority then .preempting else .checking))
    | .preempting => some (go (if input.accepted then .borrowing else .checking))
    | .borrowing => some (go (if input.placed then .applying else .checking))
    | .checking => some (gate .enqueueing)
    | .enqueueing => some (account.enqueue id, .finished)
    | .applying => some (account, if input.accepted then .finished else .admitting req id .failed)
    | .failed => some (account.markFailed id, .finished)
  | .finished => none

inductive AccountChange where
  /-- A session moves on, ends or fails; none that is over becomes active again. -/
  | move (id : SessionId) (status : Status)
  | delete (id : SessionId)
  /-- A promotion or a cancellation takes the entry. -/
  | dequeue (id : SessionId)
  /-- A drain parks a paused session. -/
  | park (id : SessionId)

def Account.change (account : Account) : AccountChange → Option Account
  | .move id status =>
    match account.sessions.find? id with
    | none => none
    | some row =>
      if status.isActive → row.status.isActive then
        some (account.reviseSession id (fun row => { row with status := status }) fun _ => rfl)
      else none
  | .delete id => some (account.reviseSession id (fun row => { row with deleted := true }) fun _ => rfl)
  | .dequeue id => some { account with queue := account.queue.remove id }
  | .park id => (account.queue.insert ⟨id, true⟩).map fun queue => { account with queue := queue }

/-- Any number of requests of one user. -/
def createProgram (policy : Option EffectivePolicy) : Program Account CreateCall CreateInput AccountChange where
  entry call := ∃ req, call = .requested req
  next _ := CreateCall.next policy
  outside := Account.change

instance (policy : Option EffectivePolicy) : DecidablePred (createProgram policy).entry :=
  fun call =>
    match call with
    | .requested req => isTrue ⟨req, rfl⟩
    | .admitting .. | .finished => isFalse fun ⟨_, impossible⟩ => by cases impossible

end GShare.Model
