import GShare.Model.Credit.Statements
import GShare.Model.Session.Service

/-! # Admission, the queue, and all calls on one session together

`SchedulerService.create_session` from the moment the pending row is committed,
`reschedule_from_queue` for the entry of this session, and `cancel_queue_entry`. No step of an
admission looks at the status of the row again, except to mark a failed one. `sessionProgram` lets any
number of calls on the session interleave with its admission, transaction by transaction.
-/

namespace GShare.Model

open Machine

inductive CreatePoint where
  | validating
  | quoting
  | gating (amount : HoldAmount)
  | holding (amount : HoldAmount)
  | reserving
  | preempting
  /-- A card was freed for this session to borrow. -/
  | borrowing
  /-- Nothing fits: is the request one that can ever be served? -/
  | checking
  | enqueueing
  | applying
  /-- A gate, the ledger or the cluster refused. -/
  | failed (reason : Reason)
  | refunding (loaded : Session)
  | created

inductive PromotePoint where
  | called
  /-- The slice is reserved; next the operator is told. -/
  | reserved
  | applied
deriving DecidableEq

/-- A call on the session and how far it has come. -/
inductive SessionCall where
  | start (point : StartPoint)
  /-- A pause; a restart continues with a resume. -/
  | stop (reason : Reason) (restarting : Bool) (point : StopPoint)
  | restart
  | terminate (reason : Reason) (point : TerminatePoint)
  | callback (event : StatusEvent)
  | cancel
  | tick (point : TickPoint)
  | promote (point : PromotePoint)
  | returned

namespace World

variable (world : World) (env : Env)

/-- Admission behind a gate: go on, or fail with the gate's error code. -/
def gate (next : CreatePoint) : CreatePoint :=
  if env.accepted then next else .failed (.code env.code)

/-- Insert the allocation for an admission; the unique index fails the call. -/
def occupy (kind : AllocationKind) (totalMem : ℕ) : World × CreatePoint :=
  match world.allocate world.row kind totalMem with
  | none => (world, .failed (.code "create_failed"))
  | some reserved => (reserved, .applying)

def takeHold (amount : HoldAmount) (env : Env) : World × CreatePoint :=
  let refused : World × CreatePoint := (world, .failed (.code "insufficient_credit"))
  match world.row.billingWalletId with
  | none => refused
  | some wallet =>
    match world.ledger.hold wallet amount.value (.hold world.row.id) env.stamp with
    | .error _ => refused
    | .ok ledger =>
      ({ world with ledger := ledger },
        match world.row.resourceClass with
        | .cpu => .applying
        | .gpu => .reserving)

/-- One transaction of an admission. -/
def create : CreatePoint → Option (World × CreatePoint)
  | .validating => some (world, gate env .quoting)
  | .quoting =>
    some (world, gate env <|
      if world.row.resourceClass = .cpu ∧ ¬(world.row.billingWalletId.isSome ∧ 0 < env.holdAmount.value)
      then .applying else .gating env.holdAmount)
  | .gating amount => some (world, gate env (.holding amount))
  | .holding amount => some (world.takeHold amount env)
  | .reserving =>
    match placement world.row.preemptible env with
    | some (kind, total) => some (world.occupy kind total)
    | none => some (world, if 0 < world.row.priority then .preempting else .checking)
  | .preempting => some (world, if env.accepted then .borrowing else .checking)
  | .borrowing =>
    match env.spotSlice with
    | some total => some (world.occupy .spot total)
    | none => some (world, .checking)
  | .checking => some (world, gate env .enqueueing)
  | .enqueueing => some ({ world with queued := true }, .created)
  | .applying => some (world, gate env .created)
  | .failed reason =>
    let released := world.releaseReservation (some reason)
    some (released, .refunding released.row)
  | .refunding loaded => some (world.settleBillable loaded true env, .created)
  | .created => none

/-- The queue ticker's turn for the session's entry. -/
def promote : PromotePoint → After PromotePoint
  | .called =>
    if world.queued = false then (world, none)
    else if world.row.status ≠ .pending then ({ world with queued := false }, none)
    else
      match (placement world.row.preemptible env).bind fun (kind, total) =>
          world.allocate world.row kind total with
      | none => (world, none)
      | some reserved => (reserved, some .reserved)
  | .reserved =>
    -- Where the cluster refuses, the handler reads the row object that the rollback has expired. That raises,
    -- and the slice, the pending row and the entry stay.
    (world, if env.accepted then some .applied else none)
  | .applied => ({ world with queued := false }, none)

/-- Cancel the queued session: refund it and say terminated; the slice a promotion may have reserved
stays. -/
def cancel : World :=
  if world.queued ∧ (world.row.status = .pending ∨ world.row.status = .preparing) then
    let settled := world.settle world.row true env
    { settled with
      queued := false
      row := { settled.row with
        status := .terminated
        statusReason := settled.row.statusReason <|> some .userStopped
        terminatedAt := some env.now } }
  else world

end World

namespace SessionCall

/-- Where a new call stands. -/
def isEntry : SessionCall → Bool
  | .start .called | .stop _ false .called | .restart | .terminate _ .called | .callback _ | .cancel
  | .tick .called | .promote .called => true
  | _ => false

/-- The call after a transaction of its service. -/
def resume {Point : Type} (wrap : Point → SessionCall) (after : After Point) : World × SessionCall :=
  (after.1, after.2.elim .returned wrap)

/-- One transaction of a call, or one of its calls of the cluster or of Redis. -/
def next (world : World) (env : Env) : SessionCall → Option (World × SessionCall)
  | .start point => some (resume .start (world.start env point))
  | .stop reason restarting point =>
    match point with
    | .called =>
      -- Stopping a session that has not started is a cancellation.
      if world.row.status = .pending ∨ world.row.status = .preparing then
        some (resume (.terminate reason) (world.claim reason env))
      else if world.row.status.assertTransition .paused then
        some (world, .stop reason restarting (.checked world.row env.now))
      else some (world, .returned)
    | .checked loaded now =>
      some (world, if env.accepted then .stop reason restarting (.patched loaded now) else .returned)
    | .patched loaded now =>
      some (world.consume loaded now env, .stop reason restarting (.charged loaded))
    | .charged loaded =>
      some (world.pauseRow loaded reason, if restarting then
        .start (.again { loaded with status := .paused, statusReason := some reason }) else .returned)
  | .restart =>
    match world.row.status with
    | .running => some (world, .stop .userStopped true (.checked world.row env.now))
    | .paused => some (world, .start .called)
    | _ => some (world, .returned)
  | .terminate reason point => some (resume (.terminate reason) (world.terminate reason env point))
  | .callback event => some (world.onStatus event env, .returned)
  | .cancel => some (world.cancel env, .returned)
  | .tick point => some (resume .tick (world.tick env point))
  | .promote point => some (resume .promote (world.promote env point))
  | .returned => none

/-- Let a call run alone until it returns, each of its transactions in its own environment. -/
def perform : List Env → World → SessionCall → Option World
  | [], world, .returned => some world
  | [], _, _ => none
  | env :: envs, world, call => (call.next world env).bind fun (world, after) => perform envs world after

end SessionCall

structure Admission where
  world : World
  creating : CreatePoint

/-- What happens beside the calls: the admission goes on, or somebody else writes to the ledger. -/
inductive Beside where
  | create (env : Env)
  | write (entry : ForeignWrite)

def IdemKey.session? : IdemKey → Option SessionId
  | .hold id | .consume id _ | .consumeSettle id | .settle id => some id
  | _ => none

/-- The write is about something else than the session. -/
def ForeignWrite.Unrelated (write : ForeignWrite) (id : SessionId) : Prop :=
  write.key.session? ≠ some id ∧ write.ref ≠ some (.session id)

instance (write : ForeignWrite) (id : SessionId) : Decidable (write.Unrelated id) :=
  inferInstanceAs (Decidable (_ ∧ _))

namespace Admission

/-- A change that none of the calls makes. -/
def beside (store : Admission) : Beside → Option Admission
  | .create env => (store.world.create env store.creating).map fun (world, point) => ⟨world, point⟩
  | .write entry =>
    if entry.Unrelated store.world.row.id then
      let ledger := store.world.ledger.post entry.wallet entry.row entry.type entry.amount entry.ref
        entry.key entry.stamp
      some { store with world := { store.world with ledger := ledger } }
    else none

end Admission

/-- Any number of calls on one session, interleaved with its admission. -/
def sessionProgram : Program Admission SessionCall Env Beside where
  entry call := call.isEntry
  next _ store call env :=
    (call.next store.world env).map fun (world, after) => ({ store with world := world }, after)
  outside := Admission.beside

instance : DecidablePred sessionProgram.entry :=
  fun call => inferInstanceAs (Decidable (call.isEntry))

end GShare.Model
