import GShare.Model.Session.Callbacks

/-! # The lifecycle service, transaction by transaction

`SessionService.start`, `stop`, `restart` and `terminate` and the billing worker's turn for one session.
Each call is cut at its commits and at its calls of the cluster and of Redis. A call keeps working on
the row object it loaded: a commit does not refresh it, and what it writes later are single columns.
-/

namespace GShare.Model

inductive StartPoint where
  | called
  /-- Called by a restart, which still has the row object of its pause. -/
  | again (loaded : Session)
  /-- The transition was allowed and the wallet can pay. -/
  | checked (loaded : Session) (yieldResume : Bool)
  /-- The lent card is back. -/
  | reclaimed
  /-- The row says running. -/
  | resumed (loaded : Session)
  /-- The row carries the current price. -/
  | priced
  | patched (generation : ℕ)
  | marked

inductive StopPoint where
  | called
  /-- The transition was allowed; `now` is the end of the run that will be charged. -/
  | checked (loaded : Session) (now : ℤ)
  | patched (loaded : Session) (now : ℤ)
  | charged (loaded : Session)

inductive TerminatePoint where
  | called
  /-- The row says terminating. -/
  | claimed (loaded : Session) (prior : Status) (now : ℤ)
  | released (loaded : Session) (prior : Status) (now : ℤ)
  | settled (loaded : Session) (now : ℤ)
  /-- The row says terminated. -/
  | ended

inductive TickPoint where
  | called
  /-- The session was running and priced when the worker listed the sessions. -/
  | listed (now : ℤ)
  | loaded (sess : Session) (now : ℤ)

/-- Where a service call stands after a transaction, with the world it leaves. -/
abbrev After (Point : Type) := World × Option Point

namespace World

def resumeRow (loaded current : Session) (now : ℤ) : Session :=
  { current with
    status := stored loaded.status .running current.status
    startedAt := stored loaded.startedAt (some now) current.startedAt
    statusReason := stored loaded.statusReason none current.statusReason
    terminatedAt := stored loaded.terminatedAt none current.terminatedAt }

variable (world : World)

/-- The price of a resumed GPU session is the current one of its offering. -/
def resnapshot (loaded : Session) (env : Env) : World :=
  if loaded.resourceClass = .gpu ∧ loaded.billingWalletId.isSome then
    let rate := if loaded.preemptible then spotRate env.creditPerHour else env.creditPerHour
    { world with row := { world.row with
        creditPerHourSnapshot :=
          stored loaded.creditPerHourSnapshot rate world.row.creditPerHourSnapshot } }
  else world

variable (reason : Reason) (env : Env)

/-- The checks of a resume, on the row as it is loaded: no transaction is open after a pause, so nothing expires
the object of a restart and the lock does not load it again. -/
def admitStart (loaded : Session) : After StartPoint :=
  if !loaded.status.assertTransition .running || { world with row := loaded }.insolvent then (world, none)
  else (world, some (.checked loaded (loaded.pauseMode == .yield && world.live.isSome)))

/-- Resume: take a slice again, say running, take the current price, tell the operator. -/
def start : StartPoint → After StartPoint
  | .called => world.admitStart world.row
  | .again loaded => world.admitStart loaded
  | .checked loaded yieldResume =>
    if yieldResume then (world, if env.accepted then some .reclaimed else none)
    else if loaded.resourceClass = .gpu then
      match env.slice.bind fun total => world.allocate loaded .resident total with
      | none => (world, none)
      | some reserved =>
        ({ reserved with row := resumeRow loaded reserved.row env.now }, some (.resumed loaded))
    else ({ world with row := resumeRow loaded world.row env.now }, some (.resumed loaded))
  | .reclaimed =>
    -- The rollback in the reclaim expired the row object, so this one is loaded here.
    ({ world with row := resumeRow world.row world.row env.now }, some (.resumed world.row))
  | .resumed loaded => (world.resnapshot loaded env, some .priced)
  | .priced => (world, if env.accepted then some (.patched env.generation) else none)
  | .patched generation =>
    ({ world with
        resumeGeneration := if generation = 0 then world.resumeGeneration else some generation },
      some .marked)
  | .marked => (world.clearGrace, none)

/-- The claim of a termination; a session that ended is answered as it is. -/
def claim : After TerminatePoint :=
  if world.row.status = .terminated then (world, none)
  else if world.row.status = .terminating then
    (world, some (.claimed world.row .terminating env.now))
  else
    let kept := world.row.status = .error ∧ world.row.statusReason.isSome
    let row := { world.row with
      status := .terminating
      statusReason := if kept then world.row.statusReason else some reason }
    ({ world with row := row }, some (.claimed row world.row.status env.now))

/-- Terminate: claim the row, release the slice, settle, say terminated. -/
def terminate : TerminatePoint → After TerminatePoint
  | .called => world.claim reason env
  | .claimed loaded prior now => (world.releaseAllocation, some (.released loaded prior now))
  | .released loaded prior now =>
    (world.settleBillable loaded (prior == .running) env, some (.settled loaded now))
  | .settled loaded now =>
    ({ world with row := { world.row with
        status := stored loaded.status .terminated world.row.status
        terminatedAt := stored loaded.terminatedAt (some now) world.row.terminatedAt
        statusReason := if loaded.statusReason = none then some reason else world.row.statusReason } },
      some .ended)
  | .ended => (world.clearGrace, none)

/-- The last transaction of a pause: the slice goes back unless the pod keeps it, and the row says
paused. -/
def pauseRow (loaded : Session) (reason : Reason) : World :=
  let vacated := if loaded.pauseMode = .yield then world else world.releaseAllocation
  { vacated with row := { world.row with
      status := stored loaded.status .paused world.row.status
      statusReason := stored loaded.statusReason (some reason) world.row.statusReason } }

/-- The billing worker's turn. -/
def tick : TickPoint → After TickPoint
  | .called =>
    (world, if world.row.status = .running ∧ 0 < world.row.creditPerHourSnapshot
      then some (.listed env.now) else none)
  | .listed now =>
    (world, if world.row.status = .running then some (.loaded world.row now) else none)
  | .loaded sess now => (world.consume sess now env, none)

end World

end GShare.Model
