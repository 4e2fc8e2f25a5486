import GShare.Model.Session.World
import Mathlib.Data.List.Infix

/-! # Operator status callbacks

`StatusSync.on_status`: one report of the operator about the session's pod, applied in one transaction.
Stale reports are dropped first; then each phase has its handler.
-/

namespace GShare.Model

/-- The phases a report can carry, lower-cased; `other` stands for one the backend does not know. -/
inductive Phase where
  | pending | preparing | running | paused | terminating | terminated | error | heartbeat | idlewarning
  | other
deriving DecidableEq, Repr

structure StatusEvent where
  phase : Phase
  boundGpuUuid : Option String
  nodeName : Option String
  podRef : Option String
  /-- The operator kept the pod and evicted its memory. -/
  yielded : Bool
  message : Option String
  restartCount : Option ℕ
  generation : Option ℕ
  containerState : Option String
  ts : ℤ

/-- How old a run may be for a pause report without a reason to count as an echo, in seconds. -/
def resumeEchoWindow : ℤ := 60

/-- How many restarts of a container make a crash loop. -/
def crashLoopRestarts : ℕ := 3

def mentions (text word : String) : Bool := decide (word.toList <:+: text.toList)

/-- A reported text that is not empty. -/
def reported : Option String → Option String
  | some "" => none
  | value => value

/-- White space as `str.strip` knows it. -/
def isSpace (char : Char) : Bool :=
  let code := char.toNat
  (9 ≤ code && code ≤ 13) || (28 ≤ code && code ≤ 32) || (0x2000 ≤ code && code ≤ 0x200A)
    || code ∈ [0x85, 0xA0, 0x1680, 0x2028, 0x2029, 0x202F, 0x205F, 0x3000]

/-- The reason an operator's message names. -/
def mapOperatorReason (message : Option String) : Option Reason :=
  message.bind fun text =>
    let text := text.toLower
    if mentions text "evicted" && (mentions text "ephemeral" || mentions text "storage") then
      some .diskExceeded
    else if mentions text "max-runtime" || mentions text "max runtime" then some .maxRuntime
    else if mentions text "idle" then some .idle
    else none

namespace World

variable (world : World) (event : StatusEvent) (env : Env)

/-- The report is older than the current run: by the generation of the custom resource if both sides
know it, else by the clocks. -/
def stale : Bool :=
  match positive? event.generation, world.resumeGeneration with
  | some generation, some marker => generation < marker
  | _, _ => world.row.startedAt.any (event.ts < ·)

/-- A pause report without a reason, right after a resume. -/
def echo : Bool :=
  (event.message.getD "").toList.all isSpace
    && world.row.startedAt.any (env.now - · < resumeEchoWindow * second)

/-- Where the pod runs, as far as the report says so. -/
def followPod (row : Session) (event : StatusEvent) : Session :=
  { row with
    podRef := reported event.podRef <|> row.podRef
    nodeHostname := reported event.nodeName <|> row.nodeHostname }

def heartbeat : World :=
  { world with row := { world.row with
      lastReportedAt := some env.now
      restartCount := event.restartCount.getD world.row.restartCount
      nodeHostname := reported event.nodeName <|> world.row.nodeHostname } }

/-- A pod that keeps restarting is not a session anyone can use. -/
def crashLooping : Bool :=
  (world.row.status == .running || world.row.status == .preparing)
    && mentions (event.containerState.getD "").toLower "crashloopbackoff"
    && decide (crashLoopRestarts ≤ event.restartCount.getD 0)

/-- The live allocation a running pod needs; a CPU session holds no slice. -/
def ensureAllocation : Option AllocationKind :=
  match world.row.resourceClass with
  | .cpu => world.live
  | .gpu => world.live <|> some .resident

/-- The operator took the pod down on its own: charge up to the report and close the accounting. -/
def onPaused : World :=
  let charged := world.consume world.row event.ts env
  let vacated :=
    if event.yielded then { charged with yieldIdle := charged.yieldIdle <|> some event.ts }
    else charged.releaseAllocation
  { vacated with row := { vacated.row with
      status := .paused
      statusReason := mapOperatorReason event.message <|> some .idle } }

/-- The pod runs: bind the ledger, start the run unless it has started, and start billing. A session
that is over does not come back. -/
def onRunning : World :=
  if world.row.status = .terminating ∨ world.row.status = .terminated ∨ world.row.status = .error then
    world
  else
    let row := { followPod world.row event with
      boundGpuUuid := reported event.boundGpuUuid <|> world.row.boundGpuUuid
      startedAt := world.row.startedAt <|> some event.ts
      status := .running }
    let bound := { world with live := world.ensureAllocation, row := row }
    if row.resourceClass = .gpu ∧ row.creditPerHourSnapshot ≠ 0 then bound.consume row event.ts env
    else bound

/-- The row of a session that ended in `status`; a session that is over keeps its status. -/
def endedRow (row : Session) (status : Status) (reason : Option Reason) (ts : ℤ) : Session :=
  { row with
    status := if row.status.isFinal then row.status else status
    terminatedAt := row.terminatedAt <|> some ts
    statusReason := reason }

/-- Close the accounting and settle; only a session that was running owes a last charge. -/
def endSession (row : Session) (env : Env) : World :=
  let closed : World := { world.releaseAllocation with row := row }
  closed.settleBillable row (world.row.status == .running) env

def onTerminated : World :=
  let reason :=
    if world.row.status.isFinal then world.row.statusReason
    else mapOperatorReason event.message <|> world.row.statusReason
  world.endSession (endedRow world.row .terminated reason event.ts) env

def onError (reason : Option Reason) (env : Env) : World :=
  let reason := reason <|> mapOperatorReason event.message <|> world.row.statusReason
  world.endSession (endedRow world.row .error reason event.ts) env

/-- An interim phase only ever moves the status forward. -/
def reflectPhase (terminating : Bool) (event : StatusEvent) : World :=
  let old := world.row.status
  let status :=
    if terminating then if old = .running ∨ old = .paused then .terminating else old
    else if old = .pending ∨ old = .preparing then .preparing else old
  let reason :=
    if terminating ∧ status.isFinal = false then
      mapOperatorReason event.message <|> world.row.statusReason
    else world.row.statusReason
  { world with row := { followPod world.row event with status := status, statusReason := reason } }

/-- Apply a report that is not dropped. -/
def handle : World :=
  match event.phase with
  | .paused =>
    match world.row.status with
    | .paused => { world with pauseAck := some event.ts }
    | .terminating | .terminated | .error => world
    | .pending | .preparing | .running => world.onPaused event env
  | .idlewarning => world
  | .heartbeat =>
    let seen := world.heartbeat event env
    if seen.crashLooping event then seen.onError event (some .crashLoop) env
    else if seen.row.status = .pending ∨ seen.row.status = .preparing then seen.onRunning event env
    else seen
  | phase =>
    let seen := if event.restartCount.isSome then world.heartbeat event env else world
    match phase with
    | .running => seen.onRunning event env
    | .terminated => seen.onTerminated event env
    | .error => seen.onError event none env
    | .preparing => seen.reflectPhase false event
    | .terminating => seen.reflectPhase true event
    | _ => seen

/-- A report the current state overtook. -/
def dropped : Bool :=
  match world.row.status, event.phase with
  | .paused, .running | .paused, .preparing | .paused, .pending => true
  | .running, .paused => world.stale event || world.echo event env
  | .running, .terminated | .running, .error => world.stale event
  | _, _ => false

def onStatus : World :=
  if world.dropped event env then world else world.handle event env

end World

end GShare.Model
