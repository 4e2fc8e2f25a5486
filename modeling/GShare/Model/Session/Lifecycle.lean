import GShare.Machine.Turns
import GShare.Model.Session.Scheduler
import Mathlib.Data.List.Sort

/-! # The grace enforcer and the life of one session

`SessionService.demote` and the passes of the grace enforcer that call it. A pass reads the session as
paused, and later demotes it: one transaction gives up the resident allocation and the lossless pause
mode, and then the operator is told to keep the session paused. No step of a demotion looks at the status
again. `lifecycleProgram` has every operation on the session; its calls may interleave or take turns.
-/

namespace GShare.Model

open Machine

/-- How long a yield reserves its card, in seconds. -/
def yieldReservationTtl : ℤ := 1800

inductive EnforcerPass where
  /-- Paused for lack of credit: resume once solvent, demote past the reservation. -/
  | credit
  /-- Yielded by the operator because it was idle. -/
  | idle
  /-- The yields of a node hold too much of its memory. -/
  | hostRam
deriving DecidableEq, Repr

inductive EnforcePoint where
  | called
  /-- The session was read as paused; next it is demoted. -/
  | chosen
  /-- The lossless hold is given up; next the operator is told. -/
  | demoted
deriving DecidableEq, Repr

/-- A yield that a node holds in its memory. -/
structure YieldItem where
  session : SessionId
  priority : ℤ
  age : ℤ
  vram : ℤ
deriving DecidableEq, Repr

namespace YieldItem

/-- The lowest priority first, then the oldest. -/
def Precedes (item other : YieldItem) : Prop :=
  item.priority < other.priority ∨ item.priority = other.priority ∧ item.age ≤ other.age

instance : DecidableRel Precedes := fun _ _ => inferInstanceAs (Decidable (_ ∨ _ ∧ _))

def committed (items : List YieldItem) : ℤ := (items.map vram).sum

/-- Pass over the items while `held` exceeds the budget. -/
def victims (budget : ℤ) : ℤ → List YieldItem → List SessionId
  | _, [] => []
  | held, item :: rest =>
    if held ≤ budget then [] else item.session :: victims budget (held - item.vram) rest

def selectRamPressureVictims (items : List YieldItem) (budget : ℤ) : List SessionId :=
  if budget ≤ 0 ∨ committed items ≤ budget then []
  else victims budget (committed items) (items.insertionSort Precedes)

end YieldItem

namespace World

/-- The session can draw on some credit; one without a wallet always can. -/
def solvent (world : World) : Bool :=
  match world.row.billingWalletId with
  | none => true
  | some wallet =>
    match world.ledger.wallet wallet with
    | none => false
    | some row => 0 < world.ledger.availableFor wallet row world.row.id

/-- The transaction of `demote`: only a resident allocation is released, and the pause mode is cold in
any case. -/
def demote (world : World) : World :=
  { world with
    live := if world.live = some .resident then none else world.live
    row := { world.row with pauseMode := .cold } }

/-- The marker of an operator's yield is past the reservation. -/
def idleExpired (world : World) (env : Env) : Bool :=
  world.yieldIdle.any fun armed => yieldReservationTtl * second ≤ env.now - armed

end World

/-- An operation on the session and how far it has come. -/
inductive Operation where
  | create (point : CreatePoint)
  | call (call : SessionCall)
  | enforce (pass : EnforcerPass) (point : EnforcePoint)

namespace Operation

def done : Operation := .call .returned

/-- The look of a pass at the session. How long the credit has been exhausted and which yields of the
node weigh most comes with the environment. -/
def look (world : World) (env : Env) : EnforcerPass → World × Operation
  | .credit =>
    if world.row.status ≠ .paused then (world, done)
    else if world.solvent then (world, .call (.start .called))
    else (world, if world.row.pauseMode = .yield ∧ env.accepted then .enforce .credit .chosen else done)
  | .idle =>
    if world.row.status ≠ .paused ∨ world.row.pauseMode ≠ .yield then
      ({ world with yieldIdle := none }, done)
    else (world, if world.idleExpired env then .enforce .idle .chosen else done)
  | .hostRam =>
    (world, if world.row.status = .paused ∧ world.row.pauseMode = .yield ∧ world.live = some .resident
        ∧ env.accepted then .enforce .hostRam .chosen else done)

/-- One transaction of an operation, or one of its calls of the cluster or of Redis. -/
def next (world : World) (env : Env) : Operation → Option (World × Operation)
  | .create point => (world.create env point).map fun (world, after) => (world, .create after)
  | .call service => (service.next world env).map fun (world, after) => (world, .call after)
  | .enforce pass .called => some (look world env pass)
  | .enforce pass .chosen => some (world.demote, .enforce pass .demoted)
  | .enforce pass .demoted =>
    -- The operator is told; only a pass that went through takes the marker of an idle yield with it.
    some (if pass = .idle ∧ env.accepted then { world with yieldIdle := none } else world, done)

def finished : Operation → Bool
  | .create .created | .call .returned => true
  | _ => false

/-- Where a new operation stands; a session is created once. -/
def isEntry : Operation → Bool
  | .call service => service.isEntry
  | .enforce _ .called => true
  | _ => false

end Operation

/-- The operations on one session that may begin, and what happens beside them. -/
def lifecycleProgram {Beside : Type} (entry : Operation → Bool)
    (outside : World → Beside → Option World) : Program World Operation Env Beside where
  entry operation := entry operation
  next _ world operation env := operation.next world env
  outside := outside

instance {Beside : Type} (entry : Operation → Bool) (outside : World → Beside → Option World) :
    DecidablePred (lifecycleProgram entry outside).entry :=
  fun operation => inferInstanceAs (Decidable (entry operation))

end GShare.Model
