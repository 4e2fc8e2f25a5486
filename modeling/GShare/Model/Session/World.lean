import GShare.Model.Credit.Engine

/-! # One session and all that its calls share

The session row, its live allocation, its queue entry, the ledger and the Redis markers about it. The
database lets a session have one allocation without an end, and one queue entry. What the other
sessions, the cluster and the clock contribute to a transaction is its environment. The counters of
the card an allocation stands on belong to the device tables and are left out here.
-/

namespace GShare.Model

/-- A slice of a card of one's own, or one borrowed from a session that yielded. -/
inductive AllocationKind where
  | resident | spot
deriving DecidableEq, Repr

structure World where
  row : Session
  /-- The allocation without an end. -/
  live : Option AllocationKind
  queued : Bool
  ledger : Ledger
  /-- `resume-gen`: the generation of the custom resource at the last resume. -/
  resumeGeneration : Option ℕ
  /-- `pause-ack`: when the operator confirmed a pause. -/
  pauseAck : Option ℤ
  /-- `grace`: since when the credit is exhausted. -/
  grace : Option ℤ
  /-- `yield-idle`: since when the operator keeps a yielded pod. -/
  yieldIdle : Option ℤ

/-- What a transaction meets: the clocks, what the scheduler and the cluster answer, the price list. -/
structure Env where
  now : ℤ
  /-- The time the database gives the rows. -/
  stamp : ℤ
  /-- A card of one's own that fits, by its total memory. -/
  slice : Option ℕ
  /-- A yielded card that can be borrowed, by its total memory. -/
  spotSlice : Option ℕ
  /-- The gate lets through, the cluster call succeeds, the preemption or the reclaim worked. -/
  accepted : Bool
  /-- The error code of a refusal. -/
  code : String
  /-- The generation a patched custom resource gets; zero when the cluster reports none. -/
  generation : ℕ
  holdAmount : HoldAmount
  /-- The hourly price of the session's offering. -/
  creditPerHour : ℕ

/-- A column as the object mapper stores it: only a value that differs from the loaded one is written. -/
def stored {Value : Type} [DecidableEq Value] (loaded new current : Value) : Value :=
  if new = loaded then current else new

/-- The share of the normal price that a preemptible session pays. -/
def spotDiscount : ℚ := 3 / 10

/-- The discounted price, quantized to hundredths with ties to even. -/
def spotRate (rate : ℕ) : ℕ := (Rounding.halfEven (rate * spotDiscount)).toNat

namespace Session

/-- The price of one minute, which a resume must be able to pay. -/
def minutePrice (sess : Session) : ℤ :=
  round2 (decimal (decimal (credits sess.creditPerHourSnapshot * sess.occupancy) / 60))

end Session

namespace World

variable (world : World)

def releaseAllocation : World := { world with live := none }

/-- Arm the grace window once. -/
def startGrace (clock : ℤ) : World :=
  { world with grace := world.grace <|> some clock }

def clearGrace : World := { world with grace := none, yieldIdle := none }

/-- The engine's per-minute charge, computed from the row as it was loaded. -/
def consume (world : World) (loaded : Session) (time : ℤ) (env : Env) : World :=
  let charged :=
    { world with ledger := world.ledger.consume loaded (minuteBucket time) time env.stamp }
  if world.ledger.exhausts loaded (minuteBucket time) time env.stamp then charged.startGrace env.now
  else charged

/-- The engine's settlement, computed from the row as it was loaded. -/
def settle (world : World) (loaded : Session) (final : Bool) (env : Env) : World :=
  { world with
    ledger := world.ledger.settle loaded (.settle loaded.id) final env.now env.stamp }

def settleBillable (loaded : Session) (final : Bool) (env : Env) : World :=
  if loaded.billable then world.settle loaded final env else world

/-- The wallet cannot pay the next minute, its own hold included. -/
def insolvent : Bool :=
  match world.row.billingWalletId with
  | none => false
  | some wallet =>
    let available :=
      match world.ledger.wallet wallet with
      | none => 0
      | some row => world.ledger.availableFor wallet row world.row.id
    world.row.creditPerHourSnapshot != 0 && decide (available < world.row.minutePrice)

/-- Insert the allocation of a slice and note the size of its card; the partial unique index refuses
a second live one. -/
def allocate (loaded : Session) (kind : AllocationKind) (totalMem : ℕ) : Option World :=
  match world.live with
  | some _ => none
  | none => some { world with
      live := some kind
      row := { world.row with
        deviceTotalMemMb := stored loaded.deviceTotalMemMb (some totalMem) world.row.deviceTotalMemMb } }

/-- Whether a slice is found: one's own card, or a borrowed one for a preemptible session. -/
def placement (preemptible : Bool) (env : Env) : Option (AllocationKind × ℕ) :=
  match env.slice with
  | some total => some (.resident, total)
  | none => if preemptible then env.spotSlice.map fun total => (.spot, total) else none

/-- Close the reservation of a failed handoff and mark a session that never started as failed. -/
def releaseReservation (reason : Option Reason) : World :=
  let released := world.releaseAllocation
  if world.row.status = .pending ∨ world.row.status = .preparing then
    { released with row := { world.row with
        status := .error, statusReason := world.row.statusReason <|> reason } }
  else released

end World

end GShare.Model
