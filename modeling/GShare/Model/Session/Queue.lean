import GShare.Model.Device.Calls

/-! # The queue

`queue_ranking`, which orders the queued sessions, and the calls around it: `create_session`,
`reschedule_from_queue`, `resume_parked_from_queue`, and the tick that repeats the last two. A call runs
alone here, from its first transaction to its last. Scores are exact fractions.
-/

namespace GShare.Model

open Accounting

/-- One row of the queue, with the columns that order it. A session that a drain parked waits for its
resume. -/
structure RankedEntry where
  session : SessionId
  resume : Bool
  priority : ℤ
  enqueuedAt : ℤ
deriving DecidableEq, Repr

/-- The columns of a session that the queue reads and placement does not. -/
structure Order where
  session : SessionId
  owner : UserId
  /-- The GPU model of the offering. -/
  model : Option String
deriving DecidableEq, Repr

/-- An allocation that started, with its owner, as the usage query returns it. -/
structure Span where
  owner : UserId
  startedAt : ℤ
  endedAt : Option ℤ
deriving DecidableEq, Repr

/-- When the queue is ranked, and the allocations that the ranking reads. -/
structure Moment where
  now : ℤ
  spans : List Span

/-- The device tables, the sessions and the queue. The database lets a session wait once. -/
structure Desk where
  inventory : Inventory
  orders : Roster Order.session
  queue : Roster RankedEntry.session

/-- One step of priority outweighs all waiting and every penalty. -/
def priorityWeight : ℚ := 10000

/-- Waiting earns nothing after a day. -/
def agingCapMin : ℚ := 1440

/-- Minutes of waiting that an active session costs its owner, and an hour of recent use. -/
def activePenalty : ℚ := 30
def recentHoursPenalty : ℚ := 2

/-- `score`: the priority band, the minutes waited, and the owner's usage against them. -/
def RankedEntry.score (entry : RankedEntry) (now : ℤ) (active : ℕ) (recentHours : ℚ) : ℚ :=
  let waited : ℚ := max (((now - entry.enqueuedAt : ℤ) : ℚ) / (60 * second : ℤ)) 0
  let penalty := activePenalty * min active 10 + recentHoursPenalty * min recentHours 24
  priorityWeight * entry.priority + min waited agingCapMin - penalty

/-- The hours of an owner's allocations within the last day. -/
def Moment.recentHours (moment : Moment) (owner : UserId) : ℚ :=
  let windowStart := moment.now - 24 * 3600 * second
  let spans := moment.spans.filter fun span =>
    span.owner == owner && span.endedAt.all (windowStart ≤ ·)
  (spans.map fun span =>
    let overlap := min (span.endedAt.getD moment.now) moment.now - max span.startedAt windowStart
    ((max overlap 0 : ℤ) : ℚ) / (3600 * second : ℤ)).sum

namespace Inventory

/-- The first transaction of a placement, with its answer: a slice of one's own, else a borrowed one for a
preemptible session. -/
def attempt (inv : Inventory) (id : SessionId) (holder : Holder) (query spotQuery : Query) :
    Option (Inventory × Bool) := do
  let (inv, placed) ← inv.reserveSlice id holder query
  if placed || !holder.preemptible then some (inv, placed)
  else inv.reserveSpotSlice id holder spotQuery

/-- The placement of a new session. One with a priority that got nothing has somebody paused for it, and
borrows the yielded card. -/
def seek (inv : Inventory) (id : SessionId) (holder : Holder) (query spotQuery : Query)
    (victim : Option SessionId) : Option (Inventory × Bool) := do
  let (inv, placed) ← inv.attempt id holder query spotQuery
  if placed || holder.priority == 0 then some (inv, placed)
  else
    match victim with
    | none => some (inv, false)
    | some victim => (inv.pause victim .yield).reserveSpotSlice id holder spotQuery

end Inventory

/-- What the transactions of an admission meet. -/
structure ArrivalInput where
  /-- The gates and the ledger let the request through. -/
  admitted : Bool
  query : Query
  spotQuery : Query
  /-- The session that a preemption pauses. -/
  victim : Option SessionId
  /-- Some card could ever serve the request. -/
  serviceable : Bool
  /-- The operator takes the session. -/
  applied : Bool
  /-- The time the database gives the queue entry. -/
  stamp : ℤ

structure PromoteInput where
  moment : Moment
  query : Query
  spotQuery : Query
  applied : Bool

/-- How a turn of the queue ended. `failed` is an exception, which ends the tick. -/
inductive Outcome where
  | empty | admitted | blocked | skipped | failed
deriving DecidableEq, Repr

inductive Event where
  | create (order : Order) (holder : Holder) (input : ArrivalInput)
  /-- The owner resumes a session. -/
  | start (id : SessionId) (inputs : List ResumeInput)
  /-- The turn of the head. -/
  | reschedule (input : PromoteInput)
  /-- The turn of the parked sessions. It does not rank the queue; `moment` is when it happens. -/
  | resumeParked (moment : Moment) (inputs : List ResumeInput)
  /-- A release, a report, and whatever else writes the device tables. -/
  | other (transaction : Transaction)

/-- What a call did: the tables it leaves, how it ended, and the session it gave a card. -/
structure Reaction where
  desk : Desk
  outcome : Outcome
  given : Option SessionId

/-- Let a resume run until it returns, or until the process stops. -/
def ResumeCall.runAlone (id : SessionId) : List ResumeInput → Inventory → ResumeCall → Inventory
  | [], inv, _ => inv
  | input :: rest, inv, call =>
    match call.next id inv input with
    | none => inv
    | some (inv, call) => runAlone id rest inv call

namespace Desk

variable (desk : Desk)

def active (owner : UserId) : ℕ :=
  desk.orders.rows.countP fun order => order.owner == owner &&
    (desk.inventory.session order.session).any fun holder =>
      !holder.status.isFinal && holder.resourceClass == .gpu

def score (moment : Moment) (entry : RankedEntry) : ℚ :=
  match desk.orders.find? entry.session with
  | none => entry.score moment.now 0 0
  | some order =>
    entry.score moment.now (desk.active order.owner) (moment.recentHours order.owner)

/-- One entry ranks no later than another: by score, then by age. -/
def RanksBefore (moment : Moment) (entry other : RankedEntry) : Prop :=
  desk.score moment other < desk.score moment entry ∨
    desk.score moment entry = desk.score moment other ∧ entry.enqueuedAt ≤ other.enqueuedAt

instance (moment : Moment) : DecidableRel (desk.RanksBefore moment) :=
  fun _ _ => inferInstanceAs (Decidable (_ ∨ _ ∧ _))

/-- `rank`: every entry, the best first. -/
def rank (moment : Moment) : List RankedEntry := desk.queue.rows.insertionSort (desk.RanksBefore moment)

/-- `head`: the first entry that is no resume. -/
def head (moment : Moment) : Option RankedEntry := (desk.rank moment).find? (!·.resume)

def inCluster (cluster : Option ClusterId) (entry : RankedEntry) : Bool :=
  cluster.all fun cluster => (desk.inventory.session entry.session).any (·.clusterId == cluster)

def ownedBy (user : UserId) (entry : RankedEntry) : Bool :=
  (desk.orders.find? entry.session).any (·.owner == user)

/-- `my_queue`: the entries of the caller, of one cluster if it is named, with their positions. -/
def myQueue (moment : Moment) (user : UserId) (cluster : Option ClusterId) : List (RankedEntry × ℕ) :=
  let ranked := (desk.rank moment).filter (desk.inCluster cluster)
  (ranked.zipIdx 1).filter fun shown => desk.ownedBy user shown.1

/-- The entry of a paused session that is taken up first. -/
def parked? : Option RankedEntry :=
  ((desk.queue.rows.filter fun entry =>
      (desk.inventory.session entry.session).any (·.status == .paused)).insertionSort
    fun entry other => other.priority < entry.priority ∨
      entry.priority = other.priority ∧ entry.enqueuedAt ≤ other.enqueuedAt).head?

/-- Delete the entry of a session. -/
def drop (id : SessionId) : Desk := { desk with queue := desk.queue.remove id }

/-- Undo the reservation of a failed call. -/
def rollBack (id : SessionId) : Desk :=
  { desk with inventory := desk.inventory.releaseReservation id }

/-- Commit the pending row of a new session. -/
def persist (order : Order) (holder : Holder) : Option Desk := do
  let inv ← desk.inventory.apply (.persist order.session holder)
  let orders ← desk.orders.insert order
  some { desk with inventory := inv, orders := orders }

/-- `_enqueue`: a session that has an entry keeps it. -/
def enqueue (id : SessionId) (priority : ℕ) (stamp : ℤ) : Desk :=
  { desk with queue := (desk.queue.insert ⟨id, false, priority, stamp⟩).getD desk.queue }

/-- `create_session`. The queue is written when nothing fits, and not read. -/
def create (order : Order) (holder : Holder) (input : ArrivalInput) : Reaction :=
  let id := order.session
  match desk.persist order holder with
  | none => ⟨desk, .failed, none⟩
  | some desk =>
    if !input.admitted then ⟨desk.rollBack id, .failed, none⟩
    else if holder.resourceClass = .cpu then
      if input.applied then ⟨desk, .admitted, none⟩ else ⟨desk.rollBack id, .failed, none⟩
    else
      match desk.inventory.seek id holder input.query input.spotQuery input.victim with
      | none => ⟨desk.rollBack id, .failed, none⟩
      | some (inv, true) =>
        let desk := { desk with inventory := inv }
        if input.applied then ⟨desk, .admitted, some id⟩ else ⟨desk.rollBack id, .failed, some id⟩
      | some (inv, false) =>
        let desk := { desk with inventory := inv }
        if input.serviceable then ⟨desk.enqueue id holder.priority input.stamp, .blocked, none⟩
        else ⟨desk.rollBack id, .failed, none⟩

/-- `reschedule_from_queue`. -/
def reschedule (input : PromoteInput) : Reaction :=
  match desk.head input.moment with
  | none => ⟨desk, .empty, none⟩
  | some entry =>
    let id := entry.session
    match desk.inventory.session id with
    | none => ⟨desk.drop id, .skipped, none⟩
    | some holder =>
      if holder.status ≠ .pending then ⟨desk.drop id, .skipped, none⟩
      else
        match desk.inventory.attempt id holder input.query input.spotQuery with
        | none => ⟨desk, .failed, none⟩
        | some (inv, false) => ⟨{ desk with inventory := inv }, .blocked, none⟩
        | some (inv, true) =>
          let desk := { desk with inventory := inv }
          -- The clean-up after a refused handoff reads the expired row object, and fails itself.
          if input.applied then ⟨desk.drop id, .admitted, some id⟩ else ⟨desk, .failed, some id⟩

/-- `start`, alone. A session that kept its slice is given none. -/
def start (id : SessionId) (inputs : List ResumeInput) : Desk × Option SessionId :=
  let inv := ResumeCall.runAlone id inputs desk.inventory .called
  let given := (desk.inventory.live.find? id).isNone && (inv.live.find? id).isSome
  ({ desk with inventory := inv }, if given then some id else none)

/-- `resume_parked_from_queue`. Only credit makes a session lose its entry without a resume. -/
def resumeParked (inputs : List ResumeInput) : Reaction :=
  match desk.parked? with
  | none => ⟨desk, .empty, none⟩
  | some entry =>
    let id := entry.session
    let (resumed, given) := desk.start id inputs
    if inputs.head?.any (!·.solvent) then ⟨resumed.drop id, .skipped, given⟩
    else if (resumed.inventory.session id).any (·.status == .running) then
      ⟨resumed.drop id, .admitted, given⟩
    else ⟨resumed, .blocked, given⟩

/-- One call. -/
def step : Event → Reaction
  | .create order holder input => desk.create order holder input
  | .start id inputs =>
    let (resumed, given) := desk.start id inputs
    ⟨resumed, .admitted, given⟩
  | .reschedule input => desk.reschedule input
  | .resumeParked _ inputs => desk.resumeParked inputs
  | .other transaction =>
    ⟨{ desk with inventory := (desk.inventory.apply transaction).getD desk.inventory }, .admitted, none⟩

end Desk

/-- How often each pass of a tick takes its turn at most. -/
def maxDequeuePerTick : ℕ := 50

/-- Turns of the queue with the tables each one met, the tables they leave, and how the last one ended. -/
structure Pass where
  turns : List (Desk × Event)
  desk : Desk
  outcome : Outcome

/-- Take turns as long as they admit or skip somebody. -/
def Desk.drain (desk : Desk) : List Event → Pass
  | [] => ⟨[], desk, .admitted⟩
  | event :: rest =>
    let reaction := desk.step event
    match reaction.outcome with
    | .empty | .blocked | .failed => ⟨[(desk, event)], reaction.desk, reaction.outcome⟩
    | .admitted | .skipped =>
      let later := reaction.desk.drain rest
      { later with turns := (desk, event) :: later.turns }

/-- `queue_ticker.run`: admit from the head, then resume parked sessions. An exception ends it. -/
def Desk.tick (desk : Desk) (promotions : List PromoteInput) (resumes : List (Moment × List ResumeInput)) : Pass :=
  let first := desk.drain ((promotions.take maxDequeuePerTick).map .reschedule)
  if first.outcome = .failed then first
  else
    let second := first.desk.drain
      ((resumes.take maxDequeuePerTick).map fun (moment, inputs) => .resumeParked moment inputs)
    { second with turns := first.turns ++ second.turns }

/-- A call from outside: a single one, or a tick of the worker. -/
inductive QueueCall where
  | single (event : Event)
  | tick (promotions : List PromoteInput) (resumes : List (Moment × List ResumeInput))

def Desk.handle (desk : Desk) : QueueCall → Pass
  | .single event => ⟨[(desk, event)], (desk.step event).desk, (desk.step event).outcome⟩
  | .tick promotions resumes => desk.tick promotions resumes

/-- All turns of a sequence of calls, with the tables each one met. -/
def Desk.history (desk : Desk) : List QueueCall → List (Desk × Event)
  | [] => []
  | call :: calls => (desk.handle call).turns ++ (desk.handle call).desk.history calls

end GShare.Model
