import GShare.Machine.Calls
import GShare.Model.Device.Transactions

/-! # Interleaved calls on the device tables

`releaseProgram` cuts `_release_allocation` at its statements: the live allocation is read, the row of
its card is locked, and the commit writes both. `resumeProgram` cuts `start` with its `_reclaim_spot` at
the commits: the borrowers of the card are listed, each is terminated in transactions of its own whose
failures are swallowed, the loan is cleared, and the resident says running.
-/

namespace GShare.Model

open Machine

/-- One allocation and its card, as the releases of the allocation see them. -/
structure SharedCard where
  /-- The committed row of the card. -/
  card : Card
  /-- The allocation has no end yet. -/
  live : Bool
  /-- The call that holds the row lock of the card, until it commits. -/
  lock : Option ℕ
  /-- How much the releases of the allocation lowered the counters: memory and cores. -/
  lowered : ℕ × ℕ

/-- How far a release of the allocation has come. -/
inductive ReleaseCall where
  /-- About to read the session's live allocation. -/
  | reading
  /-- The allocation was live; the card is to be read with its row lock. -/
  | locking
  /-- The lock is held; `card` is the object of the row. -/
  | holding (card : Card)
  | finished
deriving DecidableEq

/-- What the database adds to a release. -/
structure ReleaseInput where
  /-- The card as the unit of work has loaded it before; a lock does not load it again. -/
  loaded : Option Card
  /-- The transaction commits. -/
  commits : Bool

/-- One statement of a release. A call whose transaction fails writes nothing. -/
def ReleaseCall.next (alloc : Allocation) (place : ℕ) (store : SharedCard) (call : ReleaseCall)
    (input : ReleaseInput) : Option (SharedCard × ReleaseCall) :=
  match call with
  | .reading => some (store, if store.live then .locking else .finished)
  | .locking =>
    match store.lock with
    | none => some ({ store with lock := some place }, .holding (input.loaded.getD store.card))
    | some _ => none
  | .holding card =>
    match card.flush (card.release alloc) store.card, input.commits with
    | some released, true => some ({
        card := released
        live := false
        lock := none
        lowered := (store.lowered.1 + (store.card.usedMemMb - released.usedMemMb),
          store.lowered.2 + (store.card.usedCores - released.usedCores)) }, .finished)
    | _, _ => some ({ store with lock := none }, .finished)
  | .finished => none

/-- The transaction of another session on the card: it has to wait for the lock, and the counters it
leaves still count the allocation while that is live. -/
def SharedCard.others (alloc : Allocation) (store : SharedCard) (card : Card) : Option SharedCard :=
  if store.lock = none ∧ (store.live → alloc.gpuMemMb.getD 0 ≤ card.usedMemMb ∧
      alloc.gpuCores.getD 0 ≤ card.usedCores) then
    some { store with card := card }
  else none

/-- Any number of releases of one allocation, between transactions of the other sessions on its card. -/
def releaseProgram (alloc : Allocation) : Program SharedCard ReleaseCall ReleaseInput Card where
  entry call := call = .reading
  next := ReleaseCall.next alloc
  outside := SharedCard.others alloc

instance (alloc : Allocation) : DecidablePred (releaseProgram alloc).entry :=
  fun call => inferInstanceAs (Decidable (call = .reading))

/-- How far the termination of one borrower has come. -/
inductive PreemptStage where
  | claiming | releasing | ending
deriving DecidableEq, Repr

/-- How far a resume of the resident has come. -/
inductive ResumeCall where
  | called
  /-- The transition was allowed and the pod was kept: take the card back. -/
  | reclaiming
  | preempting (dev : DeviceId) (borrower : SessionId) (rest : List SessionId) (stage : PreemptStage)
  /-- All borrowers were dealt with; the loan is to be cleared. -/
  | clearing (dev : DeviceId)
  /-- Nothing was kept: a slice is needed. -/
  | reserving
  | resuming
  | returned
deriving DecidableEq, Repr

structure ResumeInput where
  /-- The wallet can pay. -/
  solvent : Bool
  /-- The transaction of a borrower's termination fails. -/
  fails : Bool
  query : Query

namespace ResumeCall

/-- Terminate the borrowers one after the other, then clear the loan. -/
def preempt (dev : DeviceId) : List SessionId → ResumeCall
  | [] => .clearing dev
  | borrower :: rest => .preempting dev borrower rest .claiming

variable (resident : SessionId) (inv : Inventory)

def loan? : Option (DeviceId × LendState) :=
  (inv.residentCard? resident).bind fun dev =>
    (inv.card dev).map fun card => (dev, card.lendState)

/-- What the reclaim reads: the resident's card, its loan and its borrowers. A borrower of higher
priority makes the resume wait. -/
def reclaim : ResumeCall :=
  match loan? resident inv with
  | none | some (_, .normal) => .resuming
  | some (dev, .yielded) => .clearing dev
  | some (dev, .lent) =>
    let borrowers := (inv.live.rows.filter (·.borrows dev)).map Allocation.session
    let own := ((inv.session resident).map Holder.priority).getD 0
    let highest := ((borrowers.filterMap inv.session).map Holder.priority).foldr max 0
    if own < highest then .returned else preempt dev borrowers

/-- One transaction of a borrower's termination; after a failure the next borrower follows. -/
def preemptStep (dev : DeviceId) (borrower : SessionId)
    (rest : List SessionId) (fails : Bool) : PreemptStage → Inventory × ResumeCall
  | .claiming =>
    match inv.session borrower with
    | none => (inv, preempt dev rest)
    | some holder =>
      if fails || holder.status == .terminated then (inv, preempt dev rest)
      else (inv.setStatus borrower .terminating, .preempting dev borrower rest .releasing)
  | .releasing =>
    if fails then (inv, preempt dev rest)
    else (inv.releaseAllocation borrower, .preempting dev borrower rest .ending)
  | .ending =>
    if fails then (inv, preempt dev rest)
    else (inv.setStatus borrower .terminated, preempt dev rest)

def next (input : ResumeInput) : ResumeCall → Option (Inventory × ResumeCall)
  | .called =>
    (inv.session resident).map fun holder =>
      if holder.status.assertTransition .running && input.solvent then
        if holder.pauseMode = .yield ∧ (inv.live.find? resident).isSome then (inv, .reclaiming)
        else (inv, if holder.resourceClass = .gpu then .reserving else .resuming)
      else (inv, .returned)
  | .reclaiming => some (inv, reclaim resident inv)
  | .preempting dev borrower rest stage =>
    some (preemptStep inv dev borrower rest input.fails stage)
  | .clearing dev =>
    some (inv.modifyCard dev fun card => { card with lendState := .normal }, .resuming)
  | .reserving =>
    (inv.session resident).map fun holder =>
      ((inv.resumeCold resident holder input.query).getD inv, .returned)
  | .resuming => some (inv.setStatus resident .running, .returned)
  | .returned => none

end ResumeCall

inductive LoanCall where
  | resume (call : ResumeCall)
  /-- A session asks for a yielded or lent card, in one transaction. -/
  | borrow (id : SessionId) (query : Query)
  | answered

/-- Where a new call stands. -/
def LoanCall.isEntry : LoanCall → Bool
  | .resume .called | .borrow .. => true
  | _ => false

def LoanCall.next (resident : SessionId) (inv : Inventory) (input : ResumeInput) :
    LoanCall → Option (Inventory × LoanCall)
  | .resume call => (call.next resident inv input).map fun (next, after) => (next, .resume after)
  | .borrow id query => (inv.apply (.borrow id query)).map fun next => (next, .answered)
  | .answered => none

/-- Any number of resumes of one resident and of borrows of yielded cards. -/
def resumeProgram (resident : SessionId) : Program Inventory LoanCall ResumeInput Empty where
  entry call := call.isEntry
  next _ inv call input := call.next resident inv input
  outside _ impossible := impossible.elim

instance (resident : SessionId) : DecidablePred (resumeProgram resident).entry :=
  fun call => inferInstanceAs (Decidable (call.isEntry))

end GShare.Model
