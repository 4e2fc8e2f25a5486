import GShare.Accounting.Roster
import GShare.Machine.Loaded
import GShare.Model.Session.World
import Mathlib.Data.List.MinMax
import Mathlib.Data.List.Sort
import Mathlib.Data.Prod.Lex

/-! # GPU cards and which of them a request gets

One row of the device table: its pool, its loan and its occupancy counters, which the database keeps
within the card. `reserveTarget` is the choice of a card among the candidates of one pool tier.
-/

namespace GShare.Model

/-- The pool a card is in, and the kind of slice a session asks for. -/
inductive CardMode where
  | fractional | exclusive | mig
deriving DecidableEq, Repr

/-- The drain state machine of a pool change. -/
inductive ModeState where
  | ready | draining | applying | error
deriving DecidableEq, Repr

/-- Whether the resident uses its card, yielded it, or somebody borrowed it. -/
inductive LendState where
  | normal | yielded | lent
deriving DecidableEq, Repr

/-- One GPU. The check constraint `no_overcommit` holds of every row. -/
structure Card where
  clusterId : ℕ
  totalMemMb : ℕ
  usedMemMb : ℕ
  totalCores : ℕ
  usedCores : ℕ
  ready : Bool
  mode : Option CardMode
  desiredMode : Option CardMode
  modeState : ModeState
  lendState : LendState
  noOvercommit : usedMemMb ≤ totalMemMb ∧ usedCores ≤ totalCores
deriving DecidableEq

/-- An allocation without an end; the amounts of one that a callback made may be missing. -/
structure Allocation where
  session : SessionId
  device : Option DeviceId
  gpuMemMb : Option ℕ
  gpuCores : Option ℕ
  kind : AllocationKind
deriving DecidableEq, Repr

namespace Card

open Machine

variable (card : Card) (mem cores : ℕ)

/-- Write the counters; the check constraint fails the transaction. -/
def setUsed : Option Card :=
  if fits : mem ≤ card.totalMemMb ∧ cores ≤ card.totalCores then
    some { card with usedMemMb := mem, usedCores := cores, noOvercommit := fits }
  else none

/-- Lower the counters by an allocation's amounts, not below zero. -/
def giveBack (alloc : Allocation) : Card where
  __ := card
  usedMemMb := card.usedMemMb - alloc.gpuMemMb.getD 0
  usedCores := card.usedCores - alloc.gpuCores.getD 0
  noOvercommit :=
    ⟨(Nat.sub_le _ _).trans card.noOvercommit.1, (Nat.sub_le _ _).trans card.noOvercommit.2⟩

/-- A change between the pools that no node has to carry out. -/
def isMetadata : CardMode → Bool
  | .fractional | .exclusive => true
  | .mig => false

/-- Apply a pending pool change once the card is empty. -/
def applyDrainedMode : Card :=
  match card.modeState, card.desiredMode with
  | .draining, some desired =>
    if card.usedMemMb = 0 ∧ card.usedCores = 0 ∧ card.lendState = .normal
        ∧ isMetadata desired ∧ card.mode.all isMetadata then
      { card with mode := some desired, modeState := .ready }
    else card
  | _, _ => card

/-- Return an allocation to the card. A borrow never added to the counters; it only ends the loan. -/
def release (alloc : Allocation) : Card :=
  match alloc.kind with
  | .spot => applyDrainedMode { card with
      lendState := if card.lendState = .lent then .yielded else card.lendState }
  | .resident => (card.giveBack alloc).applyDrainedMode

/-- Roll the reservation of a failed handoff back, whatever its kind. -/
def rollBack (alloc : Allocation) : Card :=
  (card.giveBack alloc).applyDrainedMode

/-- The row of a card after the flush of an object that was `loaded` and has `changed`; the check constraint
fails the transaction. -/
def flush (loaded changed current : Card) : Option Card :=
  let column {Column : Type} [DecidableEq Column] (read : Card → Column) : Column :=
    flushedColumn loaded changed read current
  if fits : column usedMemMb ≤ column totalMemMb ∧ column usedCores ≤ column totalCores then
    some {
      clusterId := column clusterId
      totalMemMb := column totalMemMb
      usedMemMb := column usedMemMb
      totalCores := column totalCores
      usedCores := column usedCores
      ready := column ready
      mode := column mode
      desiredMode := column desiredMode
      modeState := column modeState
      lendState := column lendState
      noOvercommit := fits }
  else none

@[simp] theorem flush_fresh (changed : Card) : card.flush changed card = some changed := by
  simp only [flush, flushedColumn_fresh, dif_pos changed.noOvercommit]

/-- The cores that are shared out; a card that reports none counts as a whole one. -/
def shareableCores : ℕ := if card.totalCores = 0 then 100 else card.totalCores

def freeMem : ℕ := card.totalMemMb - card.usedMemMb

/-- A slice of this size is free. -/
def fits : Bool :=
  mem ≤ card.freeMem && card.usedCores + cores ≤ card.shareableCores

/-- The smallest instance of a partitioned card that a request fits in. -/
def migRounded : Option (ℕ × ℕ) :=
  if card.totalMemMb = 0 ∨ mem = 0 ∨ card.totalMemMb < mem then none
  else [4, 2, 1].findSome? fun fraction =>
    if mem ≤ card.totalMemMb / fraction then
      some (card.totalMemMb / fraction, max cores (100 / fraction))
    else none

/-- The headroom a placement leaves: of the roomier dimension, then of both together. -/
def freeAfter : ℚ ×ₗ ℚ :=
  let totalMem : ℚ := if card.totalMemMb = 0 then 1 else card.totalMemMb
  let totalCores : ℚ := card.shareableCores
  let mem := (totalMem - card.usedMemMb - mem) / totalMem
  let cores := (totalCores - card.usedCores - cores) / totalCores
  toLex (max mem cores, mem + cores)

end Card

/-- A card with its identifier, as a query returns it. -/
abbrev Candidate := DeviceId × Card

/-- Where a slice goes and how much of the card it takes. -/
structure Target where
  device : DeviceId
  mem : ℕ
  cores : ℕ
deriving DecidableEq, Repr

variable (cards : List Candidate)

/-- Best fit in two dimensions: the fullest card that fits, or the emptiest when load is spread. -/
def pickDevice (mem cores : ℕ) (spread : Bool) : Option Candidate :=
  let fitting := cards.filter fun candidate => candidate.2.fits mem cores
  let score (candidate : Candidate) := candidate.2.freeAfter mem cores
  if spread then fitting.argmax score else fitting.argmin score

/-- The first partitioned card, the fullest first, with a free instance for the request. -/
def pickInstance (mem cores : ℕ) (aligned : Bool) : Option Target :=
  (cards.insertionSort fun one other => one.2.freeMem ≤ other.2.freeMem).findSome? fun (dev, card) =>
    (card.migRounded mem cores).bind fun (size, share) =>
      if card.fits size share ∧ (aligned → size = mem) then some ⟨dev, size, share⟩ else none

/-- The card to reserve and what to record. An exclusive session takes an empty card whole. A
fractional one prefers an instance of exactly its size, then a shared card, then a rounded instance. -/
def reserveTarget (mem cores : ℕ) (exclusive spread : Bool) : Option Target :=
  if exclusive then
    (cards.find? fun (_, card) => card.usedMemMb = 0 ∧ card.usedCores = 0).map fun (dev, card) =>
      ⟨dev, card.totalMemMb, card.totalCores⟩
  else
    let mig := cards.filter fun (_, card) => card.mode = some .mig
    let core := cards.filter fun (_, card) => card.mode ≠ some .mig
    pickInstance mig mem cores true
      <|> (pickDevice core mem cores spread).map (fun (dev, _) => ⟨dev, mem, cores⟩)
      <|> pickInstance mig mem cores false

end GShare.Model
