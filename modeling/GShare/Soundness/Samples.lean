import GShare.Model.Cluster.Resource
import GShare.Model.Credit.Budget
import GShare.Model.Device.Admission

/-! # Sample rows

A funded wallet, a whole-card session, a quoted hold, a budget, a cluster that grants everything and a
single card: the concrete data on which witnesses and counterexamples of the general results are evaluated.
-/

namespace GShare.Soundness.Samples

open Accounting GShare.Model

def hundredCredits : Ledger where
  wallet id := if id = 0 then some ⟨.user, 0, 10000, 0, 0⟩ else none
  txns := []

/-- A session on a whole card, running since the epoch and billed to that wallet. -/
def wholeCard (id : SessionId) (rate : ℕ) : Session :=
  { Session.pendingRow id .gpu none (some 100) (some 0) rate .cold false 0 with
    status := .running, startedAt := some 0 }

def tenCredits : HoldAmount := ⟨10, by norm_num⟩

def thirtyDays : Calendar where
  start month := month * (30 * 24 * 3600 * second)
  monthOf now := now / (30 * 24 * 3600 * second)
  increasing earlier later before := by
    simp only [second]
    omega
  begun now := by
    simp only [second]
    omega
  unfinished now := by
    simp only [second]
    omega

/-- One group of one organization, with all sessions. -/
def oneGroup : Directory where
  groups := [0]
  orgOf _ := some 0
  groupOf _ := some 0
  calendar _ := thirtyDays

/-- A budget of a hundred credits for that group, with both alerts. -/
def groupBudget (action : BudgetAction) : Budget where
  scope := .group 0
  periodStart := 0
  limitCredit := 10000
  spentCredit := 0
  action := action
  alert _ := some ⟨none⟩

/-- A session by itself, with its slice and the funded wallet. -/
def worldOf (row : Session) (live : Option AllocationKind) : World where
  row := row
  live := live
  queued := false
  ledger := hundredCredits
  resumeGeneration := none
  pauseAck := none
  grace := none
  yieldIdle := none

/-- A transaction at `now` that finds a free card and a willing cluster. -/
def granted (now : ℤ) : Env where
  now := now
  stamp := now
  slice := some 24576
  spotSlice := none
  accepted := true
  code := ""
  generation := 1
  holdAmount := tenCredits
  creditPerHour := 600

/-- An empty card of the exclusive pool. -/
def emptyCard : Card where
  clusterId := 0
  totalMemMb := 24576
  usedMemMb := 0
  totalCores := 100
  usedCores := 0
  ready := true
  mode := some .exclusive
  desiredMode := none
  modeState := .ready
  lendState := .normal
  noOvercommit := ⟨Nat.zero_le _, Nat.zero_le _⟩

/-- That card in the hands of one session. -/
def fullCard : Card :=
  { emptyCard with usedMemMb := 24576, usedCores := 100, noOvercommit := ⟨le_rfl, le_rfl⟩ }

def sharedCard : Card := { emptyCard with mode := some .fractional }

def oneCard : Inventory where
  card dev := if dev = 0 then some emptyCard else none
  byUuid uuid := if uuid = "GPU-0" then some 0 else none
  session _ := none
  live := .empty _

/-- A new session that asks for a whole card, named in no request. -/
def exclusiveHolder (pauseMode : PauseMode) (preemptible : Bool) : Holder where
  resourceClass := .gpu
  mode := some .exclusive
  clusterId := 0
  gpuMemMb := none
  gpuCores := none
  pauseMode := pauseMode
  preemptible := preemptible
  priority := 0
  status := .pending
  boundGpuUuid := none

/-- A new session that asks for a slice of a card. -/
def fractionalHolder (mem cores : ℕ) : Holder :=
  { exclusiveHolder .cold false with
    mode := some .fractional, gpuMemMb := some mem, gpuCores := some cores }

def theCard : Query where
  devices := [0]
  headroom _ := true
  tiers := [fun _ => true]
  spread := false

def pinsCards : Handoff where
  perCardMode := true
  uuid dev := if dev = 0 then "GPU-0" else "GPU-1"
  hostname _ := some "node-0"

def reportOf (phase : Phase) : StatusEvent where
  phase := phase
  boundGpuUuid := some "GPU-0"
  nodeName := none
  podRef := none
  yielded := false
  message := none
  restartCount := none
  generation := none
  containerState := none
  ts := 0

/-- Every transaction of a unit of work of its own. -/
def afresh (transactions : List Transaction) : List (Transaction × Loaded) := transactions.map (·, {})

def yieldsCard (id : SessionId) : List Transaction :=
  [.persist id (exclusiveHolder .yield false), .place id theCard theCard,
    .report id (reportOf .running) false, .pause id .yield]

def asksForCard (id : SessionId) : List Transaction :=
  [.persist id (exclusiveHolder .cold true), .place id theCard theCard]

/-- The cards on one node for each of two clusters, open to everyone. -/
def fleetOf (cards : List Card) (reports : ∀ card ∈ cards, 0 < card.totalCores)
    (model : DeviceId → String) (sess : SessionId → Option Holder) (live : Roster Allocation.session) :
    Fleet where
  inventory :=
    { card := fun dev => cards[dev]?, byUuid := fun _ => none, session := sess, live := live }
  reports _ card found := reports card (List.mem_of_getElem? found)
  devices := List.range cards.length
  listed dev isCard := by simpa using isCard
  model := model
  nodeId dev := (cards[dev]?).elim 0 (·.clusterId)
  nodes := ⟨[⟨0, 0, true, some 64, some 256, some 1000, none⟩, ⟨1, 1, true, some 64, some 256, some 1000, none⟩],
    by decide⟩
  pools := .empty _
  grants := []
  orgOf _ := none
  sharedPool _ _ := true
  host _ := ⟨4, 16⟩
  spread := false

def requestOf (holder : Holder) (model : String) (unpartitioned : holder.mode ≠ some .mig) : Request where
  holder := holder
  unpartitioned := unpartitioned
  owner := 0
  group := none
  offeringClass := .gpu
  model := some model
  host := ⟨4, 16⟩
  diskGb := 10

theorem sharedCard_reports : ∀ card ∈ [sharedCard], 0 < card.totalCores := by decide

theorem fractionalHolder_unpartitioned (mem cores : ℕ) : (fractionalHolder mem cores).mode ≠ some .mig := by
  simp [fractionalHolder]

def sliceRequest (mem cores : ℕ) (model : String) : Request :=
  requestOf (fractionalHolder mem cores) model (fractionalHolder_unpartitioned mem cores)

def dedicatedPool : Roster NodePool.id := ⟨[⟨5, 0, false⟩], by decide⟩

def memberRequest : Request := { sliceRequest 4096 20 "A100" with group := some 7 }

end GShare.Soundness.Samples
