import GShare.Model.Device.Modes
import GShare.Proofs.Device.Writes

/-! # What the writers of a card's pool do

One lemma for each writer: a transaction on sessions applies a drained change at most, the administrator's
calls write the target and the state, a report writes the size and the mode, and the rebalancer takes one
step of the drain state machine.
-/

namespace GShare.Model

open Option Card

/-- The pool columns stay, or the pending change of a drained card was applied. -/
structure Card.Pooled (before after : Card) : Prop where
  desired : after.desiredMode = before.desiredMode
  pool : after.mode = before.mode ∧ after.modeState = before.modeState ∨
    before.modeState = .draining ∧ after.modeState = .ready ∧ after.mode = before.desiredMode ∧
      before.desiredMode.any isMetadata

namespace Card

variable {card next : Card}

theorem Pooled.same (desired : next.desiredMode = card.desiredMode) (mode : next.mode = card.mode)
    (state : next.modeState = card.modeState) : card.Pooled next :=
  ⟨desired, .inl ⟨mode, state⟩⟩

theorem Pooled.trans {first second third : Card} (left : first.Pooled second)
    (right : second.Pooled third) : first.Pooled third := by
  refine ⟨right.desired.trans left.desired, ?_⟩
  rcases left.pool with ⟨mode, state⟩ | ⟨draining, ready, applied, metadata⟩
  · rw [← mode, ← state, ← left.desired]
    exact right.pool
  · rcases right.pool with ⟨mode, state⟩ | ⟨still, -⟩
    · exact .inr ⟨draining, state.trans ready, mode.trans applied, metadata⟩
    · rw [ready] at still
      cases still

theorem applyDrainedMode_cases (card : Card) : card.applyDrainedMode = card ∨
    ∃ desired, card.modeState = .draining ∧ card.desiredMode = some desired ∧ isMetadata desired ∧
      card.isEmpty ∧ card.applyDrainedMode = { card with mode := some desired, modeState := .ready } := by
  unfold applyDrainedMode
  split
  next desired draining wanted =>
    split_ifs with drained
    · obtain ⟨mem, cores, idle, metadata, -⟩ := drained
      exact .inr ⟨desired, draining, wanted, metadata, by simp [isEmpty, mem, cores, idle], rfl⟩
    · exact .inl rfl
  next => exact .inl rfl

theorem pooled_traces : Traces Pooled where
  refl _ := .same rfl rfl rfl
  trans := Pooled.trans
  setUsed set := by
    obtain ⟨_, rfl⟩ := setUsed_eq_some set
    exact .same rfl rfl rfl
  lendState _ _ := .same rfl rfl rfl
  giveBack _ _ := .same rfl rfl rfl
  applyDrainedMode card := by
    rcases card.applyDrainedMode_cases with same | ⟨desired, draining, wanted, metadata, -, applied⟩
    · rw [same]
      exact .same rfl rfl rfl
    · rw [applied]
      exact ⟨rfl, .inr ⟨draining, rfl, wanted.symm, by simpa [wanted] using metadata⟩⟩

structure Refreshed (card next : Card) (report : DeviceReport) : Prop where
  desired : next.desiredMode = card.desiredMode
  state : next.modeState = card.modeState
  lend : next.lendState = card.lendState
  used : ∀ dim, next.used dim = card.used dim
  cores : 0 < card.totalCores → 0 < next.totalCores
  mode : next.mode = (card.observe report.mode).mode

theorem observe_eq (card : Card) (reported : Option CardMode) :
    ∃ mode, card.observe reported = { card with mode := mode } := by
  unfold observe
  split
  · exact ⟨card.mode, rfl⟩
  · exact ⟨_, rfl⟩
  · split_ifs
    exacts [⟨_, rfl⟩, ⟨card.mode, rfl⟩, ⟨_, rfl⟩, ⟨card.mode, rfl⟩]

/-- Of a report only its mode, and of the card only the pool columns, decide about the mode. -/
theorem observe_mode_congr {other : Card} {reported : Option CardMode} (mode : other.mode = card.mode)
    (desired : other.desiredMode = card.desiredMode) (state : other.modeState = card.modeState) :
    (other.observe reported).mode = (card.observe reported).mode := by
  unfold observe
  rw [mode, desired, state]
  split
  · exact mode
  · rfl
  · split_ifs
    exacts [rfl, mode, rfl, mode]

theorem resize_eq_some {mem cores : ℕ} (resized : card.resize mem cores = some next) :
    ∃ fits, next = { card with totalMemMb := mem, totalCores := cores, noOvercommit := fits } := by
  unfold resize at resized
  split_ifs at resized with fits
  exact ⟨fits, (some.inj resized).symm⟩

theorem refresh_refreshed {faulted : Bool} {report : DeviceReport}
    (taken : card.refresh faulted report = some next) : card.Refreshed next report := by
  obtain ⟨sized, resized, rfl⟩ := map_eq_some_iff.mp taken
  obtain ⟨_, rfl⟩ := resize_eq_some resized
  obtain ⟨mode, same⟩ := observe_eq _ report.mode
  rw [same]
  refine ⟨rfl, rfl, rfl, fun dim => by cases dim <;> rfl, fun some_ => ?_, ?_⟩
  · dsimp only
    split_ifs <;> omega
  · have read := congrArg Card.mode same
    exact read.symm.trans (observe_mode_congr rfl rfl rfl)

end Card

variable (card : Card) (change : Option ModeChange) (hasNode : Bool) in
/-- One step of the rebalancer: nothing, no target any more, a drained change, a request to the node, a
failure, or the end of the work. -/
inductive Rebalanced : Card → Option ModeChange → Prop
  | waits : Rebalanced card change
  | untargeted (absent : card.desiredMode = none) :
      Rebalanced { card with modeState := .ready } change
  | drained : Rebalanced card.applyDrainedMode change
  | requested {target : Backend} (req : card.request? hasNode = some target) :
      Rebalanced { card with modeState := .applying }
        (change <|> some (.requested target))
  | failed (applying : card.modeState = .applying) {work : ModeChange} (found : change = some work)
      (phase : work.phase = .failed) : Rebalanced { card with modeState := .error } change
  | finished {desired : CardMode} {left : Option ModeChange} (applying : card.modeState = .applying)
      {work : ModeChange} (found : change = some work) (phase : work.phase = .succeeded)
      (wanted : card.desiredMode = some desired) (agrees : (card.mode == some .mig) = (desired == .mig))
      (kept : left = none ∨ left = change) :
      Rebalanced { card with mode := some desired, modeState := .ready } left

theorem rebalanceStep_rebalanced (card : Card) (change : Option ModeChange) (hasNode : Bool) (api : ApiAnswer) :
    Rebalanced card change hasNode (rebalanceStep card change hasNode api).1
      (rebalanceStep card change hasNode api).2 := by
  unfold rebalanceStep
  split
  next => exact .waits
  next => exact .waits
  next absent => exact .untargeted absent
  next absent => exact .untargeted absent
  next =>
    split
    next => exact .drained
    next =>
      split
      next => exact .waits
      next target req =>
        split_ifs
        · exact .requested req
        · exact .waits
  next desired applying wanted =>
    split
    next phase =>
      split_ifs at phase
      obtain ⟨work, found, phase⟩ := map_eq_some_iff.mp phase
      exact .failed applying found phase
    next phase =>
      split_ifs at phase
      obtain ⟨work, found, phase⟩ := map_eq_some_iff.mp phase
      split_ifs with agrees kept
      · exact .finished applying found phase wanted agrees (.inl rfl)
      · exact .finished applying found phase wanted agrees (.inr rfl)
      · exact .waits
    next => exact .waits

variable {hasNode : Bool}

theorem Rebalanced.applying {card after : Card} {change left : Option ModeChange}
    (rebalanced : Rebalanced card change hasNode after left) {work : ModeChange} (isWork : work ∈ left)
    (unfinished : work.finished = false)
    (before : work ∈ change → card.modeState = .applying ∧ card.desiredMode.isSome) :
    after.modeState = .applying ∧ after.desiredMode.isSome := by
  cases rebalanced with
  | waits => exact before isWork
  | untargeted absent =>
    have wanted := (before isWork).2
    rw [absent] at wanted
    cases wanted
  | drained =>
    have applying := before isWork
    have same : card.applyDrainedMode = card := by simp [applyDrainedMode, applying.1]
    rwa [same]
  | requested req =>
    refine ⟨rfl, ?_⟩
    unfold request? at req
    split_ifs at req
    obtain ⟨desired, wanted, -⟩ := map_eq_some_iff.mp req
    exact isSome_of_mem wanted
  | failed _ found phase =>
    cases found.symm.trans isWork
    simp [ModeChange.finished, phase] at unfinished
  | finished _ found phase _ _ kept =>
    rcases kept with rfl | rfl
    · cases isWork
    · cases found.symm.trans isWork
      simp [ModeChange.finished, phase] at unfinished

theorem ModeChange.finished_reconcile (work : ModeChange) (configured : Bool) (job : JobState)
    (finished : work.finished) : (work.reconcile configured job).finished := by
  unfold reconcile
  rw [if_pos finished, finished]

namespace Inventory

variable {inv next : Inventory} {dev : DeviceId} {rows devices : List DeviceId}
variable {clusterId count : ℕ}

@[simp] theorem modifyCards_card {change : Card → Card} :
    (inv.modifyCards devices change).card dev =
      if dev ∈ devices then (inv.card dev).map change else inv.card dev := rfl

theorem setPoolTargets_cases (taken : inv.setPoolTargets rows clusterId count = some next) :
    next = inv ∨ next = inv.modifyCards (inv.sentToMig rows clusterId count) sendToMig ∨
    next = inv.modifyCards (inv.takenFromMig rows clusterId count) takeFromMig := by
  simp only [setPoolTargets] at taken
  split_ifs at taken
  · cases taken
    exact .inr (.inl rfl)
  · cases taken
    exact .inr (.inr rfl)
  · cases taken
    exact .inl rfl

end Inventory

namespace CardTables

variable {tables next : CardTables} {report : DeviceReport}
variable {dev : DeviceId}

variable (tables : CardTables) (report : DeviceReport) in
/-- The outcome of a report that commits: nothing, a card that is known, or a new one. -/
inductive Upserted : CardTables → Prop
  | ignored : Upserted tables
  | refreshed {dev : DeviceId} {card after : Card} (found : tables.inventory.card dev = some card)
      (refreshed : card.Refreshed after report) :
      Upserted (tables.storeReport dev after report)
  | inserted {card : Card} (fresh : tables.inventory.card report.device = none)
      (new : fromReport report = some card) {byUuid : String → Option DeviceId} :
      Upserted { tables.storeReport report.device card report with
        inventory := { (tables.storeReport report.device card report).inventory with byUuid := byUuid } }

theorem reported?_card {card : Card} (found : tables.reported? report = some (dev, card)) :
    tables.inventory.card dev = some card ∧ card.clusterId = report.clusterId := by
  obtain ⟨place, -, found⟩ := bind_eq_some_iff.mp found
  obtain ⟨row, isRow, found⟩ := bind_eq_some_iff.mp found
  split_ifs at found with here
  cases found
  exact ⟨isRow, here⟩

theorem upsertDevice_upserted (taken : tables.upsertDevice report = some next) : tables.Upserted report next := by
  unfold upsertDevice at taken
  split_ifs at taken
  · cases taken
    exact .ignored
  · split at taken
    next dev card found =>
      obtain ⟨after, refreshed, rfl⟩ := map_eq_some_iff.mp taken
      exact .refreshed (reported?_card found).1 (refresh_refreshed refreshed)
    next =>
      obtain ⟨card, new, taken⟩ := bind_eq_some_iff.mp taken
      unfold insertCard at taken
      split_ifs at taken with taken_
      cases taken
      exact .inserted (by simpa using (not_or.mp taken_).2) new

theorem apply_rebalance {api : ApiAnswer} (taken : tables.apply (.rebalance dev hasNode api) = some next) :
    ∃ card after change, tables.inventory.card dev = some card ∧
      Rebalanced card (tables.change dev) hasNode after change ∧
      next = { tables with
        inventory := tables.inventory.setCard dev after
        change := Function.update tables.change dev change } := by
  obtain ⟨card, found, taken⟩ := bind_eq_some_iff.mp taken
  cases taken
  exact ⟨card, _, _, found, rebalanceStep_rebalanced card (tables.change dev) hasNode api, rfl⟩

theorem apply_setMode {desired : Option CardMode} (taken : tables.apply (.setMode dev desired) = some next) :
    ∃ card, tables.inventory.card dev = some card ∧ card.lendState = .normal ∧
      next = { tables with inventory := tables.inventory.setCard dev { card with
        desiredMode := desired
        modeState := if desired = none ∨ desired = card.mode then .ready else .draining } } := by
  obtain ⟨card, found, taken⟩ := bind_eq_some_iff.mp taken
  obtain ⟨after, set, taken⟩ := bind_eq_some_iff.mp taken
  cases taken
  unfold setMode at set
  by_cases idle : card.lendState = .normal
  · rw [if_neg (not_not.mpr idle)] at set
    cases set
    exact ⟨card, found, idle, rfl⟩
  · rw [if_pos idle] at set
    cases set

end CardTables

end GShare.Model
