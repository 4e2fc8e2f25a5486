import GShare.Machine.Run
import GShare.Proofs.Device.Modes
import GShare.Soundness.Samples

/-! # A change of backend and the card under it

The rebalancer waits for the inventory sync to see the backend that the node was moved to, and the sync
leaves the mode of a card with a target among the other two modes to the rebalancer: a change to the
partitioned backend ends, one back from there does not. While the node works the card takes no sessions, as
long as the administrator leaves it alone.
-/

namespace GShare.Model

open Machine Card Inventory CardTables

variable {tables : CardTables} {dev : DeviceId} {card : Card} {desired reported : CardMode}

/-- The tables after a call, which changes nothing when it is refused. -/
def CardTables.after (tables : CardTables) (call : ModeCall) : CardTables := (tables.apply call).getD tables

/-- A report that the inventory sync writes to the card. -/
structure Card.Takes (card : Card) (report : DeviceReport) : Prop where
  registered : report.clusterLive
  staying : report.nodeLeaving = false
  mem : card.usedMemMb ≤ report.totalMemMb
  cores : card.usedCores ≤ if report.totalCores = 0 then card.totalCores else report.totalCores

/-- The card is in the pool it was meant for, and nothing is left of the change. -/
def CardTables.Completed (tables : CardTables) (dev : DeviceId) (desired : CardMode) : Prop :=
  (∃ card ∈ tables.inventory.card dev, card.mode = some desired ∧ card.modeState = .ready) ∧
    tables.change dev = none

namespace Card

variable {after : Card} {report : DeviceReport} {faulted : Bool}

theorem refresh_isSome (takes : card.Takes report) : ∃ after, card.refresh faulted report = some after := by
  rw [refresh, resize, dif_pos ⟨takes.mem, takes.cores⟩]
  exact ⟨_, rfl⟩

theorem takes_of_refresh (registered : report.clusterLive) (staying : report.nodeLeaving = false)
    (taken : card.refresh faulted report = some after) : card.Takes report := by
  obtain ⟨_, resized, -⟩ := Option.map_eq_some_iff.mp taken
  obtain ⟨fits, -⟩ := resize_eq_some resized
  exact ⟨registered, staying, fits.1, fits.2⟩

theorem observe_mig : (card.observe (some .mig)).mode = some .mig := rfl

end Card

section

variable {work : ModeChange} {report : DeviceReport} {hasNode : Bool}

section

variable (applying : card.modeState = .applying) (wanted : card.desiredMode = some desired)

include applying wanted

/-- A report of the other backend leaves a card alone whose target is among its modes and that is not
ready. -/
theorem Card.observe_pending (metadata : isMetadata desired) (other : reported ≠ .mig) :
    card.observe (some reported) = card := by
  cases reported <;> simp_all [observe]

theorem rebalanceStep_succeeded (succeeded : work.phase = .succeeded) :
    rebalanceStep card (some work) hasNode ⟨true, true⟩ =
      if (card.mode == some .mig) = (desired == .mig) then
        ({ card with mode := some desired, modeState := .ready }, none)
      else (card, some work) := by
  simp [rebalanceStep, applying, wanted, succeeded]

/-- The rebalancer completes the change when the sync has seen the backend. -/
theorem CardTables.completed_rebalance_iff (found : tables.inventory.card dev = some card)
    (object : tables.change dev = some work) (succeeded : work.phase = .succeeded) :
    (tables.after (.rebalance dev hasNode ⟨true, true⟩)).Completed dev desired ↔
      (card.mode == some .mig) = (desired == .mig) := by
  have taken : tables.apply (.rebalance dev hasNode ⟨true, true⟩) = some { tables with
      inventory := tables.inventory.setCard dev
        (rebalanceStep card (some work) hasNode ⟨true, true⟩).1
      change := Function.update tables.change dev
        (rebalanceStep card (some work) hasNode ⟨true, true⟩).2 } := by
    simp [apply, found, object]
  rw [after, taken, rebalanceStep_succeeded applying wanted succeeded]
  by_cases agrees : (card.mode == some .mig) = (desired == .mig) <;>
    simp [Completed, setCard_card, agrees]

/-- Whether the card that the sync has seen agrees with its target: only on the way to the partitioned
backend does the report move it. -/
theorem CardTables.observed_agrees_iff {seen : Card} (nodeWork : card.needsNodeWork)
    (mode : report.mode = some reported) (backend : reported.backend = desired.backend)
    (written : card.Takes report → seen.mode = (card.observe report.mode).mode)
    (missed : ¬ card.Takes report → seen.mode = card.mode) :
    (seen.mode == some .mig) = (desired == .mig) ↔ desired = .mig ∧ card.Takes report := by
  have apart : (card.mode == some .mig) ≠ (desired == .mig) := by
    intro same
    simp [needsNodeWork, wanted, same] at nodeWork
  by_cases takes : card.Takes report
  · rw [written takes, mode, and_iff_left takes]
    by_cases partitioned : desired = .mig
    · have reportsMig : reported = .mig := by cases reported <;> simp_all [CardMode.backend]
      simp [partitioned, reportsMig, observe_mig]
    · -- The sync leaves this card to the rebalancer, which waits for the sync.
      have metadata : isMetadata desired := by cases desired <;> simp_all [isMetadata]
      have other : reported ≠ .mig := by cases desired <;> cases reported <;> simp_all [CardMode.backend]
      rw [observe_pending applying wanted metadata other]
      simp [apart, partitioned]
  · rw [missed takes]
    simp [apart, takes]

end

namespace CardTables

/-- The card after the report, which keeps the change pending. -/
theorem card_after_report (about : tables.reported? report = some (dev, card)) :
    ∃ seen, (tables.after (.report report)).inventory.card dev = some seen ∧
      seen.modeState = card.modeState ∧ seen.desiredMode = card.desiredMode ∧
      (card.Takes report → seen.mode = (card.observe report.mode).mode) ∧
      (¬ card.Takes report → seen.mode = card.mode) := by
  have found := (reported?_card about).1
  by_cases dropped : (!report.clusterLive || report.nodeLeaving)
  · have ignored : tables.after (.report report) = tables := by simp [after, apply, upsertDevice, dropped]
    rw [ignored]
    refine ⟨card, found, rfl, rfl, fun takes => ?_, fun _ => rfl⟩
    simp [takes.registered, takes.staying] at dropped
  · obtain ⟨registered, staying⟩ : report.clusterLive ∧ report.nodeLeaving = false := by
      simpa using dropped
    cases refreshed : card.refresh (tables.faulted dev) report with
    | none =>
      have refused : tables.after (.report report) = tables := by
        simp [after, apply, upsertDevice, dropped, about, refreshed]
      rw [refused]
      refine ⟨card, found, rfl, rfl, fun takes => ?_, fun _ => rfl⟩
      obtain ⟨_, impossible⟩ := refresh_isSome takes
      cases refreshed.symm.trans impossible
    | some seen =>
      have stored : tables.after (.report report) = tables.storeReport dev seen report := by
        simp [after, apply, upsertDevice, dropped, about, refreshed]
      have becomes := refresh_refreshed refreshed
      rw [stored]
      refine ⟨seen, by simp [storeReport, setCard_card], becomes.state, becomes.desired,
        fun _ => becomes.mode, fun ignored => ?_⟩
      exact absurd (takes_of_refresh registered staying refreshed) ignored

theorem change_after_report : (tables.after (.report report)).change = tables.change := by
  unfold after
  cases taken : tables.apply (.report report) with
  | none => rfl
  | some next => cases upsertDevice_upserted taken <;> rfl

/-- A finished change is recognised after the next report and one step of the rebalancer iff it went to the
partitioned backend and the sync took the report. -/
theorem completed_iff (about : tables.reported? report = some (dev, card))
    (applying : card.modeState = .applying) (wanted : card.desiredMode = some desired)
    (nodeWork : card.needsNodeWork) (object : tables.change dev = some work)
    (succeeded : work.phase = .succeeded) (mode : report.mode = some reported)
    (backend : reported.backend = desired.backend) :
    ((tables.after (.report report)).after (.rebalance dev hasNode ⟨true, true⟩)).Completed dev desired ↔
      desired = .mig ∧ card.Takes report := by
  obtain ⟨seen, found, state, sameTarget, written, missed⟩ := card_after_report about
  rw [completed_rebalance_iff (state.trans applying) (sameTarget.trans wanted) found
    (by rw [change_after_report, object]) succeeded]
  exact observed_agrees_iff applying wanted nodeWork mode backend written missed

instance decidableCompleted : Decidable (tables.Completed dev desired) :=
  inferInstanceAs (Decidable (_ ∧ _))

end CardTables

end

section Samples

open Soundness.Samples

/-- The card on its way from one pool to another, with the node's work at some point. -/
def movingCard (mode desired : CardMode) (phase : ChangePhase) : CardTables where
  inventory :=
    { oneCard with
      card := fun dev => if dev = 0 then some { emptyCard with
        mode := some mode, desiredMode := some desired, modeState := .applying } else none }
  faulted _ := false
  change dev := if dev = 0 then some ⟨desired.backend, phase, true⟩ else none

def reportOfCard (mode : CardMode) : DeviceReport where
  device := 0
  uuid := "GPU-0"
  clusterId := 0
  mode := some mode
  totalMemMb := 24576
  usedMemMb := 0
  totalCores := 100
  usedCores := 0
  status := .ready
  clusterLive := true
  nodeLeaving := false

/-- An empty exclusive card ends up partitioned. -/
theorem movingCard_completed :
    (((movingCard .exclusive .mig .succeeded).after (.report (reportOfCard .mig))).after
      (.rebalance 0 true ⟨true, true⟩)).Completed 0 .mig :=
  (completed_iff rfl rfl rfl rfl rfl rfl rfl rfl).mpr
    ⟨rfl, ⟨rfl, rfl, by decide, by decide⟩⟩

/-- A card that leaves the partitioned pool keeps applying: its node runs the other backend and says so. -/
theorem movingCard_stuck :
    let tables := movingCard .mig .fractional .succeeded
    let card := { emptyCard with mode := some .mig, desiredMode := some .fractional, modeState := .applying }
    tables.reported? (reportOfCard .fractional) = some (0, card) ∧ card.needsNodeWork ∧
    tables.change 0 = some ⟨.hamiCore, .succeeded, true⟩ ∧
    ¬ ((tables.after (.report (reportOfCard .fractional))).after
      (.rebalance 0 true ⟨true, true⟩)).Completed 0 .fractional := by
  decide +kernel

end Samples

variable {place : DeviceId}

namespace CardTables

variable {next : CardTables} {call : ModeCall}

def AtWork (tables : CardTables) (dev : DeviceId) : Prop :=
  ∃ work ∈ tables.change dev, work.finished = false

instance decidableAtWork : Decidable (tables.AtWork dev) :=
  inferInstanceAs (Decidable (∃ work ∈ tables.change dev, work.finished = false))

/-- The administrator leaves the cards alone that a node is at work on. -/
def SparesWork (tables : CardTables) : ModeCall → Prop
  | .setMode dev _ => ¬ tables.AtWork dev
  | .setTargets rows clusterId count =>
    ∀ dev ∈ tables.inventory.sentToMig rows clusterId count
      ++ tables.inventory.takenFromMig rows clusterId count, ¬ tables.AtWork dev
  | .rebalance .. | .operate .. | .report _ | .transact _ => True

instance decidableSparesWork : (call : ModeCall) → Decidable (tables.SparesWork call) := fun _ => by
  unfold SparesWork
  split <;> infer_instance

/-- The state machine knows of the node's work. -/
def Applying (tables : CardTables) (dev : DeviceId) : Prop :=
  ∃ card ∈ tables.inventory.card dev, card.modeState = .applying ∧ card.desiredMode.isSome

def Tracked (tables : CardTables) : Prop := ∀ dev, tables.AtWork dev → tables.Applying dev

section

variable (tracked : tables.Tracked)

include tracked

theorem Tracked.of_spared (change : next.change = tables.change)
    (spared : ∀ dev, ¬ tables.AtWork dev ∨ next.inventory.card dev = tables.inventory.card dev) :
    next.Tracked := by
  intro dev working
  rw [AtWork, change] at working
  rcases spared dev with idle | same
  · exact absurd working idle
  · obtain ⟨card, found, applying⟩ := tracked dev working
    exact ⟨card, same ▸ found, applying⟩

theorem Tracked.setTargets {rows : List DeviceId} {clusterId count : ℕ}
    (spares : tables.SparesWork (.setTargets rows clusterId count))
    (taken : tables.apply (.setTargets rows clusterId count) = some next) : next.Tracked := by
  obtain ⟨inv, set, rfl⟩ := Option.map_eq_some_iff.mp taken
  refine tracked.of_spared rfl fun dev => ?_
  rcases setPoolTargets_cases set with rfl | rfl | rfl
  · exact .inr rfl
  · by_cases chosen : dev ∈ tables.inventory.sentToMig rows clusterId count
    · exact .inl (spares dev (List.mem_append_left _ chosen))
    · exact .inr (if_neg chosen)
  · by_cases chosen : dev ∈ tables.inventory.takenFromMig rows clusterId count
    · exact .inl (spares dev (List.mem_append_right _ chosen))
    · exact .inr (if_neg chosen)

theorem Tracked.rebalance {api : ApiAnswer}
    (taken : tables.apply (.rebalance place hasNode api) = some next) : next.Tracked := by
  obtain ⟨card, after, change, found, rebalanced, rfl⟩ := apply_rebalance taken
  rintro dev ⟨work, isWork, unfinished⟩
  by_cases here : dev = place
  · subst here
    refine ⟨after, by simp [setCard_card], ?_⟩
    refine rebalanced.applying (by simpa using isWork) unfinished fun isOld => ?_
    obtain ⟨row, isRow, applying⟩ := tracked dev ⟨work, isOld, unfinished⟩
    cases found.symm.trans isRow
    exact applying
  · obtain ⟨row, isRow, applying⟩ := tracked dev ⟨work, by simpa [here] using isWork, unfinished⟩
    exact ⟨row, by simpa [setCard_card, here] using isRow, applying⟩

theorem Tracked.operate {configured : Bool} {job : JobState}
    (taken : tables.apply (.operate place configured job) = some next) : next.Tracked := by
  cases taken
  rintro dev ⟨work, isWork, unfinished⟩
  by_cases here : dev = place
  · subst here
    obtain ⟨old, isOld, rfl⟩ : ∃ old, tables.change dev = some old ∧
        old.reconcile configured job = work := by simpa using isWork
    refine tracked dev ⟨old, isOld, ?_⟩
    by_contra finished
    have still := old.finished_reconcile configured job (by simpa using finished)
    simp [still] at unfinished
  · exact tracked dev ⟨work, by simpa [here] using isWork, unfinished⟩

theorem Tracked.report {report : DeviceReport}
    (taken : tables.apply (.report report) = some next) : next.Tracked := by
  intro dev working
  cases upsertDevice_upserted taken with
  | ignored => exact tracked dev working
  | @refreshed place card after found refreshed =>
    obtain ⟨row, isRow, applying, wanted⟩ := tracked dev working
    by_cases here : dev = place
    · subst here
      cases found.symm.trans isRow
      exact ⟨after, by simp [storeReport, setCard_card], refreshed.state.trans applying,
        refreshed.desired ▸ wanted⟩
    · exact ⟨row, by simpa [storeReport, setCard_card, here] using isRow, applying, wanted⟩
  | inserted fresh =>
    obtain ⟨row, isRow, applying⟩ := tracked dev working
    have elsewhere : dev ≠ report.device := by
      rintro rfl
      cases fresh.symm.trans isRow
    exact ⟨row, by simpa [storeReport, setCard_card, elsewhere] using isRow, applying⟩

/-- No transaction on sessions touches a card that is applying a change. -/
theorem Tracked.transact {transaction : Transaction}
    (taken : tables.apply (.transact transaction) = some next) : next.Tracked := by
  obtain ⟨inv, applied, rfl⟩ := Option.map_eq_some_iff.mp taken
  intro dev working
  obtain ⟨card, found, applying, wanted⟩ := tracked dev working
  obtain ⟨after, isAfter, pooled⟩ :=
    (apply_traced pooled_traces applied).exists_after found
  rcases pooled.pool with ⟨-, state⟩ | ⟨draining, -⟩
  · exact ⟨after, isAfter, state.trans applying, pooled.desired ▸ wanted⟩
  · rw [applying] at draining
    cases draining

theorem Tracked.step (spares : tables.SparesWork call) (taken : tables.apply call = some next) : next.Tracked := by
  cases call with
  | setMode place desired =>
    obtain ⟨card, found, -, rfl⟩ := apply_setMode taken
    refine tracked.of_spared rfl fun dev => ?_
    by_cases here : dev = place
    · exact .inl (here ▸ spares)
    · exact .inr (by simp [setCard_card, here])
  | setTargets rows clusterId count => exact tracked.setTargets spares taken
  | rebalance place hasNode api => exact tracked.rebalance taken
  | operate place configured job => exact tracked.operate taken
  | report report => exact tracked.report taken
  | transact transaction => exact tracked.transact taken

end

/-- In every run that spares the cards under work, none of them can receive a placement, and no change to
another backend is requested for it. -/
theorem work_undisturbed {first last : CardTables} {calls : List ModeCall}
    (idle : ∀ dev, first.change dev = none)
    (run : Run apply SparesWork first calls last) {dev : DeviceId} {work : ModeChange} {card : Card}
    (object : last.change dev = some work) (unfinished : work.finished = false)
    (found : last.inventory.card dev = some card) :
    (∀ nodeReady, card.placeableDevice nodeReady = false) ∧
    ∀ hasNode target, card.request? hasNode = some target → target = work.target := by
  have tracked : last.Tracked := run.invariant
    (fun dev working => by simp [AtWork, idle dev] at working)
    fun _ _ _ spares taken tracked => tracked.step spares taken
  obtain ⟨row, isRow, applying, -⟩ := tracked dev ⟨work, object, unfinished⟩
  cases found.symm.trans isRow
  refine ⟨fun nodeReady => by simp [placeableDevice, applying], fun hasNode target req => ?_⟩
  simp [request?, applying] at req

end CardTables

section Samples

open CardTables

/-- A new card is to be partitioned, and its node gets to work. -/
def partitioning : List ModeCall :=
  [.report (reportOfCard .exclusive), .setMode 0 (some .mig), .rebalance 0 true ⟨true, true⟩]

/-- While the job runs and the node reports, the card takes no session. -/
theorem partitioning_undisturbed : ∃ last, Run CardTables.apply SparesWork .empty
        (partitioning ++ [.operate 0 true .active, .report (reportOfCard .exclusive)]) last ∧
      ∃ work ∈ last.change 0, work.phase = .running ∧ ∃ card ∈ last.inventory.card 0,
        card.ready ∧ (∀ nodeReady, card.placeableDevice nodeReady = false) ∧
        ∀ hasNode target, card.request? hasNode = some target → target = work.target := by
  refine exists_run_imp (fun last => last.change 0 = some ⟨.mig, .running, true⟩ ∧
    ∃ card ∈ last.inventory.card 0, card.ready) (by decide +kernel) fun last run reached => ?_
  obtain ⟨object, card, found, ready⟩ := reached
  exact ⟨_, object, rfl, card, found, ready, work_undisturbed (fun _ => rfl) run object rfl found⟩

/-- When the target is taken back meanwhile, the card can receive a placement under the running job. -/
theorem partitioning_placeable : ∃ last, Run CardTables.apply (fun _ _ => True) .empty
        (partitioning ++ [.operate 0 true .active, .setMode 0 none]) last ∧
      last.change 0 = some ⟨.mig, .running, true⟩ ∧
      ∃ card ∈ last.inventory.card 0, card.placeableDevice true :=
  exists_run_of_execute (by decide +kernel)

end Samples

end GShare.Model
