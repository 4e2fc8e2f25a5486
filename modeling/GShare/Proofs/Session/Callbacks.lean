import GShare.Model.Session.Callbacks

/-! # What an operator report can do

`World.onStatus` told as a whole: a report is ignored, moves the status forward, pauses the session,
makes it run, or ends it, and each of these fixes the status, the start of the run, the live allocation
and the ledger afterwards. Everything about reports is derived from `onStatus_reported`.
-/

namespace GShare.Model

open Ledger

/-- The session is on its way out or over. -/
def Status.isEnding : Status → Bool
  | .terminating | .terminated | .error => true
  | .pending | .preparing | .running | .paused => false

/-- The session has not started. -/
def Status.isYoung : Status → Bool
  | .pending | .preparing => true
  | .running | .paused | .terminating | .terminated | .error => false

variable {status : Status}

theorem Status.isEnding_of_isFinal (final : status.isFinal) : status.isEnding := by
  cases status <;> first | rfl | cases final

theorem Status.not_isYoung_of_isEnding (ending : status.isEnding) : status.isYoung = false := by
  cases status <;> first | rfl | cases ending

theorem Status.isFinal_ite {before : Status} (ends : status = .terminated ∨ status = .error) :
    (if before.isFinal then before else status).isFinal := by
  split_ifs with final
  · exact final
  · rcases ends with rfl | rfl <;> rfl

theorem Status.isYoung_iff (status : Status) : status.isYoung ↔ status = .pending ∨ status = .preparing := by
  cases status <;> decide

/-- Two rows of one session with the same price, payer and share of a card. -/
structure Session.SameTerms (left right : Session) : Prop where
  id : left.id = right.id
  resourceClass : left.resourceClass = right.resourceClass
  billingWalletId : left.billingWalletId = right.billingWalletId
  rate : left.creditPerHourSnapshot = right.creditPerHourSnapshot
  occupancy : left.occupancy = right.occupancy

variable {middle right left : Session}

namespace Session.SameTerms

theorem refl (sess : Session) : sess.SameTerms sess := ⟨rfl, rfl, rfl, rfl, rfl⟩

theorem trans (first : left.SameTerms middle)
    (second : middle.SameTerms right) : left.SameTerms right :=
  ⟨first.id.trans second.id, first.resourceClass.trans second.resourceClass,
    first.billingWalletId.trans second.billingWalletId, first.rate.trans second.rate,
    first.occupancy.trans second.occupancy⟩

theorem billable (same : left.SameTerms right) : left.billable = right.billable := by
  simp only [Session.billable, same.billingWalletId, same.rate]

section

variable (same : left.SameTerms right) (started : left.startedAt = right.startedAt)
variable {ledger : Ledger} {now stamp : ℤ}

include same started

theorem owed (now : ℤ) : left.owed now = right.owed now := by
  simp only [Session.owed, Session.activeHours, Session.activeMinutes, started, same.rate,
    same.occupancy]

theorem due (wallet : WalletId) : ledger.due wallet left now = ledger.due wallet right now := by
  simp only [Ledger.due, same.owed started, same.id, started]

theorem consume (bucket : ℤ) : ledger.consume left bucket now stamp = ledger.consume right bucket now stamp := by
  simp only [Ledger.consume, consumeAdmitted, charge, same.due started, same.id,
    same.billingWalletId, same.rate]

/-- The engine settles two such rows of one run alike. -/
theorem settle (final : Bool) : ledger.settle left (.settle left.id) final now stamp
      = ledger.settle right (.settle right.id) final now stamp := by
  simp only [Ledger.settle, settleWrites, settleParts, finalConsume,
    same.due started, same.id, same.billingWalletId, same.rate]

end

end Session.SameTerms

/-- Two rows of one session that the same wallet pays at the same rate. -/
structure Session.SamePayer (left right : Session) : Prop where
  id : left.id = right.id
  billingWalletId : left.billingWalletId = right.billingWalletId
  rate : left.creditPerHourSnapshot = right.creditPerHourSnapshot

theorem Session.SamePayer.refl (sess : Session) : sess.SamePayer sess := ⟨rfl, rfl, rfl⟩

theorem Session.SamePayer.trans (first : left.SamePayer middle)
    (second : middle.SamePayer right) : left.SamePayer right :=
  ⟨first.id.trans second.id, first.billingWalletId.trans second.billingWalletId,
    first.rate.trans second.rate⟩

theorem Session.SamePayer.symm (same : left.SamePayer right) : right.SamePayer left :=
  ⟨same.id.symm, same.billingWalletId.symm, same.rate.symm⟩

theorem Session.SameTerms.payer (same : left.SameTerms right) : left.SamePayer right :=
  ⟨same.id, same.billingWalletId, same.rate⟩

variable {reason : Option Reason} {terminating : Bool}

namespace World

section Components

variable (world : World) (loaded : Session) (time : ℤ) (final : Bool) (env : Env)

@[simp] theorem consume_row : (world.consume loaded time env).row = world.row := by
  unfold consume; dsimp only; split_ifs <;> rfl

@[simp] theorem consume_live : (world.consume loaded time env).live = world.live := by
  unfold consume; dsimp only; split_ifs <;> rfl

@[simp] theorem consume_queued : (world.consume loaded time env).queued = world.queued := by
  unfold consume; dsimp only; split_ifs <;> rfl

@[simp] theorem consume_ledger :
    (world.consume loaded time env).ledger = world.ledger.consume loaded (minuteBucket time) time env.stamp := by
  unfold consume; dsimp only; split_ifs <;> rfl

@[simp] theorem settleBillable_row : (world.settleBillable loaded final env).row = world.row := by
  unfold settleBillable; split_ifs <;> rfl

@[simp] theorem settleBillable_live : (world.settleBillable loaded final env).live = world.live := by
  unfold settleBillable; split_ifs <;> rfl

@[simp] theorem settleBillable_queued : (world.settleBillable loaded final env).queued = world.queued := by
  unfold settleBillable; split_ifs <;> rfl

theorem settleBillable_ledger : (world.settleBillable loaded final env).ledger =
    if loaded.billable then
      world.ledger.settle loaded (.settle loaded.id) final env.now env.stamp else world.ledger := by
  unfold settleBillable; split_ifs <;> rfl

end Components

/-- The session as it is afterwards, on unchanged terms and with its queue entry as it was. -/
structure Becomes (world next : World) (status : Status) (startedAt : Option ℤ)
    (live : Option AllocationKind) (ledger : Ledger) : Prop where
  terms : next.row.SameTerms world.row
  queued : next.queued = world.queued
  status : next.row.status = status
  startedAt : next.row.startedAt = startedAt
  live : next.live = live
  ledger : next.ledger = ledger

/-- The session has not been paused and is not over. -/
def InProgress (world : World) : Prop :=
  world.row.status = .pending ∨ world.row.status = .preparing ∨ world.row.status = .running

inductive Reported (world : World) (event : StatusEvent) (env : Env) (next : World) : Prop
  | ignored (becomes : world.Becomes next world.row.status world.row.startedAt world.live world.ledger)
  /-- An interim phase moved the status forward. -/
  | interim (status : Status)
      (forward : status = .preparing ∧ (world.row.status = .pending ∨ world.row.status = .preparing) ∨
        status = .terminating ∧ (world.row.status = .running ∨ world.row.status = .paused) ∧
          event.phase = .terminating)
      (becomes : world.Becomes next status world.row.startedAt world.live world.ledger)
  | paused (live : Option AllocationKind) (inProgress : world.InProgress) (vacates : live = none ∨ live = world.live)
      (becomes : world.Becomes next .paused world.row.startedAt live
        (world.ledger.consume world.row (minuteBucket event.ts) event.ts env.stamp))
  | running (ledger : Ledger) (inProgress : world.InProgress)
      (charged : ledger = world.ledger ∨
        ledger = world.ledger.consume next.row (minuteBucket event.ts) event.ts env.stamp)
      (becomes : world.Becomes next .running (world.row.startedAt <|> some event.ts)
        world.ensureAllocation ledger)
  | ended (status : Status)
      (reports : status = .terminated ∧ event.phase = .terminated ∨
        status = .error ∧ (event.phase = .error ∨ event.phase = .heartbeat ∧ world.crashLooping event))
      (becomes : world.Becomes next (if world.row.status.isFinal then world.row.status else status)
        world.row.startedAt none
        (if next.row.billable then
          world.ledger.settle next.row (.settle next.row.id) (world.row.status == .running) env.now
            env.stamp
        else world.ledger))

variable (world : World) (event : StatusEvent) (env : Env)

theorem unchanged_reported : world.Reported event env world :=
  .ignored ⟨.refl _, rfl, rfl, rfl, rfl, rfl⟩

variable {world event env} {next : World}

/-- Noting the restart count and the node changes nothing that a report decides on. -/
theorem Reported.of_heartbeat (after : (world.heartbeat event env).Reported event env next) :
    world.Reported event env next := by
  have lift {status startedAt live ledger}
      (becomes : (world.heartbeat event env).Becomes next status startedAt live ledger) :
      world.Becomes next status startedAt live ledger :=
    ⟨becomes.terms.trans ⟨rfl, rfl, rfl, rfl, rfl⟩, becomes.queued, becomes.status, becomes.startedAt,
      becomes.live, becomes.ledger⟩
  cases after with
  | ignored becomes => exact .ignored (lift becomes)
  | interim status forward becomes => exact .interim status forward (lift becomes)
  | paused live inProgress vacates becomes => exact .paused live inProgress vacates (lift becomes)
  | running ledger inProgress charged becomes => exact .running ledger inProgress charged (lift becomes)
  | ended status reports becomes => exact .ended status reports (lift becomes)

theorem onPaused_reported (inProgress : world.InProgress) : world.Reported event env (world.onPaused event env) := by
  refine .paused (if event.yielded then world.live else none) inProgress ?_ ?_
  · split_ifs
    · exact .inr rfl
    · exact .inl rfl
  · constructor <;> unfold onPaused <;> dsimp only <;> split_ifs
    all_goals simp [releaseAllocation]
    all_goals exact ⟨by simp, by simp, by simp, by simp, by simp [Session.occupancy]⟩

theorem onRunning_reported (unpaused : world.row.status ≠ .paused) :
    world.Reported event env (world.onRunning event env) := by
  unfold onRunning
  split_ifs with finished
  · exact unchanged_reported ..
  · have inProgress : world.InProgress := by
      unfold InProgress
      revert finished unpaused
      cases world.row.status <;> decide
    dsimp only
    split_ifs
    · exact .running _ inProgress (.inr rfl) ⟨⟨by simp [followPod], by simp [followPod], by simp [followPod],
        by simp [followPod], by simp [followPod, Session.occupancy]⟩, by simp, by simp, by simp, by simp,
        by simp⟩
    · exact .running _ inProgress (.inl rfl) ⟨⟨rfl, rfl, rfl, rfl, rfl⟩, rfl, rfl, rfl, rfl, rfl⟩

theorem endSession_reported {ts : ℤ} (reports : status = .terminated ∧ event.phase = .terminated ∨
      status = .error ∧ (event.phase = .error ∨ event.phase = .heartbeat ∧ world.crashLooping event)) :
    world.Reported event env (world.endSession (endedRow world.row status reason ts) env) := by
  refine .ended status reports ⟨⟨?_, ?_, ?_, ?_, ?_⟩, ?_, ?_, ?_, ?_, ?_⟩
  all_goals simp only [endSession, settleBillable_row, settleBillable_queued, settleBillable_live,
    settleBillable_ledger]
  all_goals rfl

theorem reflectPhase_reported (phase : terminating → event.phase = .terminating) :
    world.Reported event env (world.reflectPhase terminating event) := by
  have terms : (world.reflectPhase terminating event).row.SameTerms world.row := ⟨rfl, rfl, rfl, rfl, rfl⟩
  cases terminating with
  | true =>
    by_cases moves : world.row.status = .running ∨ world.row.status = .paused
    · exact .interim .terminating (.inr ⟨rfl, moves, phase rfl⟩)
        ⟨terms, rfl, by simp [reflectPhase, moves], rfl, rfl, rfl⟩
    · exact .ignored ⟨terms, rfl, by simp [reflectPhase, moves], rfl, rfl, rfl⟩
  | false =>
    by_cases moves : world.row.status = .pending ∨ world.row.status = .preparing
    · exact .interim .preparing (.inl ⟨rfl, moves⟩)
        ⟨terms, rfl, by simp [reflectPhase, moves], rfl, rfl, rfl⟩
    · exact .ignored ⟨terms, rfl, by simp [reflectPhase, moves], rfl, rfl, rfl⟩

theorem handle_reported (kept : world.dropped event env = false) :
    world.Reported event env (world.handle event env) := by
  have seen : world.Reported event env (world.heartbeat event env) :=
    .of_heartbeat (unchanged_reported ..)
  have noted {effect : World → World} (each : ∀ start : World, start.row.status = world.row.status →
      start.Reported event env (effect start)) :
      world.Reported event env
        (effect (if event.restartCount.isSome then world.heartbeat event env else world)) := by
    split_ifs
    · exact .of_heartbeat (each _ rfl)
    · exact each _ rfl
  unfold handle
  cases phase : event.phase with
  | paused =>
    cases status : world.row.status with
    | pending => exact onPaused_reported (.inl status)
    | preparing => exact onPaused_reported (.inr (.inl status))
    | running => exact onPaused_reported (.inr (.inr status))
    | paused => exact .ignored ⟨.refl _, rfl, rfl, rfl, rfl, rfl⟩
    | terminating | terminated | error => exact unchanged_reported ..
  | idlewarning => exact unchanged_reported ..
  | heartbeat =>
    dsimp only
    split_ifs with loops young
    · exact .of_heartbeat (endSession_reported (.inr ⟨rfl, .inr ⟨phase, loops⟩⟩))
    · exact .of_heartbeat (onRunning_reported (by rcases young with young | young <;> rw [young] <;> decide))
    · exact seen
  | running =>
    refine noted fun start status => onRunning_reported ?_
    -- A paused session drops this report.
    intro paused
    simp [dropped, phase, status.symm.trans paused] at kept
  | terminated => exact noted fun start _ => endSession_reported (.inl ⟨rfl, phase⟩)
  | error => exact noted fun start _ => endSession_reported (.inr ⟨rfl, .inl phase⟩)
  | preparing => exact noted fun start _ => reflectPhase_reported (by simp)
  | terminating => exact noted fun start _ => reflectPhase_reported fun _ => phase
  | pending | other => exact noted fun start _ => unchanged_reported ..

/-- Every report has one of the five effects. -/
theorem onStatus_reported (world : World) (event : StatusEvent) (env : Env) :
    world.Reported event env (world.onStatus event env) := by
  unfold onStatus
  cases kept : world.dropped event env with
  | true => exact unchanged_reported ..
  | false => exact handle_reported kept

structure Leaves (now : ℤ) (world next : World) : Prop where
  marker : next.resumeGeneration = world.resumeGeneration
  pauseMode : next.row.pauseMode = world.row.pauseMode
  noted : next.row.lastReportedAt = world.row.lastReportedAt ∨ next.row.lastReportedAt = some now

theorem Leaves.trans {now : ℤ} {middle : World} (first : world.Leaves now middle) (second : middle.Leaves now next) :
    world.Leaves now next :=
  ⟨second.marker.trans first.marker, second.pauseMode.trans first.pauseMode,
    second.noted.elim (fun same => first.noted.imp same.trans same.trans) .inr⟩

theorem consume_leaves (world : World) (loaded : Session) (time : ℤ) (env : Env) :
    world.Leaves env.now (world.consume loaded time env) := by
  unfold consume
  split_ifs <;> exact ⟨rfl, rfl, .inl rfl⟩

theorem settleBillable_leaves (world : World) (loaded : Session) (final : Bool) (env : Env) :
    world.Leaves env.now (world.settleBillable loaded final env) := by
  unfold settleBillable
  split_ifs <;> exact ⟨rfl, rfl, .inl rfl⟩

theorem onPaused_leaves : world.Leaves env.now (world.onPaused event env) := by
  refine (consume_leaves world world.row event.ts env).trans ?_
  simp only [onPaused]
  split_ifs <;> exact ⟨rfl, rfl, .inl rfl⟩

theorem onRunning_leaves : world.Leaves env.now (world.onRunning event env) := by
  unfold onRunning
  split_ifs
  · exact ⟨rfl, rfl, .inl rfl⟩
  · dsimp only
    split_ifs
    · refine Leaves.trans ?_ (consume_leaves ..)
      exact ⟨rfl, rfl, .inl rfl⟩
    · exact ⟨rfl, rfl, .inl rfl⟩

theorem endSession_leaves {row : Session} (same : row.pauseMode = world.row.pauseMode)
    (noted : row.lastReportedAt = world.row.lastReportedAt) :
    world.Leaves env.now (world.endSession row env) := by
  refine Leaves.trans ?_ (settleBillable_leaves ..)
  exact ⟨rfl, same, .inl noted⟩

theorem onTerminated_leaves : world.Leaves env.now (world.onTerminated event env) := endSession_leaves rfl rfl

theorem onError_leaves : world.Leaves env.now (world.onError event reason env) :=
  endSession_leaves rfl rfl

theorem reflectPhase_leaves : world.Leaves env.now (world.reflectPhase terminating event) :=
  ⟨rfl, rfl, .inl rfl⟩

theorem handle_leaves : world.Leaves env.now (world.handle event env) := by
  have seen : world.Leaves env.now (world.heartbeat event env) := ⟨rfl, rfl, .inr rfl⟩
  have noted {effect : World → World} (each : ∀ start : World, start.Leaves env.now (effect start)) :
      world.Leaves env.now (effect (if event.restartCount.isSome then world.heartbeat event env else world)) := by
    split_ifs
    · exact seen.trans (each _)
    · exact each _
  unfold handle
  cases event.phase with
  | paused =>
    cases world.row.status with
    | pending | preparing | running => exact onPaused_leaves
    | paused | terminating | terminated | error => exact ⟨rfl, rfl, .inl rfl⟩
  | idlewarning => exact ⟨rfl, rfl, .inl rfl⟩
  | heartbeat =>
    dsimp only
    split_ifs
    · exact seen.trans onError_leaves
    · exact seen.trans onRunning_leaves
    · exact seen
  | running => exact noted fun _ => onRunning_leaves
  | terminated => exact noted fun _ => onTerminated_leaves
  | error => exact noted fun _ => onError_leaves
  | preparing | terminating => exact noted fun _ => reflectPhase_leaves
  | pending | other => exact noted fun _ => ⟨rfl, rfl, .inl rfl⟩

theorem onStatus_leaves : world.Leaves env.now (world.onStatus event env) := by
  unfold onStatus
  split_ifs
  · exact ⟨rfl, rfl, .inl rfl⟩
  · exact handle_leaves

end World

end GShare.Model
