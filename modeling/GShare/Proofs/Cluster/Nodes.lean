import GShare.Model.Cluster.Nodes
import GShare.Proofs.Credit.Engine
import GShare.Proofs.Session.Scheduler

/-! # What a call on one session leaves alone

A call of the lifecycle service writes the row of its session, and ledger rows that name it. Every other
session keeps its row, its allocation and its ledger rows, however many transactions the call takes.
-/

namespace GShare.Model

open Accounting World SessionCall Roster Option List

variable {call after : SessionCall}
variable {stamp now amount : ℤ} {key : IdemKey} {row : Wallet} {type : TxnType}

namespace Ledger

variable {ledger next : Ledger} {sess : Session} {wallet : WalletId} {id : SessionId}

def rowsOf (ledger : Ledger) (id : SessionId) : List Txn := ledger.txns.filter (·.ref == some (.session id))

theorem rowsOf_post {ref : Option Ref} (other : ref ≠ some (.session id)) :
    (ledger.post wallet row type amount ref key stamp).rowsOf id = ledger.rowsOf id := by
  simp [rowsOf, post, other]

section

variable (other : id ≠ sess.id)

include other

theorem rowsOf_session :
    (ledger.post wallet row type amount (some (.session sess.id)) key stamp).rowsOf id = ledger.rowsOf id :=
  rowsOf_post (by simpa using other.symm)

omit other in
theorem Charged.rowsOf (charging : ledger.Charged wallet sess key now stamp next) (other : id ≠ sess.id) :
    next.rowsOf id = ledger.rowsOf id := by
  cases charging with
  | nothing => rfl
  | debit => exact rowsOf_session other

theorem rowsOf_consume {bucket : ℤ} :
    (ledger.consume sess bucket now stamp).rowsOf id = ledger.rowsOf id := by
  cases billed : sess.billingWalletId with
  | none => rw [consume_of_unbilled billed]
  | some wallet => exact (consume_charged billed).rowsOf other

theorem rowsOf_closed :
    (ledger.closed wallet row sess.id key stamp).rowsOf id = ledger.rowsOf id := by
  rw [closed, rowsOf_session other]
  rcases releaseHold_cases ledger wallet row sess.id stamp with ⟨_, -, same⟩ | same
  · rw [same, rowsOf_session other]
  · rw [same]
    rfl

theorem rowsOf_settle {final : Bool} :
    (ledger.settle sess (.settle sess.id) final now stamp).rowsOf id = ledger.rowsOf id := by
  cases billed : sess.billingWalletId with
  | none => rw [settle_of_unbilled billed]
  | some wallet =>
    rcases @settle_cases ledger wallet sess now stamp billed final with
      same | ⟨start, charged, row, ⟨found, charging, -, unsettled⟩, same⟩
    · rw [same]
    · rw [same, rowsOf_closed other]
      exact (finalConsume_charged found unsettled charging).rowsOf other

end

end Ledger

namespace SessionCall

variable {world next : World} {env : Env} {id other : SessionId} {reason : Reason}

def Carries (id : SessionId) : SessionCall → Prop
  | .start (.again loaded) | .start (.checked loaded _) | .start (.resumed loaded) | .stop _ _ (.checked loaded _)
  | .stop _ _ (.patched loaded _) | .stop _ _ (.charged loaded) | .terminate _ (.claimed loaded _ _)
  | .terminate _ (.released loaded _ _) | .terminate _ (.settled loaded _) => loaded.id = id
  | .start _ | .stop _ _ _ | .terminate _ _ | .returned => True
  | .restart | .callback _ | .cancel | .tick _ | .promote _ => False

section

variable (own : world.row.id = id)

include own

theorem claim_frame :
    (world.claim reason env).1.ledger = world.ledger ∧
      ((world.claim reason env).2.elim .returned (terminate reason)).Carries id := by
  unfold claim
  split_ifs
  · exact ⟨rfl, trivial⟩
  · exact ⟨rfl, own⟩
  · exact ⟨rfl, own⟩

theorem start_carries {point : StartPoint} (carries : Carries id (.start point)) :
    ((world.start env point).2.elim .returned start).Carries id := by
  cases point with
  | called =>
    simp only [World.start, World.admitStart]
    split_ifs
    · trivial
    · exact own
  | again loaded =>
    simp only [World.start, World.admitStart]
    split_ifs
    · trivial
    · exact carries
  | checked loaded yieldResume =>
    rcases taken : world.start env (.checked loaded yieldResume) with ⟨next, after⟩
    rcases start_checked taken with ⟨-, rfl | ⟨-, rfl⟩⟩ | ⟨_, -, -, rfl⟩
    · trivial
    · trivial
    · exact carries
  | reclaimed => exact own
  | priced =>
    simp only [World.start]
    split_ifs <;> trivial
  | resumed | patched | marked => trivial

theorem terminate_frame {point : TerminatePoint} (carries : Carries id (.terminate reason point))
    (apart : other ≠ id) :
    (world.terminate reason env point).1.ledger.rowsOf other = world.ledger.rowsOf other ∧
      ((world.terminate reason env point).2.elim .returned (terminate reason)).Carries id := by
  cases point with
  | called =>
    obtain ⟨ledger, onward⟩ := @claim_frame world env id reason own
    exact ⟨by rw [World.terminate, ledger], onward⟩
  | claimed loaded prior now => exact ⟨rfl, carries⟩
  | released loaded prior now =>
    refine ⟨?_, carries⟩
    have loadedOwn : loaded.id = id := carries
    simp only [World.terminate, settleBillable_ledger]
    split_ifs
    · exact Ledger.rowsOf_settle (loadedOwn ▸ apart)
    · rfl
  | settled loaded now | ended => exact ⟨rfl, trivial⟩

end

theorem next_frame (taken : call.next world env = some (next, after)) (own : world.row.id = id)
    (carries : call.Carries id) (apart : other ≠ id) :
    next.ledger.rowsOf other = world.ledger.rowsOf other ∧ after.Carries id := by
  cases steps_of_next taken with
  | start =>
    exact ⟨by rw [(start_leaves ..).ledger], start_carries own carries⟩
  | abandoned =>
    obtain ⟨ledger, onward⟩ := claim_frame own
    exact ⟨by rw [ledger], onward⟩
  | checked => exact ⟨rfl, own⟩
  | refused | unpatched => exact ⟨rfl, trivial⟩
  | patched => exact ⟨rfl, carries⟩
  | @charged _ _ loaded now =>
    have loadedOwn : loaded.id = id := carries
    refine ⟨?_, carries⟩
    rw [consume_ledger]
    exact Ledger.rowsOf_consume (loadedOwn ▸ apart)
  | @paused _ _ loaded _ onward =>
    refine ⟨?_, by rcases onward with rfl | rfl <;> trivial⟩
    simp only [pauseRow]
    split_ifs <;> rfl
  | terminate => exact terminate_frame own carries apart
  | restarted | resumed | callback | cancel | tick | promote => exact carries.elim

end SessionCall

namespace Site

variable {site middle next : Site} {id other : SessionId} {input : SiteEnv}

structure Keeps (other : SessionId) (site next : Site) : Prop where
  seat : next.seats.find? other = site.seats.find? other
  rows : next.ledger.rowsOf other = site.ledger.rowsOf other

theorem Keeps.refl (other : SessionId) (site : Site) : Keeps other site site := ⟨rfl, rfl⟩

theorem Keeps.trans (first : Keeps other site middle) (second : Keeps other middle next) : Keeps other site next :=
  ⟨second.seat.trans first.seat, second.rows.trans first.rows⟩

theorem setSeat_find? {seat : Seat} (homed : seat.Homed site.nodes.rows site.nodeOf) (apart : other ≠ seat.id) :
    (site.setSeat seat homed).seats.find? other = site.seats.find? other :=
  find?_revise_of_ne (by intro _; rfl) apart

theorem turn_keeps (taken : site.turn id call input = some (next, after)) (carries : call.Carries id)
    (apart : other ≠ id) : Keeps other site next ∧ after.Carries id := by
  unfold turn at taken
  split at taken
  next => cases taken
  next seat found =>
    have own : seat.id = id := (find?_eq_some_iff.mp found).2
    split_ifs at taken
    obtain ⟨⟨world, onward⟩, stepped, same⟩ := map_eq_some_iff.mp taken
    cases same
    obtain ⟨rows, carried⟩ := next_frame stepped own carries apart
    have homed := site.homed seat (find?_eq_some_iff.mp found).1
    exact ⟨⟨setSeat_find? (homed_after homed) (own ▸ apart), rows⟩, carried⟩

theorem run_keeps {inputs : List SiteEnv} (carries : call.Carries id) (apart : other ≠ id) :
    Keeps other site (run id inputs site call).1 := by
  induction inputs generalizing site call with
  | nil => exact .refl other site
  | cons input inputs ih =>
    rw [run]
    split
    next => exact .refl other site
    next reached onward taken =>
      obtain ⟨kept, carried⟩ := turn_keeps taken carries apart
      exact kept.trans (ih carried)

theorem amend_keeps {pauseMode : Option PauseMode} {queue : Bool} (apart : other ≠ id) :
    Keeps other site (site.amend id pauseMode queue) := by
  unfold amend
  split
  next => exact .refl other site
  next seat found =>
    have own : seat.id = id := (find?_eq_some_iff.mp found).2
    have homed := site.homed seat (find?_eq_some_iff.mp found).1
    exact ⟨setSeat_find? (by exact homed) fun same => apart (same.trans own), rfl⟩

/-- A session that leaves the node takes no other with it. -/
theorem evict_keeps {mode : DrainMode} {input : EvictInput} (apart : other ≠ id) :
    Keeps other site (site.evict mode input id) := by
  cases mode with
  | forceTerminate => exact run_keeps trivial apart
  | reschedule =>
    simp only [evict]
    split_ifs with active
    · have cold : Keeps other site (site.amend id (some .cold) false) := amend_keeps apart
      have stopped : Keeps other site (run id input.stop (site.amend id (some .cold) false)
          (.stop (.code "drained") false .called)).1 := cold.trans (run_keeps trivial apart)
      split
      next reached ran =>
        rw [ran] at stopped
        have started : Keeps other site (run id input.start reached (.start .called)).1 :=
          stopped.trans (run_keeps trivial apart)
        split_ifs
        · exact started.trans (amend_keeps apart)
        · exact started
      next reached _ _ ran =>
        rw [ran] at stopped
        exact stopped
    · exact .refl other site

/-- Nor do several sessions, one after the other. -/
theorem foldl_keeps {step : Site → SessionId → Site} {ids : List SessionId}
    (keeps : ∀ site id, other ≠ id → Keeps other site (step site id)) (apart : other ∉ ids) :
    Keeps other site (ids.foldl step site) := by
  induction ids generalizing site with
  | nil => exact .refl other site
  | cons id ids ih =>
    have differs : other ≠ id := fun same => apart (same ▸ mem_cons_self)
    exact (keeps site id differs).trans (ih fun later => apart (mem_cons_of_mem id later))

theorem mem_byHost {hosts : List String} :
    id ∈ site.byHost hosts ↔ ∃ seat ∈ site.seats.rows, seat.reports hosts ∧ seat.id = id := by
  simp [byHost, and_assoc]

theorem mem_affected {node : ClusterNode} :
    id ∈ site.affected node ↔ ∃ seat ∈ site.seats.rows, seat.id = id ∧
      ((∃ dev ∈ seat.device, site.nodeOf dev = some node.id) ∨ seat.reports [node.hostname]) := by
  simp only [affected, mem_eraseDups, mem_append, mem_byHost, onCards, List.mem_map, mem_filter,
    Option.any_eq_true, beq_iff_eq]
  constructor
  · rintro (⟨seat, ⟨member, dev, isDevice, here⟩, same⟩ | ⟨seat, member, reports, same⟩)
    · exact ⟨seat, member, same, .inl ⟨dev, isDevice, here⟩⟩
    · exact ⟨seat, member, same, .inr reports⟩
  · rintro ⟨seat, member, same, ⟨dev, isDevice, here⟩ | reports⟩
    · exact .inl ⟨seat, ⟨member, dev, isDevice, here⟩, same⟩
    · exact .inr ⟨seat, member, reports, same⟩

end Site

end GShare.Model
