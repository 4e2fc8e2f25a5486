import GShare.Proofs.Cluster.Liveness
import GShare.Soundness.NodeScope

/-! # A drain that moves the sessions

A drain in reschedule mode pauses each session of the node and resumes it elsewhere. A running session is
paused, and stays so if nothing else fits: the placement of its resume leaves out the node, which is cordoned
by then. A session that is still preparing cannot be paused: the pause ends it.
-/

namespace GShare.Model

open List Seat Accounting World Roster

variable {ledger : Ledger} {id : SessionId} {sess : Session} {wallet : WalletId}

def Ledger.settlements (ledger : Ledger) (id : SessionId) : List Txn :=
  (ledger.rowsOf id).filter (·.type == .settle)

theorem Ledger.Charged.settlements {next : Ledger} {key : IdemKey} {now stamp : ℤ}
    (charging : ledger.Charged wallet sess key now stamp next) : next.settlements id = ledger.settlements id := by
  cases charging with
  | nothing => rfl
  | debit => simp [Ledger.settlements, Ledger.rowsOf, debited, post, filter_cons, apply_ite (filter _)]

theorem Ledger.settlements_consume {bucket now stamp : ℤ} :
    (ledger.consume sess bucket now stamp).settlements id = ledger.settlements id := by
  cases billed : sess.billingWalletId with
  | none => rw [consume_of_unbilled billed]
  | some wallet => exact (consume_charged billed).settlements

namespace Site

variable {site : Site} {seat : Seat} {call after : SessionCall} {input : SiteEnv}

section

variable (found : site.seats.find? id = some seat)

include found

theorem turn_of_next {world : World} (kept : seat.deleted = false)
    (stepped : call.next (seat.within site.ledger) (input.env.onCard (site.cardOf seat call input.card)) =
      some (world, after)) :
    ∃ next, site.turn id call input = some (next, after) ∧ next.ledger = world.ledger ∧
      next.seats.find? id = some (seat.after world (site.cardOf seat call input.card)) := by
  obtain rfl : seat.id = id := (find?_eq_some_iff.mp found).2
  unfold turn
  split
  next missing => cases found.symm.trans missing
  next same =>
    cases found.symm.trans same
    rw [if_neg (by simp [kept]), stepped]
    have homed := site.homed seat (find?_eq_some_iff.mp found).1
    exact ⟨_, rfl, rfl, setSeat_find?_self (homed_after homed) found⟩

theorem amend_find? (mode : Option PauseMode) (queue : Bool) :
    (site.amend id mode queue).ledger = site.ledger ∧
      (site.amend id mode queue).seats.find? id = some { seat with
        row := { seat.row with pauseMode := mode.getD seat.row.pauseMode }
        queued := seat.queued || queue } := by
  obtain rfl : seat.id = id := (find?_eq_some_iff.mp found).2
  unfold amend
  split
  next missing => cases found.symm.trans missing
  next same =>
    cases found.symm.trans same
    exact ⟨rfl, setSeat_find?_self _ found⟩

end

/-- The nodes are the same, and the cards on them. -/
def SameNodes (base site : Site) : Prop := site.nodes = base.nodes ∧ site.nodeOf = base.nodeOf

section

variable {base next : Site} (same : SameNodes base site)

include same

theorem SameNodes.turn (taken : site.turn id call input = some (next, after)) : SameNodes base next := by
  unfold Site.turn at taken
  split at taken
  next => cases taken
  next =>
    split_ifs at taken
    obtain ⟨_, -, reached⟩ := Option.map_eq_some_iff.mp taken
    cases reached
    exact same

theorem SameNodes.run (id : SessionId) (inputs : List SiteEnv) (call : SessionCall) :
    SameNodes base (run id inputs site call).1 := by
  induction inputs generalizing site call with
  | nil => exact same
  | cons input inputs ih =>
    rw [Site.run]
    split
    next => exact same
    next reached onward taken => exact ih (same.turn taken) onward

theorem SameNodes.amend (id : SessionId) (mode : Option PauseMode) (queue : Bool) :
    SameNodes base (site.amend id mode queue) := by
  unfold Site.amend
  split <;> exact same

theorem SameNodes.evict (input : EvictInput) : SameNodes base (site.evict .reschedule input id) := by
  have stopped := (same.amend id (some .cold) false).run id input.stop (.stop (.code "drained") false .called)
  simp only [Site.evict]
  split_ifs
  · split
    next reached ran =>
      rw [ran] at stopped
      split_ifs
      · exact (stopped.run ..).amend ..
      · exact stopped.run ..
    next reached _ _ ran =>
      rw [ran] at stopped
      exact stopped
  · exact same

end

theorem run_returned (inputs : List SiteEnv) : run id inputs site .returned = (site, .returned) := by
  cases inputs with
  | nil => rfl
  | cons input inputs =>
    have ended : site.turn id .returned input = none := by
      unfold turn
      split
      · rfl
      · split_ifs <;> rfl
    rw [run, ended]

/-- The session is paused, or runs on no other cards than these, and its bill is settled as far as it was. -/
structure Rests (away : DeviceId → Prop) (settled : List Txn) (id : SessionId) (site : Site) : Prop where
  seat : ∃ seat, site.seats.find? id = some seat ∧ seat.deleted = false ∧
    (seat.row.status = .paused ∨ seat.row.status = .running) ∧ ∀ dev ∈ seat.device, away dev
  settlements : site.ledger.settlements id = settled

/-- The operator accepts the pause. -/
structure EvictInput.Accepted (input : EvictInput) : Prop where
  enough : 4 ≤ input.stop.length
  accepted : ∀ turn ∈ input.stop, turn.env.accepted

/-- The cards of ready nodes are among these. -/
def Offers (base : Site) (away : DeviceId → Prop) : Prop :=
  ∀ dev, (∀ node ∈ base.nodes.rows, base.nodeOf dev = some node.id → node.status = .ready) → away dev

variable {base : Site} {away : DeviceId → Prop} {settled : List Txn}

theorem Rests.amend (rests : Rests away settled id site) (mode : Option PauseMode) (queue : Bool) :
    Rests away settled id (site.amend id mode queue) := by
  obtain ⟨seat, found, facts⟩ := rests.seat
  obtain ⟨ledger, amended⟩ := amend_find? found mode queue
  exact ⟨⟨_, amended, facts⟩, ledger ▸ rests.settlements⟩

/-- A resume keeps the session on the cards that it finds, if it finds one. -/
theorem Rests.start (inputs : List SiteEnv) (offers : Offers base away) (same : SameNodes base site)
    (rests : Rests away settled id site) (starting : call = .returned ∨ ∃ point, call = .start point) :
    Rests away settled id (run id inputs site call).1 := by
  induction inputs generalizing site call with
  | nil => exact rests
  | cons input inputs ih =>
    rcases starting with rfl | ⟨point, rfl⟩
    · rwa [run_returned]
    obtain ⟨seat, found, kept, status, cards⟩ := rests.seat
    have resumes := (seat.within site.ledger).start_leaves
      (input.env.onCard (site.cardOf seat (.start point) input.card)) point
    obtain ⟨next, taken, ledger, written⟩ := @turn_of_next _ _ _ (.start point) _ input found _ kept rfl
    rw [run, taken]
    refine ih (same.turn taken) ⟨⟨_, written, kept, ?_, fun dev isDevice => ?_⟩, ?_⟩ ?_
    · exact resumes.status.elim (fun same => status.imp same.trans same.trans) .inr
    · simp only [Seat.after] at isDevice
      split_ifs at isDevice
      · cases isDevice
      · exact cards dev isDevice
      · unfold cardOf at isDevice
        split_ifs at isDevice with query
        · cases isDevice
          rw [same.1, same.2] at query
          exact offers _ fun node member own => (query node member own).2 rfl
        · cases isDevice
    · rw [ledger, ← rests.settlements]
      exact congrArg (Ledger.settlements · id) resumes.ledger
    · cases ((seat.within site.ledger).start
        (input.env.onCard (site.cardOf seat (.start point) input.card)) point).2 with
      | none => exact .inl rfl
      | some point => exact .inr ⟨point, rfl⟩

theorem stop_rests {stop : List SiteEnv} {reason : Reason} (found : site.seats.find? id = some seat)
    (kept : seat.deleted = false) (running : seat.row.status = .running) (cold : seat.row.pauseMode = .cold)
    (enough : 4 ≤ stop.length) (accepted : ∀ turn ∈ stop, turn.env.accepted) :
    ∃ stopped, run id stop site (.stop reason false .called) = (stopped, .returned) ∧
      Rests away (site.ledger.settlements id) id stopped := by
  obtain ⟨a, b, c, d, rest, rfl⟩ : ∃ a b c d rest, stop = a :: b :: c :: d :: rest := by
    match stop, enough with
    | a :: b :: c :: d :: rest, _ => exact ⟨a, b, c, d, rest, rfl⟩
  have patched : b.env.accepted := accepted b (by simp)
  obtain ⟨checking, called, ledger, isFirst⟩ := @turn_of_next _ _ _ (.stop reason false .called)
    (.stop reason false (.checked seat.row a.env.now)) a found (seat.within site.ledger) kept (by
      simp [SessionCall.next, within, running, Status.assertTransition, Status.allowedTransitions])
  obtain ⟨patching, checked, sameLedger, isSecond⟩ :=
    @turn_of_next _ _ _ (.stop reason false (.checked seat.row a.env.now)) _ b isFirst _ kept
      (by rw [SessionCall.next, Env.onCard_accepted, if_pos patched])
  obtain ⟨charging, charged, consumed, isThird⟩ :=
    @turn_of_next _ _ _ (.stop reason false (.patched seat.row a.env.now)) _ c isSecond _ kept rfl
  obtain ⟨stopped, paused, last, isLast⟩ :=
    @turn_of_next _ _ _ (.stop reason false (.charged seat.row)) _ d isThird _ kept rfl
  refine ⟨stopped, ?_, ⟨_, isLast, kept, .inl ?_, ?_⟩, ?_⟩
  · simp [run, called, checked, charged, paused, run_returned]
  · simp [Seat.after, pauseRow, Seat.within]
  · simp [Seat.after, pauseRow, cold, releaseAllocation]
  · simp [last, pauseRow, cold, releaseAllocation, within, consumed, consume_ledger,
      Ledger.settlements_consume, sameLedger, ledger]

theorem evict_rests {input : EvictInput} (accepted : input.Accepted) (offers : Offers base away)
    (same : SameNodes base site) (found : site.seats.find? id = some seat)
    (kept : seat.deleted = false) (running : seat.row.status = .running) :
    Rests away (site.ledger.settlements id) id (site.evict .reschedule input id) := by
  obtain ⟨ledger, amended⟩ := amend_find? found (some .cold) false
  obtain ⟨stopped, returned, rests⟩ := @stop_rests _ _ _ away _ (.code "drained") amended kept running rfl
    accepted.enough accepted.accepted
  rw [ledger] at rests
  have nodes := (same.amend id (some .cold) false).run id input.stop (.stop (.code "drained") false .called)
  rw [returned] at nodes
  have started := rests.start input.start offers nodes (.inr ⟨.called, rfl⟩)
  simp only [evict, found, Option.any_some, isActive, running, beq_self_eq_true, Bool.or_true, if_true, returned]
  split_ifs
  · exact started.amend none true
  · exact started

/-- The drain reaches the session, or has reached it before. -/
theorem foldl_rests {inputs : SessionId → EvictInput} (accepted : (inputs id).Accepted) (offers : Offers base away)
    (nodes : SameNodes base site) {ids : List SessionId} (found : site.seats.find? id = some seat)
    (kept : seat.deleted = false)
    (todo : seat.row.status = .running ∧ id ∈ ids ∨ Rests away settled id site)
    (same : site.ledger.settlements id = settled) :
    Rests away settled id (ids.foldl (fun site id => site.evict .reschedule (inputs id) id) site) := by
  induction ids generalizing site seat with
  | nil => exact todo.elim (fun left => by cases left.2) fun rests => rests
  | cons head ids ih =>
    by_cases here : head = id
    · subst here
      have rests : Rests away settled head (site.evict .reschedule (inputs head) head) := by
        by_cases running : seat.row.status = .running
        · exact same ▸ evict_rests accepted offers nodes found kept running
        · rcases todo with ⟨now, -⟩ | rests
          · exact absurd now running
          · obtain ⟨_, isSeat, -, paused | now, -⟩ := rests.seat <;> cases found.symm.trans isSeat
            · simpa [evict, found, isActive, paused] using rests
            · exact absurd now running
      obtain ⟨_, isSeat, still, -⟩ := rests.seat
      exact ih (nodes.evict _) isSeat still (.inr rests) rests.settlements
    · have keeps : Keeps id site (site.evict .reschedule (inputs head) head) := evict_keeps (Ne.symm here)
      have settlements := (congrArg (filter fun txn : Txn => txn.type == .settle) keeps.rows).trans same
      refine ih (nodes.evict _) (keeps.seat.trans found) kept ?_ settlements
      refine todo.imp (fun left => ⟨left.1, (mem_cons.mp left.2).resolve_left (Ne.symm here)⟩) fun rests => ?_
      exact ⟨keeps.seat ▸ rests.seat, settlements⟩

end Site

section Sample

open Site Soundness.Samples Soundness.NodeScope

def oneSession (status : Status) : Site where
  nodes := (twoClusters "gpu-3").nodes
  nodeOf dev := some dev
  seats := ⟨[{ seatOn 6 0 "gpu-1" 0 with row := { wholeCard 6 600 with status := status } }],
    (by decide : [6].Nodup)⟩
  ledger := hundredCredits
  homed := by
    simp only [Homed, twoClusters, mem_cons, not_mem_nil, or_false]
    rintro _ rfl _ ⟨⟩ _ (rfl | rfl | rfl) ⟨⟩
    rfl

/-- The operator accepts everything, and the other node has a card. -/
def goesElsewhere : EvictInput :=
  ⟨replicate 5 ⟨granted (60 * second), 1⟩, replicate 6 ⟨granted (60 * second), 1⟩⟩

end Sample

end GShare.Model
