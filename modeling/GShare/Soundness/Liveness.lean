import GShare.Proofs.Cluster.Liveness
import GShare.Soundness.Samples

/-! # Whom the liveness workers end

`session_liveness` judges a session by its last report, which a resume leaves as it is: a session that comes back
from a long pause is taken for lost until its first heartbeat. It is not ended too early as long as the worker
finds every reported session heard from in its current run, or within the window.

Both workers take one fresh node for a sign that the whole cluster is reported. They end no healthy session as
long as `node_liveness` finds the nodes of a cluster all heard from within its window or none of them, and
`session_liveness` finds no node reported a window or more after a session.
-/

namespace GShare.Soundness.Liveness

open Accounting GShare.Model Machine Samples Site Option Vigil Roster

variable {first vigil next : Vigil} {events : List VigilEvent} {event : VigilEvent}
variable {now : ℤ} {inputs : SessionId → List SiteEnv}
variable {site : Site}

/-! ## A small site -/

def seatOf (status : Status) : Seat where
  row := { wholeCard 7 600 with status := status, nodeHostname := some "gpu-2" }
  clusterId := 0
  deleted := false
  live := some .resident
  device := some 0
  queued := false
  resumeGeneration := none
  pauseAck := none
  grace := none
  yieldIdle := none

/-- Two nodes of one cluster, and that session. -/
def pairOf (status : Status) : Vigil where
  site :=
    { nodes := ⟨[⟨0, 0, "gpu-1", .ready, none⟩, ⟨1, 0, "gpu-2", .ready, none⟩], (by decide : [0, 1].Nodup)⟩
      nodeOf := fun _ => some 1
      seats := ⟨[seatOf status], List.nodup_singleton _⟩
      ledger := hundredCredits
      homed := by
        intro seat member dev _ node isNode _
        obtain rfl := List.mem_singleton.mp member
        simp only [List.mem_cons, List.not_mem_nil, or_false] at isNode
        rcases isNode with rfl | rfl <;> rfl }
  clock := 0
  upSince _ := none
  heard _ := false

def atTime (time : ℤ) : SiteEnv := ⟨granted (time * second), 0⟩

def ready (hostname : String) (time : ℤ) : VigilEvent := .reportsNode 0 hostname (some true) (time * second)

def beat (time : ℤ) : VigilEvent :=
  .transact 7 (.callback { reportOf .heartbeat with restartCount := some 0, ts := time * second }) (atTime time)

/-- Enough transactions for a termination. -/
def ends (time : ℤ) : SessionId → List SiteEnv := fun _ => List.replicate 5 (atTime time)

def statusOf (vigil : Vigil) : Option Status := (vigil.site.seats.find? 7).map (·.row.status)

/-! ## A fresh run -/

/-- Where `session_liveness` finds a session with a pod that was reported before, it has been reported since it
last went up, or within the window. -/
def HeardFirst (vigil : Vigil) : VigilEvent → Prop
  | .sessionLiveness now _ => ∀ seat ∈ vigil.site.seats.rows, seat.isActive →
      ∀ lastReport ∈ seat.row.lastReportedAt,
        vigil.heard seat.id ∨ now - sessionStale * second ≤ lastReport
  | _ => True

instance decidableHeardFirst : DecidablePred (HeardFirst vigil) := fun event => by
  unfold HeardFirst
  split <;> infer_instance

/-- Every session went up in the past, and one that was heard from since was reported no earlier. -/
structure Attentive (vigil : Vigil) : Prop where
  begun : ∀ id, ∀ since ∈ vigil.upSince id, since ≤ vigil.clock
  heard : ∀ id, vigil.heard id → ∀ since ∈ vigil.upSince id,
    ∃ lastReport, vigil.site.lastReported id = some lastReport ∧ since ≤ lastReport

theorem Attentive.observe (attentive : Attentive vigil) (later : vigil.clock ≤ now)
    (noted : ∀ id, site.lastReported id = vigil.site.lastReported id ∨ site.lastReported id = some now) :
    Attentive (vigil.observe site now) := by
  have begun : ∀ id, ∀ since ∈ (vigil.observe site now).upSince id, since ≤ now := by
    intro id since isSince
    simp only [Vigil.observe] at isSince
    split_ifs at isSince
    · cases isSince
      exact le_rfl
    · exact (attentive.begun id since isSince).trans later
  refine ⟨begun, fun id isHeard since isSince => ?_⟩
  have ordered := begun id since isSince
  rcases noted id with same | new
  · simp only [Vigil.observe, Bool.or_eq_true, beq_iff_eq, Bool.and_eq_true, Bool.not_eq_true'] at isHeard isSince
    rcases isHeard with new | ⟨heard, stayed⟩
    · exact ⟨now, new, ordered⟩
    · -- The session has not gone up, so the report that was heard before still counts.
      rw [if_neg (by simp [stayed])] at isSince
      obtain ⟨lastReport, reported, since_le⟩ := attentive.heard id heard since isSince
      exact ⟨lastReport, same.trans reported, since_le⟩
  · exact ⟨now, new, ordered⟩

theorem attentive_step (taken : vigil.step event = some next) (attentive : Attentive vigil) : Attentive next := by
  cases advances_of_step taken with
  | transacted _ later _ noted => exact attentive.observe later noted
  | reported later => exact attentive.observe later fun _ => .inl upsertNode_lastReported
  | swept later => exact attentive.observe later fun _ => .inl sweep_lastReported
  | settled later => exact attentive.observe later fun _ => .inl settleLost_lastReported

theorem mem_lost {id : SessionId} :
    id ∈ site.lost now ↔ ∃ seat ∈ site.seats.rows, site.isLost now seat ∧ seat.id = id := by
  simp [lost, and_assoc]

/-- In every sequence of calls, callbacks, reports and runs of the workers in which `session_liveness` finds
every reported session heard from in its current run or within the window: a session that it ends went up at
least a whole window before. -/
theorem ended_after_window (begun : ∀ id, ∀ since ∈ first.upSince id, since ≤ first.clock)
    (unheard : ∀ id, first.heard id = false) (run : Run step HeardFirst first events vigil)
    (meets : HeardFirst vigil (.sessionLiveness now inputs))
    (taken : vigil.step (.sessionLiveness now inputs) = some next) {seat : Seat}
    (listed : seat ∈ vigil.site.seats.rows) (ended : next.site.seats.find? seat.id ≠ some seat) :
    ∀ since ∈ vigil.upSince seat.id, sessionStale * second ≤ now - since := by
  have initial : Attentive first := by
    refine ⟨begun, fun id isHeard => ?_⟩
    rw [unheard id] at isHeard
    cases isHeard
  have attentive : Attentive vigil :=
    run.invariant initial fun _ _ _ _ taken attentive => attentive_step taken attentive
  intro since isSince
  have found : vigil.site.seats.find? seat.id = some seat := find?_eq_some_iff.mpr ⟨listed, rfl⟩
  cases advances_of_step taken with
  | transacted still => cases still
  | settled =>
    have lost : seat.id ∈ vigil.site.lost now := by
      by_contra apart
      exact ended ((settleLost_keeps apart).seat.trans found)
    obtain ⟨other, isOther, isLost, same⟩ := mem_lost.mp lost
    obtain rfl := eq_of_key isOther listed same
    simp only [Site.isLost, Bool.and_eq_true, any_eq_true, decide_eq_true_eq] at isLost
    obtain ⟨⟨active, -⟩, lastReport, reported, ⟨silent, -⟩, -⟩ := isLost
    rcases meets other listed active lastReport reported with heard | recent
    · obtain ⟨noted, isNoted, since_le⟩ := attentive.heard other.id heard since isSince
      have same : noted = lastReport := by
        rw [lastReported, found, bind_some, reported] at isNoted
        exact (some.inj isNoted).symm
      omega
    · omega

/-- A session comes up with its first heartbeat, which is also its last. -/
def fallsSilent : List VigilEvent :=
  [ready "gpu-1" 10, ready "gpu-2" 10, beat 10, ready "gpu-1" 390, ready "gpu-2" 390]

/-- It is ended more than a window later. -/
theorem ended_after_window_silent :
    ∃ vigil next, Run step HeardFirst (pairOf .preparing) fallsSilent vigil ∧
      vigil.step (.sessionLiveness (400 * second) (ends 400)) = some next ∧
      statusOf vigil = some .running ∧ statusOf next = some .terminated ∧
      ∀ since ∈ vigil.upSince 7, sessionStale * second ≤ 400 * second - since := by
  refine exists_step_imp (fun vigil next => statusOf vigil = some .running ∧ statusOf next = some .terminated ∧
    HeardFirst vigil (.sessionLiveness (400 * second) (ends 400))) (by decide +kernel)
    fun vigil next run taken seen => ?_
  obtain ⟨running, terminated, meets⟩ := seen
  refine ⟨running, terminated, ?_⟩
  obtain ⟨seat, found, status⟩ := map_eq_some_iff.mp running
  obtain ⟨listed, own⟩ := find?_eq_some_iff.mp found
  have ended : next.site.seats.find? seat.id ≠ some seat := by
    intro same
    rw [own] at same
    rw [statusOf, same, map_some, status] at terminated
    cases terminated
  have late := ended_after_window (by simp [pairOf]) (by simp [pairOf]) run meets taken listed ended
  rwa [own] at late

/-- The row of the running session once it has been reported, and that row after the pause. -/
def reportedRow (status : Status) : Session := { (seatOf status).row with lastReportedAt := some 0 }

/-- The session is reported, paused for some minutes and resumed; the operator goes on reporting the nodes. -/
def pausedForMinutes : List VigilEvent :=
  [ready "gpu-1" 0, ready "gpu-2" 0, beat 0,
    .transact 7 (.stop .userStopped false .called) (atTime 10),
    .transact 7 (.stop .userStopped false (.checked (reportedRow .running) (10 * second))) (atTime 10),
    .transact 7 (.stop .userStopped false (.patched (reportedRow .running) (10 * second))) (atTime 10),
    .transact 7 (.stop .userStopped false (.charged (reportedRow .running))) (atTime 10),
    ready "gpu-1" 200, ready "gpu-2" 200, ready "gpu-1" 400, ready "gpu-2" 400,
    .transact 7 (.start .called) (atTime 405),
    .transact 7 (.start (.checked (reportedRow .paused) false)) (atTime 405)]

/-- Five seconds after the resume, before the first heartbeat of the new run, the session is ended. -/
theorem ends_fresh_run :
    ∃ vigil next, Run step (fun _ _ => True) (pairOf .running) pausedForMinutes vigil ∧
      vigil.step (.sessionLiveness (410 * second) (ends 410)) = some next ∧
      statusOf vigil = some .running ∧ vigil.upSince 7 = some (405 * second) ∧ statusOf next = some .terminated :=
  exists_step_of_execute (by decide +kernel)

/-! ## An outage of the operator -/

/-- Nodes are ready. Where `node_liveness` finds a node of a cluster heard from within the window, it finds all
of them so; where `session_liveness` runs, no node was reported a window or more after a session of its cluster
that has a pod. -/
def InStep (vigil : Vigil) : VigilEvent → Prop
  | .reportsNode _ _ ready _ => ready ≠ some false
  | .nodeLiveness now _ => ∀ node ∈ vigil.site.nodes.rows, ∀ other ∈ vigil.site.nodes.rows,
      other.clusterId = node.clusterId → other.lastSeenAt.any (now - nodeStale * second ≤ ·) →
      node.status ≠ .cordoned → node.lastSeenAt.any (now - nodeStale * second ≤ ·)
  | .sessionLiveness _ _ => ∀ seat ∈ vigil.site.seats.rows, seat.isActive →
      ∀ lastReport ∈ seat.row.lastReportedAt, ∀ node ∈ vigil.site.nodes.rows, node.clusterId = seat.clusterId →
        ∀ seen ∈ node.lastSeenAt, seen - lastReport < sessionStale * second
  | _ => True

instance decidableInStep : DecidablePred (InStep vigil) := fun event => by
  unfold InStep
  split <;> infer_instance

def Online (site : Site) : Prop := ∀ node ∈ site.nodes.rows, node.status ≠ .offline

section

variable (meets : InStep vigil (.nodeLiveness now inputs))

include meets

theorem swept_eq {node : ClusterNode}
    (listed : node ∈ vigil.site.nodes.rows) : vigil.site.swept (now - nodeStale * second) node = node := by
  unfold swept
  refine if_neg fun ⟨alive, uncordoned, silent⟩ => ?_
  simp only [aliveClusters, List.contains_iff_mem, List.mem_map, List.mem_filter] at alive
  obtain ⟨other, ⟨isOther, fresh⟩, same⟩ := alive
  have heard := meets node listed other isOther same fresh uncordoned
  obtain ⟨seen, isSeen, late⟩ := (any_eq_true ..).mp heard
  rw [isSeen] at silent
  simp only [all_some, decide_eq_true_eq] at silent late
  omega

theorem markStale_nodes :
    (vigil.site.markStale (now - nodeStale * second)).nodes.rows = vigil.site.nodes.rows :=
  (List.map_congr_left fun _ listed => swept_eq meets listed).trans (List.map_id _)

theorem stranded_eq_nil (online : Online vigil.site) :
    vigil.site.stranded (now - nodeStale * second) = [] := by
  have gone : vigil.site.gone (now - nodeStale * second) = [] := by
    rw [gone, markStale_nodes meets, List.filter_eq_nil_iff]
    intro node listed
    simp [online node listed]
  refine List.eq_nil_iff_forall_not_mem.mpr fun id stranded => ?_
  obtain ⟨seat, -, reports, -⟩ := mem_byHost.mp stranded
  simp [gone, Seat.reports] at reports

end

theorem lost_eq_nil (meets : InStep vigil (.sessionLiveness now inputs)) : vigil.site.lost now = [] := by
  refine List.eq_nil_iff_forall_not_mem.mpr fun id lost => ?_
  obtain ⟨seat, listed, isLost, -⟩ := mem_lost.mp lost
  simp only [Site.isLost, Bool.and_eq_true, any_eq_true] at isLost
  obtain ⟨⟨active, -⟩, lastReport, reported, -, outlived⟩ := isLost
  obtain ⟨seen, newest, long⟩ := (any_eq_true ..).mp outlived
  obtain ⟨node, isNode, here, isSeen⟩ := lastNodeSeen_eq_some newest
  have soon := meets seat listed active lastReport reported node isNode here seen isSeen
  simp only [decide_eq_true_eq] at long
  omega

theorem online_step (meets : InStep vigil event) (taken : vigil.step event = some next)
    (online : Online vigil.site) : Online next.site := by
  cases advances_of_step taken with
  | transacted _ _ nodes =>
    intro node listed
    exact online node (nodes ▸ listed)
  | @reported cluster hostname ready now =>
    intro node listed
    obtain ⟨before, old, rfl⟩ := List.mem_map.mp listed
    have live := online before old
    have ready : ready ≠ some false := meets
    unfold reportedAs ClusterNode.reported ClusterNode.touch
    split_ifs with here removed
    · exact live
    · simp [live]
    · exact live
  | swept =>
    intro node listed
    have listed : node ∈ (vigil.site.markStale _).nodes.rows := (foldl_ending 0).1 ▸ listed
    exact online node (markStale_nodes meets ▸ listed)
  | settled =>
    intro node listed
    exact online node ((foldl_ending 0).1 ▸ listed)

/-- In every sequence of calls, callbacks, reports at any time and runs of the workers, with nodes that are ready
and not offline at first, in which the workers find the reports in step: no worker changes a session. -/
theorem outage_ends_nothing (online : Online first.site) (run : Run step InStep first events vigil)
    (meets : InStep vigil event) (taken : vigil.step event = some next) (worker : event.isWorker) :
    next.site.seats = vigil.site.seats := by
  have online : Online vigil.site :=
    run.invariant online fun _ _ _ meets taken online => online_step meets taken online
  cases advances_of_step taken with
  | transacted still => cases still.symm.trans worker
  | reported => cases worker
  | swept =>
    simp only [observe, sweep, stranded_eq_nil meets online, List.foldl_nil]
    rfl
  | settled => simp only [observe, settleLost, lost_eq_nil meets, List.foldl_nil]

/-- One round of the operator: both nodes and the session. -/
def reportsAll (time : ℤ) : List VigilEvent := [ready "gpu-1" time, ready "gpu-2" time, beat time]

/-- The operator is down for an hour. Workers that run during the outage and after the first round end
nothing. -/
theorem outage_ends_nothing_between : ∃ vigil next, Run step InStep (pairOf .running)
        (reportsAll 0 ++ [.nodeLiveness (1800 * second) (ends 1800), .sessionLiveness (1800 * second) (ends 1800)]
          ++ reportsAll 3600) vigil ∧
      vigil.step (.nodeLiveness (3601 * second) (ends 3601)) = some next ∧
      statusOf vigil = some .running ∧ next.site.seats = vigil.site.seats :=
  exists_step_imp (fun vigil _ => statusOf vigil = some .running ∧
    InStep vigil (.nodeLiveness (3601 * second) (ends 3601))) (by decide +kernel) fun _ _ run taken seen =>
    ⟨seen.1, outage_ends_nothing (by unfold Online; decide) run seen.2 taken rfl⟩

/-- The operator is down for an hour, one node is reported, and then a worker runs: `node_liveness` ends the
session on the other node, and so does `session_liveness`. -/
theorem outage_ends_session :
    (∃ vigil next, Run step (fun _ _ => True) (pairOf .running) (reportsAll 0 ++ [ready "gpu-1" 3600]) vigil ∧
      vigil.step (.nodeLiveness (3601 * second) (ends 3601)) = some next ∧
      statusOf vigil = some .running ∧ statusOf next = some .terminated) ∧
    ∃ vigil next, Run step (fun _ _ => True) (pairOf .running) (reportsAll 0 ++ [ready "gpu-1" 3600]) vigil ∧
      vigil.step (.sessionLiveness (3601 * second) (ends 3601)) = some next ∧
      statusOf vigil = some .running ∧ statusOf next = some .terminated :=
  ⟨exists_step_of_execute (by decide +kernel), exists_step_of_execute (by decide +kernel)⟩

/-! ## A lost report of a pause -/

section

variable {ward later start : Ward} {change : WardEvent} {changes : List WardEvent} {id : SessionId}

/-- The report of a pause is neither lost nor dropped, and `session_liveness` finds a session that is to be paused,
and is not yet, reported within the window. -/
def Reported (ward : Ward) : WardEvent → Prop
  | .pause id event input => input.isSome ∧ ∀ given ∈ input, ∀ seat ∈ ward.site.seats.find? id,
      (seat.within ward.site.ledger).dropped event given.env = false
  | .sessionLiveness now _ => ∀ seat ∈ ward.site.seats.rows, ward.paused seat.id = some false →
      ∀ lastReport ∈ seat.row.lastReportedAt, now - sessionStale * second ≤ lastReport
  | _ => True

instance decidableReported : DecidablePred (Reported ward) := fun event => by
  unfold Reported
  split <;> infer_instance

/-- The row of a session that is paused in the cluster says so, or is over. -/
def Settles (ward : Ward) : Prop :=
  ∀ id, ward.paused id = some true → ∀ seat ∈ ward.site.seats.find? id, seat.isActive = false

theorem onStatus_inactive {world : World} {event : StatusEvent} {env : Env} (phase : event.phase = .paused)
    (taken : world.dropped event env = false) : (world.onStatus event env).row.status ≠ .preparing ∧
      (world.onStatus event env).row.status ≠ .running := by
  rw [World.onStatus, taken, if_neg nofun, World.handle, phase]
  cases status : world.row.status <;> simp [status, World.onPaused]

theorem not_lost (settles : Settles ward) (meets : Reported ward (.sessionLiveness now inputs))
    (paused : ward.paused id ≠ none) : id ∉ ward.site.lost now := by
  intro lost
  obtain ⟨seat, listed, isLost, rfl⟩ := mem_lost.mp lost
  simp only [Site.isLost, Bool.and_eq_true, any_eq_true, decide_eq_true_eq] at isLost
  obtain ⟨⟨active, -⟩, lastReport, reported, ⟨silent, -⟩, -⟩ := isLost
  obtain ⟨_ | _, phase⟩ := ne_none_iff_exists'.mp paused
  · have recent := meets seat listed phase lastReport reported
    omega
  · have idle := settles seat.id phase seat (find?_eq_some_iff.mpr ⟨listed, rfl⟩)
    simp [idle] at active

theorem settles_step (meets : Reported ward change) (taken : ward.step change = some later)
    (settles : Settles ward) : Settles later := by
  intro id phase
  cases change with
  | report other event input =>
    simp only [Ward.step] at taken
    split_ifs at taken with spared
    obtain ⟨_, turned, rfl⟩ := map_eq_some_iff.mp taken
    obtain ⟨_, _, -, -, -, -, others⟩ := turn_eq_some turned
    have apart : id ≠ other := by
      rintro rfl
      cases spared.symm.trans phase
    exact others id apart ▸ settles id phase
  | reportsNode =>
    cases taken
    exact settles id phase
  | reap other =>
    simp only [Ward.step] at taken
    split_ifs at taken
    cases taken
    by_cases own : id = other
    · simp [own] at phase
    · exact settles id ((Function.update_of_ne own ..).symm.trans phase)
  | pause other event input =>
    obtain ⟨arrives, kept⟩ := meets
    obtain ⟨given, rfl⟩ := isSome_iff_exists.mp arrives
    simp only [Ward.step] at taken
    split_ifs at taken with due
    obtain ⟨_, called, rfl⟩ := map_eq_some_iff.mp taken
    obtain ⟨⟨_, _⟩, turned, rfl⟩ := map_eq_some_iff.mp called
    obtain ⟨seat, _, found, ⟨⟩, -, written, others⟩ := turn_eq_some turned
    by_cases own : id = other
    · subst own
      intro last isLast
      cases written.symm.trans isLast
      have inactive := @onStatus_inactive _ _
        (given.env.onCard (ward.site.cardOf seat (.callback event) given.card)) due.2 (kept given rfl seat found)
      simpa [Seat.isActive, Seat.after] using inactive
    · exact others id own ▸ settles id ((Function.update_of_ne own ..).symm.trans phase)
  | sessionLiveness now inputs =>
    cases taken
    have apart : id ∉ ward.site.lost now := not_lost settles meets fun unset => by cases unset.symm.trans phase
    exact (settleLost_keeps apart).seat ▸ settles id phase

/-- In every history of reports, pauses and runs of `session_liveness` in which each pause is reported in time,
the worker leaves every session whose resource is paused as it is. -/
theorem paused_not_ended (fresh : ∀ id, start.paused id = none) (run : Run Ward.step Reported start changes ward)
    (meets : Reported ward (.sessionLiveness now inputs)) (paused : ward.paused id ≠ none) :
    (ward.site.settleLost now inputs).seats.find? id = ward.site.seats.find? id := by
  have initial : Settles start := fun id phase => by simp [fresh id] at phase
  have settles : Settles ward :=
    run.invariant initial fun _ _ _ meets taken settles => settles_step meets taken settles
  exact (settleLost_keeps (not_lost settles meets paused)).seat

/-- The session is heard from and paused; the operator goes on reporting a node. -/
def idlePause (input : Option SiteEnv) : List WardEvent :=
  [.report 7 { reportOf .heartbeat with restartCount := some 0 } (atTime 0), .reap 7,
    .pause 7 { reportOf .paused with message := some "idle-reaped", ts := 10 * second } input,
    .reportsNode 0 "gpu-1" (some true) (390 * second)]

def unpaused : Ward := ⟨(pairOf .running).site, fun _ => none⟩

theorem paused_not_ended_idle : ∃ ward, Run Ward.step Reported unpaused (idlePause (some (atTime 10))) ward ∧
    (ward.site.settleLost (400 * second) (ends 400)).seats.find? 7 = ward.site.seats.find? 7 :=
  exists_run_imp (fun ward => Reported ward (.sessionLiveness (400 * second) (ends 400)) ∧ ward.paused 7 ≠ none)
    (by decide +kernel) fun _ run seen => paused_not_ended (fun _ => rfl) run seen.1 seen.2

/-- The report is lost, and no other is sent: the session is ended while its resource is paused. -/
theorem lost_report_ends : ∃ ward, Run Ward.step (fun _ _ => True) unpaused (idlePause none) ward ∧
    ward.paused 7 = some true ∧ ((ward.site.settleLost (400 * second) (ends 400)).seats.find? 7).map
      (·.row.statusReason) = some (some (.code "pod_lost")) :=
  exists_run_of_execute (by decide +kernel)

end

end GShare.Soundness.Liveness
