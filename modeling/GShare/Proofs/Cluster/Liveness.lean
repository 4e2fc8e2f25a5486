import GShare.Model.Cluster.Liveness
import GShare.Proofs.Cluster.Nodes

/-! # What the events of a vigil leave of the reports

A transaction on a session leaves the time of its last report, or sets it to its own time; a termination leaves
it. No transaction on a session touches a node.
-/

namespace GShare.Model

open Accounting Option List World Roster

def World.Notes (world next : World) (now : ℤ) : Prop :=
  next.row.lastReportedAt = world.row.lastReportedAt ∨ next.row.lastReportedAt = some now

namespace SessionCall

variable {world next : World} {env : Env} {call after : SessionCall}

theorem next_notes (taken : call.next world env = some (next, after)) : world.Notes next env.now := by
  cases steps_of_next taken with
  | start => exact .inl (start_leaves ..).reported
  | abandoned => exact .inl claim_unmarked.reported
  | checked | refused | patched | unpatched | restarted | resumed => exact .inl rfl
  | charged => exact .inl (by rw [consume_row])
  | paused => exact .inl rfl
  | terminate => exact .inl terminate_unmarked.reported
  | callback => exact onStatus_leaves.noted
  | cancel =>
    refine .inl ?_
    unfold World.cancel
    split_ifs <;> rfl
  | @tick point =>
    cases point with
    | called | listed => exact .inl rfl
    | loaded sess now => exact .inl (by simp [World.tick])
  | promote => exact .inl promote_unmarked.reported

/-- A termination, or one that is over. -/
def Ending : SessionCall → Prop
  | .terminate .. | .returned => True
  | _ => False

theorem Ending.proceeds (ending : call.Ending) (taken : call.next world env = some (next, after)) :
    after.Ending ∧ next.row.lastReportedAt = world.row.lastReportedAt := by
  cases steps_of_next taken with
  | @terminate reason point =>
    refine ⟨?_, terminate_unmarked.reported⟩
    cases (world.terminate reason env point).2 <;> trivial
  | _ => exact ending.elim

end SessionCall

variable {inputs : SessionId → List SiteEnv} {cluster : ℕ} {cutoff : ℤ}

namespace Site

variable {site next : Site} {id : SessionId} {call after : SessionCall} {input : SiteEnv} {now : ℤ}

theorem setSeat_find?_self {seat old : Seat} (homed : seat.Homed site.nodes.rows site.nodeOf)
    (found : site.seats.find? seat.id = some old) : (site.setSeat seat homed).seats.find? seat.id = some seat := by
  have own : old.id = seat.id := (find?_eq_some_iff.mp found).2
  refine (find?_revise_self (by intro _; rfl)).trans ?_
  rw [found, map_some, own]
  rfl

section

variable (taken : site.turn id call input = some (next, after))

include taken

/-- One transaction on a session: what becomes of its row, and that nothing else changes but the ledger. -/
theorem turn_eq_some :
    ∃ seat world, site.seats.find? id = some seat ∧
      call.next (seat.within site.ledger) (input.env.onCard (site.cardOf seat call input.card)) =
        some (world, after) ∧ next.nodes = site.nodes ∧
      next.seats.find? id = some (seat.after world (site.cardOf seat call input.card)) ∧
      ∀ other, other ≠ id → next.seats.find? other = site.seats.find? other := by
  unfold turn at taken
  split at taken
  next => cases taken
  next seat found =>
    have own : seat.id = id := (find?_eq_some_iff.mp found).2
    split_ifs at taken
    obtain ⟨⟨world, onward⟩, stepped, same⟩ := map_eq_some_iff.mp taken
    cases same
    have homed : (seat.after world (site.cardOf seat call input.card)).Homed site.nodes.rows site.nodeOf :=
      homed_after (site.homed seat (find?_eq_some_iff.mp found).1)
    refine ⟨seat, world, found, stepped, rfl, ?_, fun other apart => setSeat_find? homed (own ▸ apart)⟩
    subst own
    exact setSeat_find?_self homed found

theorem turn_lastReported (other : SessionId) :
    next.lastReported other = site.lastReported other ∨ next.lastReported other = some input.env.now := by
  obtain ⟨seat, world, found, stepped, -, written, others⟩ := turn_eq_some taken
  by_cases same : other = id
  · subst same
    simpa [lastReported, found, written, Seat.after, Seat.within, Notes]
      using SessionCall.next_notes stepped
  · exact .inl (by rw [lastReported, others other same, lastReported])

end

theorem turn_ending (ending : call.Ending) (taken : site.turn id call input = some (next, after))
    (other : SessionId) : after.Ending ∧ next.lastReported other = site.lastReported other := by
  obtain ⟨seat, world, found, stepped, -, written, others⟩ := turn_eq_some taken
  obtain ⟨still, kept⟩ := ending.proceeds stepped
  refine ⟨still, ?_⟩
  by_cases same : other = id
  · subst same
    simpa [lastReported, found, written, Seat.after, Seat.within] using kept
  · rw [lastReported, others other same, lastReported]

theorem run_ending {inputs : List SiteEnv} (ending : call.Ending) (other : SessionId) :
    (run id inputs site call).1.nodes = site.nodes ∧
      (run id inputs site call).1.lastReported other = site.lastReported other := by
  induction inputs generalizing site call with
  | nil => exact ⟨rfl, rfl⟩
  | cons input inputs ih =>
    rw [run]
    split
    next => exact ⟨rfl, rfl⟩
    next reached onward taken =>
      obtain ⟨_, _, -, -, nodes, -⟩ := turn_eq_some taken
      obtain ⟨still, kept⟩ := turn_ending ending taken other
      obtain ⟨laterNodes, laterKept⟩ := @ih reached onward still
      exact ⟨laterNodes.trans nodes, laterKept.trans kept⟩

theorem foldl_ending {ids : List SessionId} {inputs : SessionId → List SiteEnv} {reason : Reason}
    (other : SessionId) :
    let ended := ids.foldl (fun site id => (run id (inputs id) site (.terminate reason .called)).1) site
    ended.nodes = site.nodes ∧ ended.lastReported other = site.lastReported other := by
  induction ids generalizing site with
  | nil => exact ⟨rfl, rfl⟩
  | cons id ids ih =>
    obtain ⟨nodes, kept⟩ := @run_ending site id (.terminate reason .called) (inputs id) trivial other
    obtain ⟨laterNodes, laterKept⟩ := @ih (run id (inputs id) site (.terminate reason .called)).1
    exact ⟨laterNodes.trans nodes, laterKept.trans kept⟩

@[simp] theorem upsertNode_lastReported {hostname : String} {ready : Option Bool} :
    (site.upsertNode cluster hostname ready now).lastReported id = site.lastReported id := rfl

theorem sweep_lastReported : (site.sweep cutoff inputs).lastReported id = site.lastReported id :=
  (foldl_ending id).2

theorem settleLost_lastReported : (site.settleLost now inputs).lastReported id = site.lastReported id :=
  (foldl_ending id).2

theorem settleLost_keeps (apart : id ∉ site.lost now) : Keeps id site (site.settleLost now inputs) :=
  foldl_keeps (fun _ _ differs => run_keeps trivial differs) apart

theorem lastNodeSeen_eq_some {seen : ℤ} (newest : site.lastNodeSeen cluster = some seen) :
    ∃ node ∈ site.nodes.rows, node.clusterId = cluster ∧ node.lastSeenAt = some seen := by
  have member := max?_mem newest
  obtain ⟨node, inCluster, isSeen⟩ := mem_filterMap.mp member
  obtain ⟨listed, here⟩ := mem_filter.mp inCluster
  exact ⟨node, listed, beq_iff_eq.mp here, isSeen⟩

end Site

namespace Vigil

variable {vigil next : Vigil} {event : VigilEvent}

/-- One event: the site changes at a time that does not go back. -/
inductive Advances (vigil : Vigil) : VigilEvent → Vigil → Prop
  | transacted {event : VigilEvent} {site : Site} {now : ℤ}
      (still : event.isWorker = false) (later : vigil.clock ≤ now) (nodes : site.nodes = vigil.site.nodes)
      (noted : ∀ id, site.lastReported id = vigil.site.lastReported id ∨ site.lastReported id = some now) :
      Advances vigil event (vigil.observe site now)
  | reported {cluster : ℕ} {hostname : String} {ready : Option Bool} {now : ℤ} (later : vigil.clock ≤ now) :
      Advances vigil (.reportsNode cluster hostname ready now)
        (vigil.observe (vigil.site.upsertNode cluster hostname ready now) now)
  | swept {now : ℤ} {inputs : SessionId → List SiteEnv} (later : vigil.clock ≤ now) :
      Advances vigil (.nodeLiveness now inputs)
        (vigil.observe (vigil.site.sweep (now - nodeStale * second) inputs) now)
  | settled {now : ℤ} {inputs : SessionId → List SiteEnv} (later : vigil.clock ≤ now) :
      Advances vigil (.sessionLiveness now inputs) (vigil.observe (vigil.site.settleLost now inputs) now)

theorem advances_of_step (taken : vigil.step event = some next) : vigil.Advances event next := by
  cases event with
  | transact id call input =>
    simp only [step] at taken
    split_ifs at taken with early
    obtain ⟨⟨site, after⟩, turned, rfl⟩ := map_eq_some_iff.mp taken
    obtain ⟨_, _, -, -, nodes, -⟩ := Site.turn_eq_some turned
    exact .transacted rfl (not_lt.mp early) nodes (Site.turn_lastReported turned)
  | reportsNode cluster hostname ready now =>
    simp only [step] at taken
    split_ifs at taken with early
    cases taken
    exact .reported (not_lt.mp early)
  | nodeLiveness now inputs =>
    simp only [step] at taken
    split_ifs at taken with early
    cases taken
    exact .swept (not_lt.mp early)
  | sessionLiveness now inputs =>
    simp only [step] at taken
    split_ifs at taken with early
    cases taken
    exact .settled (not_lt.mp early)

end Vigil

end GShare.Model
