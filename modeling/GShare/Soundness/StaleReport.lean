import GShare.Model.Session.Generations
import GShare.Proofs.Session.Scheduler
import GShare.Soundness.Samples

/-! # Reports that a resume has overtaken

A resume commits the running row, patches the custom resource and writes the generation it got to the
marker, in three steps. Before the third, a report computed for an older generation is judged by an older
marker or by two clocks, and may pass. From then on, as long as the marker lives and no other resume is
between its patch and its marker, every older report of a pause or an end is dropped.
-/

namespace GShare.Model

open World

variable {world next : World} {env : Env} {call after : SessionCall}
variable {reason : Reason} {point : StartPoint}

namespace World

theorem tick_marker {point : TickPoint} : (world.tick env point).1.resumeGeneration = world.resumeGeneration := by
  cases point with
  | loaded sess now => exact (consume_leaves ..).marker
  | called | listed now => rfl

theorem pauseRow_marker {loaded : Session} :
    (world.pauseRow loaded reason).resumeGeneration = world.resumeGeneration := by
  simp only [pauseRow]
  split_ifs <;> rfl

end World

namespace SessionCall

/-- The call has patched the custom resource and not yet written the marker. -/
def hasPatched : SessionCall → Bool
  | .start (.patched _) => true
  | _ => false

/-- The call has committed the running row and not yet written the marker. -/
def isResuming : SessionCall → Bool
  | .start (.resumed _) | .start .priced | .start (.patched _) => true
  | _ => false

theorem hasPatched_of_not_isResuming (settled : call.isResuming = false) : call.hasPatched = false := by
  cases call with
  | start point => cases point <;> first | rfl | cases settled
  | stop | restart | terminate | callback | cancel | tick | promote | returned => rfl

theorem next_marker (taken : call.next world env = some (next, after)) (unpatched : call.hasPatched = false) :
    next.resumeGeneration = world.resumeGeneration := by
  cases steps_of_next taken with
  | start =>
    refine (start_leaves ..).marker fun generation same => ?_
    rw [same] at unpatched
    cases unpatched
  | abandoned => exact claim_unmarked.marker
  | checked | refused | patched | unpatched | restarted | resumed => rfl
  | charged => exact (consume_leaves ..).marker
  | paused => exact pauseRow_marker
  | terminate => exact terminate_unmarked.marker
  | callback => exact onStatus_leaves.marker
  | cancel =>
    simp only [World.cancel]
    split_ifs <;> rfl
  | tick => exact tick_marker
  | promote => exact promote_unmarked.marker

theorem hasPatched_elim {Point : Type} {wrap : Point → SessionCall} {onward : Option Point}
    (other : ∀ point, (wrap point).hasPatched = false) : (onward.elim .returned wrap).hasPatched = false := by
  cases onward with
  | none => rfl
  | some point => exact other point

/-- Of the points of a resume, only its patch leads to the point between patch and marker. -/
theorem start_patched
    (patched : ((world.start env point).2.elim .returned .start : SessionCall).hasPatched) :
    point = .priced ∧ env.accepted := by
  cases point with
  | priced =>
    refine ⟨rfl, ?_⟩
    by_contra refused
    simp only [World.start, refused] at patched
    cases patched
  | called | again =>
    simp only [World.start, admitStart] at patched
    split_ifs at patched <;> cases patched
  | checked loaded yieldResume =>
    rcases written : world.start env (.checked loaded yieldResume) with ⟨resumed, point⟩
    rw [written] at patched
    rcases start_checked written with ⟨_, rfl | ⟨_, rfl⟩⟩ | ⟨_, _, _, rfl⟩ <;> cases patched
  | reclaimed | resumed loaded | patched generation | marked => cases patched

/-- Only the patch of a resume leads to the point between patch and marker. -/
theorem next_patched (taken : call.next world env = some (next, after)) (patched : after.hasPatched) :
    call = .start .priced ∧ env.accepted := by
  cases steps_of_next taken with
  | start =>
    obtain ⟨rfl, accepted⟩ := start_patched patched
    exact ⟨rfl, accepted⟩
  | abandoned | terminate | tick | promote =>
    rw [hasPatched_elim fun _ => rfl] at patched
    cases patched
  | paused onward | resumed onward => rcases onward with rfl | rfl <;> cases patched
  | checked | refused | patched | unpatched | charged | restarted | callback | cancel => cases patched

end SessionCall

end GShare.Model

namespace GShare.Soundness.StaleReport

open GShare.Model Machine Samples Option List Watched SessionCall Program World

variable {store placed : Watched} {pool further : Pool Watched SessionCall} {env : Env} {index : ℕ}

/-- The report is about a pause or an end. -/
def closes : Phase → Bool
  | .paused | .terminated | .error => true
  | _ => false

section

variable (pool)

/-- A resume of the session is committed whose patch has a later generation than the report: it is still
to come, or the latest one. -/
def overtaken (event : StatusEvent) : Bool :=
  pool.calls.any (fun call => call.isResuming && !call.hasPatched)
    || pool.store.latest.any fun latest => event.generation.any (· < latest)

/-- An overtaken report arrives only when the resume has written its marker and the marker is still there;
a resume patches only while no other one is about to write its marker, and learns its generation. -/
def Timely (env : Env) : SessionCall → Prop
  | .callback event =>
    closes event.phase → pool.store.world.row.status = .running → overtaken pool event →
      (∀ other ∈ pool.calls, other.isResuming = false) ∧
        pool.store.world.resumeGeneration.isSome
  | .start .priced =>
    env.accepted → env.generation ≠ 0 ∧ ∀ other ∈ pool.calls, other.hasPatched = false
  | _ => True

def MarksInTime : Action SessionCall Env ClusterChange → Prop
  | .advance index env => ∀ call ∈ pool.calls[index]?, Timely pool env call
  | .enter _ | .outside _ => True

end

/-- A resume that is about to write its marker is the latest; when there is none, the marker is. -/
structure Marked (pool : Pool Watched SessionCall) : Prop where
  pending : ∀ generation, .start (.patched generation) ∈ pool.calls →
    generation ≠ 0 ∧ pool.store.latest = some generation
  written : (∀ call ∈ pool.calls, call.hasPatched = false) →
    ∀ marker ∈ pool.store.world.resumeGeneration, ∀ latest ∈ pool.store.latest, latest ≤ marker

theorem cluster_cases {call : SessionCall} (clustered : store.cluster env call = some placed) :
    placed.world = store.world ∧ (placed.latest = store.latest ∧ ¬(call = .start .priced ∧ env.accepted) ∨
      call = .start .priced ∧ env.accepted ∧
        (env.generation ≠ 0 → placed.latest = some env.generation)) := by
  cases call with
  | start point =>
    cases point with
    | priced =>
      simp only [cluster] at clustered
      split_ifs at clustered with accepted
      · simp only [patch] at clustered
        split_ifs at clustered with unknown
        · cases clustered
          exact ⟨rfl, .inr ⟨rfl, accepted, fun known => absurd unknown known⟩⟩
        · cases clustered
          exact ⟨rfl, .inr ⟨rfl, accepted, fun _ => rfl⟩⟩
      · cases clustered
        exact ⟨rfl, .inl ⟨rfl, fun both => accepted both.2⟩⟩
    | called | again | checked | reclaimed | resumed | patched | marked =>
      cases clustered
      exact ⟨rfl, .inl ⟨rfl, by simp⟩⟩
  | callback event =>
    simp only [cluster] at clustered
    split_ifs at clustered
    cases clustered
    exact ⟨rfl, .inl ⟨rfl, by simp⟩⟩
  | stop | restart | terminate | cancel | tick | promote | returned =>
    cases clustered
    exact ⟨rfl, .inl ⟨rfl, by simp⟩⟩

section Advance

variable {index : ℕ} {call after : SessionCall}
variable (found : pool.calls[index]? = some call)
include found

theorem mem_set_of_mem {other : SessionCall} (member : other ∈ pool.calls) :
    other = call ∨ other ∈ pool.calls.set index after := by
  obtain ⟨place, at_place⟩ := getElem?_of_mem member
  by_cases same : index = place
  · subst same
    exact .inl (Option.some.inj (at_place.symm.trans found))
  · refine .inr (mem_of_getElem? (i := place) ?_)
    rwa [getElem?_set_ne same]

/-- The patch of a resume, while no other one is about to write its marker. -/
theorem marked_patch (alone : ∀ other ∈ pool.calls, other.hasPatched = false)
    (known : env.generation ≠ 0) (latest : placed.latest = some env.generation) :
    Marked ⟨placed, pool.calls.set index (.start (.patched env.generation))⟩ where
  pending generation member := by
    rcases mem_or_eq_of_mem_set member with earlier | same
    · cases alone _ earlier
    · cases same
      exact ⟨known, latest⟩
  written quiet := by cases quiet _ (List.mem_set (List.getElem?_eq_some_iff.mp found).1 _)

end Advance

theorem marked_quiet {after : SessionCall} (marked : Marked pool)
    (quiet : after.hasPatched = false) (latest : placed.latest = pool.store.latest)
    (written : (∀ other ∈ pool.calls.set index after, other.hasPatched = false) →
      ∀ marker ∈ placed.world.resumeGeneration, ∀ latest ∈ placed.latest, latest ≤ marker) :
    Marked ⟨placed, pool.calls.set index after⟩ where
  pending generation member := by
    rcases mem_or_eq_of_mem_set member with earlier | same
    · rw [latest]
      exact marked.pending generation earlier
    · rw [← same] at quiet
      cases quiet
  written := written

theorem marked_advance {call after : SessionCall} {next : Watched}
    (found : pool.calls[index]? = some call) (timely : Timely pool env call)
    (stepped : pool.store.next env call = some (next, after)) (marked : Marked pool) :
    Marked ⟨next, pool.calls.set index after⟩ := by
  obtain ⟨placed, clustered, stepped⟩ := bind_eq_some_iff.mp stepped
  obtain ⟨⟨world, onward⟩, taken, same⟩ := map_eq_some_iff.mp stepped
  obtain ⟨rfl, rfl⟩ := Prod.mk.inj same
  obtain ⟨untouched, latest⟩ := cluster_cases clustered
  rw [untouched] at taken
  rcases latest with ⟨latest, unpriced⟩ | ⟨rfl, accepted, latest⟩
  · cases patched : call.hasPatched with
    | true =>
      -- The resume writes its marker, which is that of the latest patch.
      obtain ⟨generation, rfl⟩ : ∃ generation, call = .start (.patched generation) := by
        cases call with
        | start point =>
          cases point with
          | patched generation => exact ⟨generation, rfl⟩
          | called | again | checked | reclaimed | resumed | priced | marked => cases patched
        | stop | restart | terminate | callback | cancel | tick | promote | returned => cases patched
      obtain ⟨known, current⟩ := marked.pending generation (mem_of_getElem? found)
      cases taken
      refine marked_quiet marked rfl latest fun _ marker written newest given => ?_
      simp only [World.start, known, if_false, mem_def, Option.some.injEq] at written
      rw [latest, current] at given
      cases given
      exact written.le
    | false =>
      have kept := next_marker taken patched
      cases quiet : onward.hasPatched with
      | true => exact absurd (next_patched taken quiet) unpriced
      | false =>
        refine marked_quiet marked quiet latest fun calm marker written newest given => ?_
        simp only at written given
        rw [kept] at written
        rw [latest] at given
        refine marked.written (fun other member => ?_) marker written newest given
        rcases mem_set_of_mem found member with rfl | stays
        · exact patched
        · exact calm other stays
  · obtain ⟨known, alone⟩ := timely accepted
    simp only [SessionCall.next, World.start, accepted] at taken
    cases taken
    exact marked_patch found alone known (latest known)

theorem marked_step {action : Action SessionCall Env ClusterChange} (meets : MarksInTime pool action)
    (taken : watchedProgram.step pool action = some further) (marked : Marked pool) : Marked further := by
  cases action with
  | enter call =>
    obtain ⟨enters, rfl⟩ := step_enter _ taken
    refine ⟨fun generation member => ?_, fun quiet => ?_⟩
    · rcases mem_append.mp member with earlier | new
      · exact marked.pending generation earlier
      · cases mem_singleton.mp new
        cases enters
    · exact marked.written fun other member => quiet other (mem_append_left _ member)
  | advance index env =>
    obtain ⟨call, store, after, found, stepped, rfl⟩ := step_advance _ taken
    exact marked_advance found (meets call found) stepped marked
  | outside change =>
    obtain ⟨store, changed, rfl⟩ := step_outside _ taken
    cases change with
    | patch =>
      cases changed
      exact ⟨marked.pending, marked.written⟩
    | expire =>
      cases changed
      exact ⟨marked.pending, fun _ marker gone => by cases gone⟩

theorem dropped_of_lt {world : World} {event : StatusEvent} {generation marker : ℕ}
    (running : world.row.status = .running) (closing : closes event.phase)
    (dated : positive? event.generation = some generation)
    (written : world.resumeGeneration = some marker) (older : generation < marker) :
    world.dropped event env := by
  have stale : world.stale event := by simp [stale, dated, written, older]
  cases phase : event.phase with
  | paused | terminated | error => simp [dropped, running, phase, stale]
  | pending | preparing | running | terminating | heartbeat | idlewarning | other =>
    rw [phase] at closing
    cases closing

/-- However reports are delayed and reordered among the steps of resumes, and whatever the clocks say, a
report of a pause or an end that a resume has overtaken leaves the running session as it is. -/
theorem overtaken_report_ignored {first last next : Pool Watched SessionCall}
    {actions : List (Action SessionCall Env ClusterChange)} {index : ℕ} {event : StatusEvent}
    (idle : first.calls = []) (fresh : first.store.latest = none)
    (run : Run watchedProgram.step MarksInTime first actions last)
    (delivered : last.calls[index]? = some (.callback event)) (closing : closes event.phase)
    (running : last.store.world.row.status = .running) (late : overtaken last event)
    (meets : MarksInTime last (.advance index env))
    (taken : watchedProgram.step last (.advance index env) = some next) :
    next.store.world.row.status = .running ∧ next.store.world.live = last.store.world.live ∧
      next.store.world.ledger = last.store.world.ledger := by
  have initial : Marked first := by
    refine ⟨fun generation member => ?_, fun _ marker _ latest given => ?_⟩
    · rw [idle] at member
      cases member
    · rw [fresh] at given
      cases given
  have marked : Marked last :=
    run.invariant initial fun _ _ _ meets taken marked => marked_step meets taken marked
  obtain ⟨settled, lives⟩ := meets _ delivered closing running late
  obtain ⟨marker, written⟩ := isSome_iff_exists.mp lives
  have unpatched : ∀ call ∈ last.calls, call.hasPatched = false :=
    fun call member => hasPatched_of_not_isResuming (settled call member)
  -- No resume is still to be patched, so the report is older than the latest patch.
  have older : (last.store.latest.any fun latest => event.generation.any (· < latest)) := by
    rcases Bool.or_eq_true_iff.mp late with waiting | patched
    · obtain ⟨call, member, resuming⟩ := any_eq_true.mp waiting
      rw [settled call member] at resuming
      cases resuming
    · exact patched
  obtain ⟨latest, given, older⟩ := (any_eq_true _ _).mp older
  obtain ⟨generation, dated, older⟩ := (any_eq_true _ _).mp older
  have current := marked.written unpatched marker written latest given
  obtain ⟨call, store, after, found, stepped, rfl⟩ := step_advance _ taken
  cases delivered.symm.trans found
  obtain ⟨placed, clustered, stepped⟩ := bind_eq_some_iff.mp stepped
  simp only [cluster] at clustered
  split_ifs at clustered with arrived
  cases clustered
  obtain ⟨known, positive, _⟩ := (any_eq_true _ _).mp arrived
  have same : known = generation := by
    rw [dated] at positive
    cases generation with
    | zero => cases positive
    | succ generation => exact (Option.some.inj positive).symm
  have dropped := @dropped_of_lt env _ event known marker running closing positive written
    (same ▸ (of_decide_eq_true older).trans_le current)
  have kept : last.store.world.onStatus event env = last.store.world := if_pos dropped
  cases stepped
  exact ⟨(congrArg (·.row.status) kept).trans running, congrArg live kept,
    congrArg ledger kept⟩

instance : DecidablePred (Timely pool env) := fun call => by
  rcases call with ⟨_ | _ | _⟩ | _ <;> unfold Timely <;> infer_instance

instance (action : Action SessionCall Env ClusterChange) : Decidable (MarksInTime pool action) := by
  unfold MarksInTime
  split <;> infer_instance

def pausedAlone : Pool Watched SessionCall :=
  ⟨⟨worldOf { wholeCard 1 600 with status := .paused } none, 2, none⟩, []⟩

/-- A report of an idle pause, computed for that generation and dated by a clock that runs ahead. -/
def latePause : StatusEvent :=
  { reportOf .paused with message := some "idle", generation := some 2, ts := 7200 * second }

/-- A resume takes `count` steps an hour after the epoch, and then the report is there. -/
def resumedBefore (count : ℕ) : List (Action SessionCall Env ClusterChange) :=
  .enter (.start .called) ::
    replicate count (.advance 0 { granted (3600 * second) with generation := 3 })
    ++ [.enter (.callback latePause)]

/-- The report that stands at the second place, if a resume has overtaken it. -/
def lateReport? (pool : Pool Watched SessionCall) : Option StatusEvent :=
  (pool.calls[1]?).bind fun call =>
    match call with
    | .callback event => if closes event.phase && overtaken pool event then some event else none
    | _ => none

theorem lateReport?_eq_some {event : StatusEvent} (reports : lateReport? pool = some event) :
    pool.calls[1]? = some (.callback event) ∧ closes event.phase ∧ overtaken pool event := by
  obtain ⟨call, found, reports⟩ := bind_eq_some_iff.mp reports
  split at reports
  · split_ifs at reports with late
    cases reports
    exact ⟨found, Bool.and_eq_true_iff.mp late⟩
  · cases reports

/-- The report is delivered, in time or not. -/
def delivery : Action SessionCall Env ClusterChange := .advance 1 (granted (3600 * second))

/-- The report meets a resume that has written its marker. -/
theorem overtaken_report_ignored_once_marked :
    ∃ last next, Run watchedProgram.step MarksInTime pausedAlone (resumedBefore 6) last ∧
      watchedProgram.step last delivery = some next ∧
      next.store.world.row.status = .running ∧ next.store.world.live = last.store.world.live ∧
      next.store.world.ledger = last.store.world.ledger := by
  refine exists_step_imp (fun last _ => (lateReport? last).isSome ∧ MarksInTime last delivery ∧
    last.store.world.row.status = .running) (by decide +kernel) fun last next run taken arrives => ?_
  obtain ⟨reports, meets, running⟩ := arrives
  obtain ⟨event, reports⟩ := isSome_iff_exists.mp reports
  obtain ⟨delivered, closing, late⟩ := lateReport?_eq_some reports
  exact overtaken_report_ignored rfl rfl run delivered closing running late meets taken

/-- The report comes between the patch and the marker: by the clocks it is news, and it takes the card
of the session that was just resumed. -/
theorem overtaken_report_applied :
    ∃ last next, Run watchedProgram.step (fun _ _ => True) pausedAlone (resumedBefore 4) last ∧
      (lateReport? last).isSome ∧ last.store.world.row.status = .running ∧
      last.store.latest = some 3 ∧ watchedProgram.step last delivery = some next ∧
      next.store.world.row.status = .paused ∧ next.store.world.live = none := by
  obtain ⟨last, next, run, taken, late, running, latest, paused⟩ : ∃ last next,
      Run watchedProgram.step (fun _ _ => True) pausedAlone (resumedBefore 4) last ∧
      watchedProgram.step last delivery = some next ∧ (lateReport? last).isSome ∧
      last.store.world.row.status = .running ∧ last.store.latest = some 3 ∧
      next.store.world.row.status = .paused ∧ next.store.world.live = none :=
    exists_step_of_execute (by decide +kernel)
  exact ⟨last, next, run, late, running, latest, taken, paused⟩

end GShare.Soundness.StaleReport
