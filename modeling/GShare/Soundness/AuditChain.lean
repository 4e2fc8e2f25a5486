import GShare.Proofs.Audit.Log
import GShare.Proofs.Audit.Numbering

/-! # Appends to the audit log

An append links its row to the row that was the newest by `created_at` when it looked, and the log is
verified in the order of `created_at`. The two orders agree as long as every append inserts the newest row,
finds the last hash unchanged since it read it, and hashed its time in UTC.
-/

namespace GShare.Soundness.AuditChain

open GShare.Model.Audit Accounting Machine AppendCall Option List Bool

def emptyLog : Pool Log AppendCall := ⟨Roster.empty AuditLog.id, []⟩

/-- An insert comes right after the read of its own append, as far as other appends go, with a time in UTC
and a row that is newer than all others. -/
def Timely (hasher : Hasher) (pool : Pool Log AppendCall) : Action AppendCall Draw Empty → Prop
  | .advance index draw => ∀ req prevHash, pool.calls[index]? = some (.inserting req prevHash) →
      prevHash = lastEntryHash pool.store.rows ∧ (req.ts draw.now).zone = some 0 ∧
      ∀ row ∈ pool.store.rows, row.Before (req.row hasher prevHash draw.id draw.now)
  | .enter _ | .outside _ => True

variable {hasher : Hasher} {pool : Pool Log AppendCall}

theorem linked_step {next : Pool Log AppendCall}
    {action : Action AppendCall Draw Empty} (timely : Timely hasher pool action)
    (taken : (appendProgram hasher).step pool action = some next)
    (linked : (auditChain hasher).Linked (some genesis) (oldestFirst pool.store.rows)) :
    (auditChain hasher).Linked (some genesis) (oldestFirst next.store.rows) := by
  cases action with
  | enter call =>
    obtain ⟨-, rfl⟩ := (appendProgram hasher).step_enter taken
    exact linked
  | advance index draw =>
    obtain ⟨call, log, after, found, stepped, rfl⟩ := (appendProgram hasher).step_advance taken
    cases call with
    | reading req =>
      cases stepped
      exact linked
    | inserting req prevHash =>
      obtain ⟨current, utc, newest⟩ := timely req prevHash found
      obtain ⟨inside, inserted, same⟩ := map_eq_some_iff.mp stepped
      cases same
      exact (linked_insert linked (fun _ => rfl) inserted current utc newest).2
    | done => cases stepped
  | outside change => cases change

theorem linked_of_timely {actions : List (Action AppendCall Draw Empty)}
    (run : Run (appendProgram hasher).step (Timely hasher) emptyLog actions pool) :
    (auditChain hasher).Linked (some genesis) (oldestFirst pool.store.rows) := by
  refine run.invariant ?_ fun _ _ _ => linked_step
  trivial

/-- After timely appends the chain verifies, however many there were and however they interleaved. -/
theorem verifyChain_ok_of_timely (hasher : Hasher) {pool : Pool Log AppendCall}
    {actions : List (Action AppendCall Draw Empty)}
    (run : Run (appendProgram hasher).step (Timely hasher) emptyLog actions pool) :
    (verifyChain hasher pool.store.rows none).ok :=
  verifyChain_ok_of_genesis (linked_of_timely run)

/-- An append of this plane, and one that an operator reports with a time of its own. -/
def localAppend : Append := record "usr" "session.create" none (some "ok") .empty
def operatorAppend (ts : Datetime) : Append :=
  recordOperatorAction ⟨"operator:clu", "node.cordon", "gpu-node-3", "ok", none, ts⟩

def alone (index : ℕ) (req : Append) (draw : Draw) : List (Action AppendCall Draw Empty) :=
  [.enter (.reading req), .advance index draw, .advance index draw]

theorem alone_run {hasher : Hasher} {pool : Pool Log AppendCall} {req : Append} {draw : Draw}
    {row : AuditLog} (inserts : row = req.row hasher (lastEntryHash pool.store.rows) draw.id draw.now)
    (utc : (req.ts draw.now).zone = some 0) (fresh : draw.id ∉ pool.store.rows.map AuditLog.id)
    (newest : ∀ other ∈ pool.store.rows, other.Before row) :
    ∃ next, Run (appendProgram hasher).step (Timely hasher) pool (alone pool.calls.length req draw) next ∧
      next.store.rows = row :: pool.store.rows ∧ next.calls.length = pool.calls.length + 1 := by
  subst inserts
  have read : (appendProgram hasher).step { pool with calls := pool.calls ++ [.reading req] }
      (.advance pool.calls.length draw) = some { pool with
        calls := pool.calls ++ [.inserting req (lastEntryHash pool.store.rows)] } := by
    simp [Program.step, appendProgram, AppendCall.next]
  have inserted : (appendProgram hasher).step
      { pool with calls := pool.calls ++ [.inserting req (lastEntryHash pool.store.rows)] }
      (.advance pool.calls.length draw) = some {
        store := ⟨req.row hasher (lastEntryHash pool.store.rows) draw.id draw.now :: pool.store.rows,
          nodup_cons.mpr ⟨fresh, pool.store.unique⟩⟩
        calls := pool.calls ++ [.done] } := by
    have free : pool.store.insert (req.row hasher (lastEntryHash pool.store.rows) draw.id draw.now) =
        some ⟨_ :: pool.store.rows, nodup_cons.mpr ⟨fresh, pool.store.unique⟩⟩ := dif_neg fresh
    simp [Program.step, appendProgram, AppendCall.next, free]
  refine ⟨_, .cons trivial rfl (.cons ?_ read (.cons ?_ inserted (.nil _))), rfl, by simp⟩
  · intro _ _ found
    simp at found
  · intro _ _ found
    simp only [getElem?_concat_length, Option.some.injEq, inserting.injEq] at found
    obtain ⟨rfl, rfl⟩ := found
    exact ⟨rfl, utc, newest⟩

/-- A local append, and an operator's whose time is later. -/
def inOrder : List (Action AppendCall Draw Empty) :=
  alone 0 localAppend ⟨1, 10⟩ ++ alone 1 (operatorAppend (.utc 15)) ⟨2, 20⟩

def firstRow (hasher : Hasher) : AuditLog := localAppend.row hasher genesis 1 10
def secondRow (hasher : Hasher) : AuditLog :=
  (operatorAppend (.utc 15)).row hasher (lastEntryHash [firstRow hasher]) 2 20

theorem inOrder_run (hasher : Hasher) :
    ∃ pool, Run (appendProgram hasher).step (Timely hasher) emptyLog inOrder pool ∧
      pool.store.rows = [secondRow hasher, firstRow hasher] ∧ pool.calls.length = 2 := by
  obtain ⟨middle, first, rows, one⟩ := @alone_run hasher emptyLog localAppend ⟨1, 10⟩ (firstRow hasher) rfl rfl
    not_mem_nil fun _ member => (not_mem_nil member).elim
  change middle.store.rows = [firstRow hasher] at rows
  have newest : ∀ other ∈ middle.store.rows, other.Before (secondRow hasher) := by
    intro other member
    rw [rows] at member
    obtain rfl := mem_singleton.mp member
    exact .inl (show (10 - 0 : ℤ) < 15 - 0 by decide)
  obtain ⟨pool, second, all, two⟩ := @alone_run hasher middle (operatorAppend (.utc 15)) ⟨2, 20⟩
    (secondRow hasher) (by rw [rows]; rfl) rfl (by rw [rows]; exact (by decide : 2 ∉ [1])) newest
  rw [one] at second two
  exact ⟨pool, first.append second, by rw [all, rows], two⟩

theorem inOrder_verifies :
    ∃ pool, Run (appendProgram numbering).step (Timely numbering) emptyLog inOrder pool ∧
      pool.store.rows = [secondRow numbering, firstRow numbering] ∧
      (verifyChain numbering pool.store.rows none).ok := by
  obtain ⟨pool, run, rows, -⟩ := inOrder_run numbering
  exact ⟨pool, run, rows, verifyChain_ok_of_timely numbering run⟩

def Breaks (actions : List (Action AppendCall Draw Empty)) : Prop :=
  ∃ pool, Run (appendProgram numbering).step (fun _ _ => True) emptyLog actions pool ∧
    (verifyChain numbering pool.store.rows none).ok = false

/-- An operator reports an action from before the last row: its row is the oldest and refers to a later one. -/
theorem backdated_breaks : Breaks (alone 0 localAppend ⟨1, 10⟩ ++ alone 1 (operatorAppend (.utc 5)) ⟨2, 20⟩) := by
  refine ⟨_, run_of_execute rfl, ?_⟩
  rw [eq_false_iff, ne_eq, verifyChain_ok_iff]
  intro linked
  rcases expectedPrev_cases linked with marked | anchored
  · have later : lastEntryHash [localAppend.row numbering genesis 1 10] ≠ genesis := by
      rw [show lastEntryHash [localAppend.row numbering genesis 1 10] = _ from
        orDefault_some (numbering.ne_empty _ _)]
      exact numbering.ne_genesis _ _
    exact later (some.inj marked)
  · exact false_ne_true anchored

/-- Two appends read the same last hash: both rows refer to the marker. -/
theorem overlapping_breaks :
    Breaks [.enter (.reading localAppend), .enter (.reading localAppend), .advance 0 ⟨1, 10⟩,
      .advance 1 ⟨2, 20⟩, .advance 0 ⟨1, 10⟩, .advance 1 ⟨2, 20⟩] := by
  refine ⟨_, run_of_execute rfl, ?_⟩
  rw [eq_false_iff, ne_eq, verifyChain_ok_iff]
  intro linked
  exact numbering.ne_genesis _ _ (some.inj linked.2.2.1).symm

/-- An operator reports a time with an offset: the row comes back with another text of the same moment. -/
theorem offset_breaks : Breaks (alone 0 (operatorAppend ⟨5, some 9⟩) ⟨1, 10⟩) := by
  refine ⟨_, run_of_execute rfl, ?_⟩
  rw [eq_false_iff, ne_eq, verifyChain_ok_iff]
  intro linked
  have same := (numbering_injective (some.inj linked.2.1)).2
  exact absurd (congrArg Payload.createdAt same) (by decide)

theorem appends_break_chain :
    Breaks (alone 0 localAppend ⟨1, 10⟩ ++ alone 1 (operatorAppend (.utc 5)) ⟨2, 20⟩) ∧
    Breaks [.enter (.reading localAppend), .enter (.reading localAppend), .advance 0 ⟨1, 10⟩,
      .advance 1 ⟨2, 20⟩, .advance 0 ⟨1, 10⟩, .advance 1 ⟨2, 20⟩] ∧
    Breaks (alone 0 (operatorAppend ⟨5, some 9⟩) ⟨1, 10⟩) :=
  ⟨backdated_breaks, overlapping_breaks, offset_breaks⟩

end GShare.Soundness.AuditChain
