import GShare.Proofs.Audit.Numbering
import GShare.Proofs.Audit.Retention

/-! # Retention and the audit chain

Retention cuts off the beginning of the chain and records what the first row that is left refers to.
The invariant is that the first row refers to the marker or to what the newest retention entry says. It
survives later entries, later cuts, and a cut that takes older retention entries or every row.
-/

namespace GShare.Soundness.AuditRetention

open GShare.Model.Audit Accounting Machine List

variable {hasher : Hasher} {now : ℤ} {log next : Log} {entryId : ℕ}

/-- What this plane records of its own actions. Only the worker records retention. -/
structure LocalAction where
  actor : String
  action : String
  target : Option String
  result : Option String
  detail : Detail
  ordinary : action ≠ retentionAction

/-- The log, and a clock that has passed all its rows. -/
structure Journal where
  log : Log
  clock : ℤ

/-- A local append, or a run of the worker with some cutoff, at a reading of the clock. -/
inductive Entry where
  | append (action : LocalAction) (draw : Draw)
  | retention (cutoff : ℤ) (draw : Draw)

/-- The reading of the clock for an entry. -/
def Entry.draw : Entry → Draw
  | .append _ draw | .retention _ draw => draw

def Entry.write (hasher : Hasher) (log : Log) : Entry → Option Log
  | .append action draw =>
      GShare.Model.Audit.append hasher log
        (record action.actor action.action action.target action.result action.detail) draw.id draw.now
  | .retention cutoff draw => retain hasher log cutoff draw.id draw.now

/-- One entry, at a later reading than the one before. -/
def step (hasher : Hasher) (journal : Journal) (entry : Entry) : Option Journal :=
  if journal.clock < entry.draw.now then
    (entry.write hasher journal.log).map fun log => ⟨log, entry.draw.now⟩
  else none

def Anchored (hasher : Hasher) (log : Log) : Prop :=
  ∃ start, (auditChain hasher).Linked start (oldestFirst log.rows) ∧
    (log.rows = [] → start = some genesis) ∧
    (start = some genesis ∨ anchors (anchor log.rows) start)

theorem Anchored.verifies (anchored : Anchored hasher log) :
    (verifyChain hasher log.rows none).ok := by
  obtain ⟨start, linked, -, rfl | named⟩ := anchored
  · exact verifyChain_ok_of_genesis linked
  · rw [verifyChain_ok_iff]
    cases sorted : oldestFirst log.rows with
    | nil => trivial
    | cons first rest =>
      rw [sorted] at linked
      have refers : first.prevHash = start := linked.1
      by_cases marked : first.prevHash = some genesis
      · rw [← refers, marked] at linked
        simpa [expectedPrev, marked] using linked
      · have expected : expectedPrev log.rows (first :: rest) = start := by
          rw [expectedPrev, head?_cons]
          dsimp only
          rw [if_pos ⟨marked, by rw [refers]; exact named⟩, refers]
        rw [expected]
        exact linked

section Append

variable {actor action : String} {target result : Option String}
  {detail : Detail} {start : Option String}

/-- A local append at a later reading adds the last link. -/
theorem append_linked (linked : (auditChain hasher).Linked start (oldestFirst log.rows))
    (fresh : log.rows = [] → start = some genesis) (past : ∀ row ∈ log.rows, row.createdAt < now)
    (appended : append hasher log (record actor action target result detail) entryId now = some next) :
    ∃ row, next.rows = row :: log.rows ∧ row.action = action ∧ row.detail = detail ∧ row.createdAt = now ∧
      (auditChain hasher).Linked start (oldestFirst next.rows) := by
  have newest : ∀ row ∈ log.rows, row.Before ((record actor action target result detail).row hasher
      (lastEntryHash log.rows) entryId now) := by
    intro row member
    refine .inl ?_
    change row.createdAt < now - 0
    have := past row member
    omega
  refine ⟨_, (Roster.insert_eq_some appended).2, rfl, rfl, ?_,
    (linked_insert linked fresh appended rfl rfl newest).2⟩
  change now - 0 = now
  omega

end Append

section Anchor

variable {row : AuditLog} {rows : List AuditLog}

theorem anchor_cons_of_ne (ordinary : row.action ≠ retentionAction) : anchor (row :: rows) = anchor rows := by
  rw [anchor, anchor, filter_cons_of_neg (by simpa using ordinary)]

theorem anchor_cons_retention (unique : ((row :: rows).map AuditLog.id).Nodup)
    (retention : row.action = retentionAction) (newest : ∀ other ∈ rows, other.Before row) :
    anchor (row :: rows) = row.detail.get anchorField := by
  have distinct : ((row :: rows.filter (·.action == retentionAction)).map AuditLog.id).Nodup :=
    unique.sublist ((filter_sublist.cons_cons row).map _)
  rw [anchor, filter_cons_of_pos (by simpa using retention), newestFirst,
    oldestFirst_cons_newest distinct fun other member => newest other (mem_filter.mp member).1,
    reverse_append]
  rfl

/-- What the worker records matches what the first row left refers to. -/
theorem anchors_retentionDetail (removed : ℕ) (cutoff : ℤ) (first : AuditLog) :
    anchors ((retentionDetail removed cutoff (some first)).get anchorField) first.prevHash := by
  change anchors (some (anchorValue first.prevHash)) first.prevHash
  cases first.prevHash <;> simp [anchors, anchorValue]

end Anchor

theorem anchored_of_added {row : AuditLog} {start : Option String}
    (added : next.rows = row :: log.rows) (at_now : row.createdAt = now)
    (past : ∀ row ∈ log.rows, row.createdAt < now)
    (linked : (auditChain hasher).Linked start (oldestFirst next.rows))
    (begins : start = some genesis ∨ anchors (anchor next.rows) start) :
    Anchored hasher next ∧ ∀ row ∈ next.rows, row.createdAt ≤ now := by
  refine ⟨⟨start, linked, fun empty => ?_, begins⟩, fun other member => ?_⟩
  · rw [added] at empty
    cases empty
  · rw [added] at member
    rcases mem_cons.mp member with rfl | earlier
    · exact at_now.le
    · exact (past other earlier).le

theorem Anchored.append {action : LocalAction}
    (anchored : Anchored hasher log) (past : ∀ row ∈ log.rows, row.createdAt < now)
    (appended : GShare.Model.Audit.append hasher log
      (record action.actor action.action action.target action.result action.detail) entryId now = some next) :
    Anchored hasher next ∧ ∀ row ∈ next.rows, row.createdAt ≤ now := by
  obtain ⟨start, linked, fresh, begins⟩ := anchored
  obtain ⟨row, added, acts, -, at_now, linked⟩ := append_linked linked fresh past appended
  refine anchored_of_added added at_now past linked ?_
  rwa [added, anchor_cons_of_ne (acts ▸ action.ordinary)]

/-- What is left of a chain is linked from the marker, if nothing is left, or from what the worker records. -/
theorem linked_left {left : Log} {start : Option String}
    (linked : (auditChain hasher).Linked start (oldestFirst log.rows))
    (block : oldestFirst left.rows <:+: oldestFirst log.rows) (removed : ℕ) (cutoff : ℤ) :
    ∃ begin, (auditChain hasher).Linked begin (oldestFirst left.rows) ∧
      (left.rows = [] → begin = some genesis) ∧ (begin = some genesis ∨
        anchors ((retentionDetail removed cutoff (oldestFirst left.rows).head?).get anchorField) begin) := by
  have cut := linked.of_block block
  cases sorted : oldestFirst left.rows with
  | nil => exact ⟨some genesis, trivial, fun _ => rfl, .inl rfl⟩
  | cons first rest =>
    rw [sorted] at cut
    refine ⟨first.prevHash, cut, fun empty => ?_, .inr (anchors_retentionDetail removed cutoff first)⟩
    rw [empty] at sorted
    cases sorted

/-- So does a run of the worker, whatever it removes. -/
theorem Anchored.retain {cutoff : ℤ}
    (anchored : Anchored hasher log) (past : ∀ row ∈ log.rows, row.createdAt < now)
    (retained : GShare.Model.Audit.retain hasher log cutoff entryId now = some next) :
    Anchored hasher next ∧ ∀ row ∈ next.rows, row.createdAt ≤ now := by
  obtain ⟨start, linked, fresh, begins⟩ := anchored
  have enough : (old log.rows cutoff).length ≤ log.rows.length := length_filter_le _ _
  obtain ⟨kept, -, nothing⟩ := @prune_eq log cutoff log.rows.length 0 enough
  have block := (oldestFirst_young_suffix log.unique cutoff).isInfix
  simp only [GShare.Model.Audit.retain] at retained
  generalize prune cutoff log.rows.length log 0 = pruned at retained kept nothing
  obtain ⟨left, removed⟩ := pruned
  split_ifs at retained with unchanged
  · cases retained
    rw [young_eq_self (nothing.mp unchanged)] at kept
    refine ⟨⟨start, by rwa [kept], by rwa [kept], by rwa [kept]⟩, fun row member => ?_⟩
    exact (past row (kept ▸ member)).le
  · rw [← kept] at block
    have stays : ∀ row ∈ left.rows, row.createdAt < now := fun row member =>
      past row (mem_filter.mp (kept ▸ member)).1
    obtain ⟨begin, linked, fresh, begins⟩ := linked_left linked block removed cutoff
    obtain ⟨row, added, acts, detail, at_now, linked⟩ := append_linked linked fresh stays retained
    have newest : ∀ other ∈ left.rows, other.Before row := fun other member =>
      .inl (at_now ▸ stays other member)
    refine anchored_of_added added at_now stays linked ?_
    rwa [added, anchor_cons_retention (added ▸ next.unique) acts newest, detail]

structure Sound (hasher : Hasher) (journal : Journal) : Prop where
  anchored : Anchored hasher journal.log
  behind : ∀ row ∈ journal.log.rows, row.createdAt ≤ journal.clock

/-- The log before the first entry, at some reading of the clock. -/
def start (clock : ℤ) : Journal := ⟨Roster.empty AuditLog.id, clock⟩

theorem sound_start (hasher : Hasher) (clock : ℤ) : Sound hasher (start clock) where
  anchored := ⟨some genesis, trivial, fun _ => rfl, .inl rfl⟩
  behind _ member := (not_mem_nil member).elim

theorem Sound.step {journal next : Journal} {entry : Entry} (sound : Sound hasher journal)
    (taken : step hasher journal entry = some next) : Sound hasher next := by
  unfold AuditRetention.step at taken
  split_ifs at taken with later
  obtain ⟨log, written, rfl⟩ := Option.map_eq_some_iff.mp taken
  have past : ∀ row ∈ journal.log.rows, row.createdAt < entry.draw.now :=
    fun row member => (sound.behind row member).trans_lt later
  cases entry with
  | append action draw =>
    obtain ⟨anchored, behind⟩ := sound.anchored.append past written
    exact ⟨anchored, behind⟩
  | retention cutoff draw =>
    obtain ⟨anchored, behind⟩ := sound.anchored.retain past written
    exact ⟨anchored, behind⟩

/-- After every entry the chain verifies. -/
theorem verifyChain_ok_of_entries (hasher : Hasher) (clock : ℤ) {entries : List Entry} {journal : Journal}
    (run : Run (step hasher) (fun _ _ => True) (start clock) entries journal) :
    (verifyChain hasher journal.log.rows none).ok := by
  have sound : Sound hasher journal :=
    run.invariant (sound_start hasher clock) fun _ _ _ _ taken sound => sound.step taken
  exact sound.anchored.verifies

def login : LocalAction := ⟨"usr", "auth.login", none, some "ok", .empty, by decide⟩

/-- Two logins, a cut between them, a second cut that takes the first retention entry, and one that takes
every row. -/
def threeCuts : List Entry :=
  [.append login ⟨1, 10⟩, .append login ⟨2, 20⟩, .retention 15 ⟨3, 30⟩, .append login ⟨4, 40⟩,
    .retention 35 ⟨5, 50⟩, .retention 60 ⟨6, 70⟩]

theorem three_cuts_verify :
    ∃ journal, Run (step numbering) (fun _ _ => True) (start 0) threeCuts journal ∧
      journal.log.rows.map AuditLog.id = [6] ∧ (verifyChain numbering journal.log.rows none).ok := by
  have run : Run (step numbering) (fun _ _ => True) (start 0) threeCuts _ := run_of_execute rfl
  exact ⟨_, run, rfl, verifyChain_ok_of_entries numbering 0 run⟩

end GShare.Soundness.AuditRetention
