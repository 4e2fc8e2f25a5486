import GShare.Proofs.Audit.Log

/-! # What the retention worker deletes

The loop ends, and with it every row from before the cutoff is gone; the rows left are the end of the log in
the order of the walk.
-/

namespace GShare.Model.Audit

open Accounting List

variable {log : Log} {rows : List AuditLog}
variable {cutoff : ℤ}

def old (rows : List AuditLog) (cutoff : ℤ) : List AuditLog := rows.filter (·.createdAt < cutoff)
def young (rows : List AuditLog) (cutoff : ℤ) : List AuditLog := rows.filter (! ·.createdAt < cutoff)

theorem young_eq_self (none_old : old rows cutoff = []) : young rows cutoff = rows := by
  refine filter_eq_self.mpr fun row member => ?_
  simpa using filter_eq_nil_iff.mp none_old row member

theorem mem_idsBatch {id : ℕ} (listed : id ∈ idsBatch log cutoff) :
    ∃ row ∈ log.rows, row.createdAt < cutoff ∧ row.id = id := by
  obtain ⟨row, taken, rfl⟩ := mem_map.mp listed
  obtain ⟨member, before⟩ := mem_filter.mp (mem_oldestFirst.mp (mem_of_mem_take taken))
  exact ⟨row, member, by simpa using before, rfl⟩

theorem idsBatch_eq_nil : idsBatch log cutoff = [] ↔ old log.rows cutoff = [] := by
  rw [idsBatch, map_eq_nil_iff, take_eq_nil_iff, ← length_eq_zero_iff,
    (oldestFirst_perm _).length_eq, length_eq_zero_iff, old]
  simp [batch]

/-- A batch takes only old rows. -/
theorem young_delete (cutoff : ℤ) :
    young (log.delete (idsBatch log cutoff)).rows cutoff = young log.rows cutoff := by
  rw [young, young, Log.delete, filter_filter]
  refine filter_congr fun row member => ?_
  by_cases before : row.createdAt < cutoff
  · simp [before]
  · have stays : row.id ∉ idsBatch log cutoff := by
      intro listed
      obtain ⟨other, among, early, same⟩ := mem_idsBatch listed
      exact before (Roster.eq_of_key among member same ▸ early)
    simp [before, stays]

/-- A batch that is not empty takes an old row away. -/
theorem old_delete_lt (some_old : idsBatch log cutoff ≠ []) :
    (old (log.delete (idsBatch log cutoff)).rows cutoff).length < (old log.rows cutoff).length := by
  obtain ⟨id, listed⟩ := exists_mem_of_ne_nil _ some_old
  obtain ⟨row, member, before, rfl⟩ := mem_idsBatch listed
  have among : row ∈ old log.rows cutoff := mem_filter.mpr ⟨member, by simpa using before⟩
  have fewer : old (log.delete (idsBatch log cutoff)).rows cutoff =
      (old log.rows cutoff).filter fun row => row.id ∉ idsBatch log cutoff := by
    rw [old, old, Log.delete, filter_filter, filter_filter]
    exact filter_congr fun _ _ => Bool.and_comm _ _
  rw [fewer]
  exact length_filter_lt_length_iff_exists.mpr ⟨row, among, by simpa using listed⟩

/-- The worker deletes every row from before the cutoff, and counts something if there is one. -/
theorem prune_eq {cutoff : ℤ} {rounds removed : ℕ} (enough : (old log.rows cutoff).length ≤ rounds) :
    (prune cutoff rounds log removed).1.rows = young log.rows cutoff ∧
      removed ≤ (prune cutoff rounds log removed).2 ∧
      ((prune cutoff rounds log removed).2 = removed ↔ old log.rows cutoff = []) := by
  induction rounds generalizing log removed with
  | zero =>
    have none_old := length_eq_zero_iff.mp (Nat.le_zero.mp enough)
    exact ⟨(young_eq_self none_old).symm, le_rfl, fun _ => none_old, fun _ => rfl⟩
  | succ rounds ih =>
    simp only [prune]
    split_ifs with finished
    · have none_old := idsBatch_eq_nil.mp finished
      exact ⟨(young_eq_self none_old).symm, le_rfl, fun _ => none_old, fun _ => rfl⟩
    · have fewer := old_delete_lt finished
      have within : (old (log.delete (idsBatch log cutoff)).rows cutoff).length ≤ rounds := by omega
      obtain ⟨left, counted, -⟩ := @ih _ (removed + (idsBatch log cutoff).length) within
      have positive := length_pos_iff.mpr finished
      refine ⟨left.trans (young_delete cutoff), by omega, fun same => by omega, fun none_old => ?_⟩
      exact absurd (idsBatch_eq_nil.mpr none_old) finished

/-- In the order of the walk the rows that stay come last. -/
theorem oldestFirst_young_suffix (unique : (rows.map AuditLog.id).Nodup) (cutoff : ℤ) :
    oldestFirst (young rows cutoff) <:+ oldestFirst rows := by
  have sorted := oldestFirst_sorted rows
  rw [young, oldestFirst_filter unique]
  generalize oldestFirst rows = ordered at sorted
  induction ordered with
  | nil => exact nil_suffix
  | cons first rest ih =>
    obtain ⟨ahead, sorted⟩ := pairwise_cons.mp sorted
    by_cases before : first.createdAt < cutoff
    · rw [filter_cons_of_neg (by simpa using before)]
      exact (ih sorted).trans (suffix_cons first rest)
    · -- nothing after a row that stays is older than it
      have all : (first :: rest).filter (! ·.createdAt < cutoff) = first :: rest := by
        refine filter_eq_self.mpr fun row member => ?_
        rcases mem_cons.mp member with rfl | later
        · simpa using before
        · have order := ahead row later
          unfold AuditLog.Before at order
          simp only [Bool.not_eq_true', decide_eq_false_iff_not]
          omega
      rw [all]

end GShare.Model.Audit
