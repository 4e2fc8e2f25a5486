import GShare.Soundness.AuditChain

/-! # Tampering with the audit log

Every row is hashed with what it refers to, so a changed row and a row that was made up do not match their
stored hashes. A row that is taken out is missed by the row after it, unless that row is now the oldest:
then the walk asks the newest retention entry, and believes it whoever wrote it.
-/

namespace GShare.Soundness.AuditTampering

open GShare.Model.Audit Accounting Machine AuditChain HashChain Option List Bool

variable {hasher : Hasher} {log : Log}
variable {keep : AuditLog → Bool} {row : AuditLog}

/-- An edit of the table behind the back of the log: rows changed, rows deleted, a row inserted. -/
inductive Tampering where
  | alter (change : AuditLog → AuditLog)
  | delete (keep : AuditLog → Bool)
  | insert (row : AuditLog)

namespace Tampering

/-- The table after the edit. -/
def result (log : Log) : Tampering → List AuditLog
  | .alter change => log.rows.map change
  | .delete keep => log.rows.filter keep
  | .insert row => row :: log.rows

/-- The edit changes what is hashed of some row and keeps the stored hashes, or it deletes a row that came
before one it keeps, or it inserts a row that does not store the hash computed from it. -/
def Tampers (hasher : Hasher) (log : Log) : Tampering → Prop
  | .alter change =>
      (∀ row ∈ log.rows, (change row).prevHash = row.prevHash ∧ (change row).entryHash = row.entryHash) ∧
      ∃ row ∈ log.rows, (change row).payload ≠ row.payload
  | .delete keep =>
      ∃ gone ∈ log.rows, keep gone = false ∧ ∃ left ∈ log.rows, keep left ∧ gone.Before left
  | .insert row => row.entryHash ≠ some (row.recomputed hasher)

/-- The rows that are left followed on each other, and the newest retention entry among them names what the
oldest of them refers to. -/
def Reanchors (log : Log) : Tampering → Prop
  | .delete keep =>
      oldestFirst (log.rows.filter keep) <:+: oldestFirst log.rows ∧
      ∃ first, (oldestFirst (log.rows.filter keep)).head? = some first ∧
        anchors (anchor (log.rows.filter keep)) first.prevHash
  | .alter _ | .insert _ => False

end Tampering

theorem stored_of_accepted {rows : List AuditLog}
    (accepted : (verifyChain hasher rows none).ok) (member : row ∈ rows) :
    row.entryHash = some (row.recomputed hasher) :=
  ((verifyChain_ok_iff.mp accepted).computed_eq (mem_oldestFirst.mpr member)).symm

theorem insert_rejected (tampers : (Tampering.insert row).Tampers hasher log) :
    (verifyChain hasher (row :: log.rows) none).ok = false := by
  rw [eq_false_iff]
  exact fun passes => tampers (stored_of_accepted passes mem_cons_self)

theorem stored_nodup (injective : hasher.Injective) {start : Option String}
    (linked : (auditChain hasher).Linked start (oldestFirst log.rows)) :
    ((oldestFirst log.rows).map (auditChain hasher).stored).Nodup := by
  have distinct : (oldestFirst log.rows).Nodup :=
    ((oldestFirst_perm log.rows).nodup_iff).mpr (log.unique.of_map _)
  refine distinct.map_on fun row member other among same => ?_
  rw [← linked.computed_eq member, ← linked.computed_eq among] at same
  have payloads := (injective (some.inj same)).2
  exact Roster.eq_of_key (mem_oldestFirst.mp member) (mem_oldestFirst.mp among)
    (congrArg Payload.id payloads)

theorem front_ne_nil {front back : List AuditLog}
    (block : front ++ oldestFirst (log.rows.filter keep) ++ back = oldestFirst log.rows)
    (tampers : (Tampering.delete keep).Tampers hasher log) : front ≠ [] := by
  rintro rfl
  obtain ⟨gone, member, dropped, left, among, kept, before⟩ := tampers
  have sorted := oldestFirst_sorted log.rows
  rw [← block, nil_append] at sorted
  have inside : left ∈ oldestFirst (log.rows.filter keep) :=
    mem_oldestFirst.mpr (mem_filter.mpr ⟨among, kept⟩)
  have behind : gone ∈ back := by
    have somewhere := mem_oldestFirst.mpr member
    rw [← block, nil_append] at somewhere
    rcases mem_append.mp somewhere with staying | later
    · have stays := (mem_filter.mp (mem_oldestFirst.mp staying)).2
      rw [dropped] at stays
      cases stays
    · exact later
  have after := (pairwise_append.mp sorted).2.2 left inside gone behind
  have same := Roster.eq_of_key among member (id_eq_of_before after before)
  rw [same, dropped] at kept
  cases kept

section

variable (accepted : (verifyChain hasher log.rows none).ok)

include accepted

theorem alter_rejected {change : AuditLog → AuditLog} (injective : hasher.Injective)
    (tampers : (Tampering.alter change).Tampers hasher log) :
    (verifyChain hasher (log.rows.map change) none).ok = false := by
  obtain ⟨keeps, row, member, differs⟩ := tampers
  rw [eq_false_iff]
  intro passes
  have before := stored_of_accepted accepted member
  have after := stored_of_accepted passes (mem_map_of_mem member)
  rw [(keeps row member).2, before, recomputed_eq, recomputed_eq, (keeps row member).1] at after
  exact differs (injective (some.inj after)).2.symm

theorem accepted_of_reanchors (reanchors : (Tampering.delete keep).Reanchors log) :
    (verifyChain hasher (log.rows.filter keep) none).ok := by
  obtain ⟨block, first, oldest, anchored⟩ := reanchors
  have linked := (verifyChain_ok_iff.mp accepted).of_block block
  rw [verifyChain_ok_iff]
  obtain ⟨rest, sorted⟩ := head?_eq_some_iff.mp oldest
  rw [sorted] at linked ⊢
  have expected : expectedPrev (log.rows.filter keep) (first :: rest) = first.prevHash := by
    rw [expectedPrev, head?_cons]
    dsimp only
    split_ifs with named
    · rfl
    · exact (not_not.mp fun other => named ⟨other, anchored⟩).symm
  rw [expected]
  exact linked

theorem reanchors_of_accepted (injective : hasher.Injective) (tampers : (Tampering.delete keep).Tampers hasher log)
    (passes : (verifyChain hasher (log.rows.filter keep) none).ok) :
    (Tampering.delete keep).Reanchors log := by
  have linked := verifyChain_ok_iff.mp accepted
  have remains := verifyChain_ok_iff.mp passes
  have within : (oldestFirst (log.rows.filter keep)).Sublist (oldestFirst log.rows) := by
    rw [oldestFirst_filter log.unique]
    exact filter_sublist
  have block := linked.infix_of_sublist remains within (stored_nodup injective linked)
  refine ⟨block, ?_⟩
  obtain ⟨front, back, parts⟩ := block
  have cut := front_ne_nil parts tampers
  obtain ⟨-, -, -, left, among, kept, -⟩ := tampers
  have inside : left ∈ oldestFirst (log.rows.filter keep) :=
    mem_oldestFirst.mpr (mem_filter.mpr ⟨among, kept⟩)
  rw [← parts] at linked
  have middle := (linked_append.mp (linked_append.mp linked).1)
  cases sorted : oldestFirst (log.rows.filter keep) with
  | nil =>
    rw [sorted] at inside
    cases inside
  | cons first rest =>
    rw [sorted] at remains middle
    refine ⟨first, rfl, ?_⟩
    rcases expectedPrev_cases remains with marked | anchored
    · -- the row before the first one left stores a digest, which is not the marker
      obtain ⟨last, ends⟩ := isSome_iff_exists.mp (getLast?_isSome.mpr cut)
      have refers : first.prevHash = last.entryHash := by
        have names := middle.2.1
        rw [tip_eq_getLast, ends] at names
        exact names
      have stores := middle.1.computed_eq (mem_of_getLast? ends)
      have digest : some (last.recomputed hasher) = some genesis :=
        stores.trans (refers.symm.trans marked)
      exact absurd (some.inj digest) (hasher.ne_genesis _ _)
    · exact anchored

end

/-- An accepted log that was tampered with is rejected, except where the rows that are left followed on each
other and the newest retention entry among them names what the oldest refers to. -/
theorem verifyChain_rejects_iff {hasher : Hasher} (injective : hasher.Injective) {log : Log} {edit : Tampering}
    (accepted : (verifyChain hasher log.rows none).ok) (tampers : edit.Tampers hasher log) :
    (verifyChain hasher (edit.result log) none).ok = false ↔ ¬ edit.Reanchors log := by
  cases edit with
  | alter change => exact ⟨fun _ => id, fun _ => alter_rejected accepted injective tampers⟩
  | insert row => exact ⟨fun _ => id, fun _ => insert_rejected tampers⟩
  | delete keep =>
    rw [eq_false_iff]
    exact not_congr ⟨reanchors_of_accepted accepted injective tampers, accepted_of_reanchors accepted⟩

/-- Without the first of two rows the second one refers to nothing. -/
theorem deleted_first_rejected : ∃ log : Log, log.rows = [secondRow numbering, firstRow numbering] ∧
      (verifyChain numbering log.rows none).ok ∧
      (verifyChain numbering ((Tampering.delete (·.id != 1)).result log) none).ok = false := by
  obtain ⟨pool, run, rows, -⟩ := inOrder_run numbering
  have accepted := verifyChain_ok_of_genesis (linked_of_timely run)
  have tampers : (Tampering.delete (·.id != 1)).Tampers numbering pool.store := by
    refine ⟨firstRow numbering, ?_, rfl, secondRow numbering, ?_, rfl, .inl (by decide)⟩ <;> simp [rows]
  refine ⟨pool.store, rows, accepted, (verifyChain_rejects_iff numbering_injective accepted tampers).mpr ?_⟩
  rintro ⟨-, first, oldest, anchored⟩
  rw [rows] at oldest anchored
  cases oldest
  exact false_ne_true anchored

def forgedRetention (hasher : Hasher) : Append :=
  recordOperatorAction ⟨"operator:clu", retentionAction, "audit", "ok",
    some ⟨[(anchorField, .text (lastEntryHash [firstRow hasher]))], pairwise_singleton _ _⟩, .utc 30⟩

/-- The event comes third. -/
def forgedRow (hasher : Hasher) : AuditLog :=
  (forgedRetention hasher).row hasher (lastEntryHash [secondRow hasher, firstRow hasher]) 3 30

theorem forged_run (hasher : Hasher) :
    ∃ pool, Run (appendProgram hasher).step (Timely hasher) emptyLog
        (inOrder ++ alone 2 (forgedRetention hasher) ⟨3, 30⟩) pool ∧
      pool.store.rows = [forgedRow hasher, secondRow hasher, firstRow hasher] := by
  obtain ⟨middle, both, rows, two⟩ := inOrder_run hasher
  have newest : ∀ other ∈ middle.store.rows, other.Before (forgedRow hasher) := by
    intro other member
    rw [rows] at member
    rcases mem_cons.mp member with rfl | member
    · exact .inl (show (15 - 0 : ℤ) < 30 - 0 by decide)
    · obtain rfl := mem_singleton.mp member
      exact .inl (show (10 - 0 : ℤ) < 30 - 0 by decide)
  obtain ⟨pool, third, all, -⟩ := @alone_run hasher middle (forgedRetention hasher) ⟨3, 30⟩
    (forgedRow hasher) (by rw [rows]; rfl) rfl (by rw [rows]; exact (by decide : 3 ∉ [2, 1])) newest
  rw [two] at third
  exact ⟨pool, both.append third, by rw [all, rows]⟩

/-- The first row of a log that the appends make is deleted, and the walk accepts what is left. -/
theorem forged_anchor_hides_deletion :
    ∃ pool, Run (appendProgram numbering).step (Timely numbering) emptyLog
        (inOrder ++ alone 2 (forgedRetention numbering) ⟨3, 30⟩) pool ∧
      (verifyChain numbering pool.store.rows none).ok ∧
      (Tampering.delete (·.id != 1)).Tampers numbering pool.store ∧
      (verifyChain numbering ((Tampering.delete (·.id != 1)).result pool.store) none).ok := by
  obtain ⟨pool, run, rows⟩ := forged_run numbering
  have accepted := verifyChain_ok_of_genesis (linked_of_timely run)
  refine ⟨pool, run, accepted, ?_, accepted_of_reanchors accepted ?_⟩
  · refine ⟨firstRow numbering, ?_, rfl, secondRow numbering, ?_, rfl, .inl (by decide)⟩ <;> simp [rows]
  · rw [Tampering.Reanchors, rows]
    exact ⟨suffix_cons (firstRow numbering) [secondRow numbering, forgedRow numbering] |>.isInfix,
      secondRow numbering, rfl, beq_self_eq_true _⟩

end GShare.Soundness.AuditTampering
