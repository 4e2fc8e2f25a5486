import GShare.Accounting.HashChain
import GShare.Model.Audit.Log

/-! # What the walk along the audit log accepts

The log read from the oldest row is a hash chain, and `verify_chain` accepts it exactly when the chain is
linked from the marker or from the retention anchor. A row that is newer than all others goes to the end
of the walk, and an append of such a row in UTC that nothing came between extends the chain.
-/

namespace GShare.Model.Audit

open Accounting Option List AuditLog HashChain

variable {hasher : Hasher} {log next : Log} {rows : List AuditLog} {row other : AuditLog}
variable {default prevHash : String} {start : Option String} {req : Append} {entryId : ℕ} {now : ℤ}

/-! ### The order of the rows -/

instance : Std.Total Before where
  total row other := by
    unfold Before
    omega

instance : IsTrans AuditLog Before where
  trans row middle other := by
    unfold Before
    omega

theorem oldestFirst_perm (rows : List AuditLog) : (oldestFirst rows).Perm rows :=
  perm_insertionSort _ rows

@[simp] theorem mem_oldestFirst : row ∈ oldestFirst rows ↔ row ∈ rows := (oldestFirst_perm rows).mem_iff

theorem oldestFirst_sorted (rows : List AuditLog) : (oldestFirst rows).Pairwise Before :=
  pairwise_insertionSort _ rows

theorem id_eq_of_before (left : row.Before other) (right : other.Before row) : row.id = other.id := by
  unfold Before at left right
  omega

/-- Rows with distinct ids have one order. -/
theorem eq_oldestFirst {sorted : List AuditLog} (unique : (rows.map AuditLog.id).Nodup)
    (ordered : sorted.Pairwise Before) (same : sorted.Perm rows) : sorted = oldestFirst rows := by
  refine List.Perm.eq_of_pairwise (fun left right among member before after => ?_) ordered
    (oldestFirst_sorted rows) (same.trans (oldestFirst_perm rows).symm)
  exact inj_on_of_nodup_map unique (same.mem_iff.mp among) (mem_oldestFirst.mp member)
    (id_eq_of_before before after)

/-- Leaving rows out does not change the order of the others. -/
theorem oldestFirst_filter (unique : (rows.map AuditLog.id).Nodup) (keep : AuditLog → Bool) :
    oldestFirst (rows.filter keep) = (oldestFirst rows).filter keep := by
  symm
  refine eq_oldestFirst (unique.sublist (filter_sublist.map _)) ?_ ((oldestFirst_perm rows).filter keep)
  exact (oldestFirst_sorted rows).sublist filter_sublist

theorem oldestFirst_cons_newest (unique : ((row :: rows).map AuditLog.id).Nodup)
    (newest : ∀ other ∈ rows, other.Before row) : oldestFirst (row :: rows) = oldestFirst rows ++ [row] := by
  symm
  refine eq_oldestFirst unique ?_ ?_
  · refine pairwise_append.mpr ⟨oldestFirst_sorted rows, pairwise_singleton _ _, ?_⟩
    intro other member last among
    obtain rfl := mem_singleton.mp among
    exact newest other (mem_oldestFirst.mp member)
  · exact (perm_append_singleton row _).trans ((oldestFirst_perm rows).cons row)

/-! ### The chain -/

def auditChain (hasher : Hasher) : HashChain AuditLog (Option String) where
  previous := AuditLog.prevHash
  stored := AuditLog.entryHash
  computed row := some (row.recomputed hasher)

theorem orDefault_ne_empty {text : Option String} (present : default ≠ "") : orDefault text default ≠ "" := by
  unfold orDefault
  split
  · exact present
  · split_ifs with empty
    · exact present
    · exact empty

theorem orDefault_some {value : String} (present : value ≠ "") : orDefault (some value) default = value := by
  simp [orDefault, present]

theorem recomputed_eq (row : AuditLog) :
    row.recomputed hasher = hasher.digest (orDefault row.prevHash genesis) row.payload := rfl

/-- The walk accepts a linked chain and nothing else. -/
theorem walk_ok_iff {expected : Option String} {checked : ℕ} :
    (walk hasher expected checked rows).ok ↔ (auditChain hasher).Linked expected rows := by
  induction rows generalizing expected checked with
  | nil => exact ⟨fun _ => trivial, fun _ => rfl⟩
  | cons row rest ih =>
    simp only [walk, Linked, auditChain]
    split_ifs with unlinked changed
    · exact ⟨fun impossible => impossible.elim, fun linked => absurd linked.1 unlinked⟩
    · exact ⟨fun impossible => impossible.elim,
        fun linked => absurd linked.2.1 changed⟩
    · rw [ih]
      exact ⟨fun rest => ⟨not_not.mp unlinked, not_not.mp changed, rest⟩, fun linked => linked.2.2⟩

theorem verifyChain_ok_iff : (verifyChain hasher rows none).ok ↔
      (auditChain hasher).Linked (expectedPrev rows (oldestFirst rows)) (oldestFirst rows) :=
  walk_ok_iff

/-- A chain from the marker is accepted, whatever retention recorded. -/
theorem verifyChain_ok_of_genesis (linked : (auditChain hasher).Linked (some genesis) (oldestFirst rows)) :
    (verifyChain hasher rows none).ok := by
  rw [verifyChain_ok_iff]
  cases sorted : oldestFirst rows with
  | nil => trivial
  | cons first rest =>
    rw [sorted] at linked
    have marked : first.prevHash = some genesis := linked.1
    simpa [expectedPrev, marked] using linked

/-- Where a chain is accepted, its first row refers to the marker or to the anchor. -/
theorem expectedPrev_cases {first : AuditLog} {rest : List AuditLog} {all : List AuditLog}
    (linked : (auditChain hasher).Linked (expectedPrev all (first :: rest)) (first :: rest)) :
    first.prevHash = some genesis ∨ anchors (anchor all) first.prevHash := by
  have names : first.prevHash = expectedPrev all (first :: rest) := linked.1
  simp only [expectedPrev, head?_cons] at names
  split_ifs at names with anchored
  · exact .inr anchored.2
  · exact .inl names

/-- A linked chain stores digests, so its tip is what an append reads. -/
theorem tip_eq_lastEntryHash
    (linked : (auditChain hasher).Linked start (oldestFirst rows)) (fresh : rows = [] → start = some genesis) :
    (auditChain hasher).tip start (oldestFirst rows) = some (lastEntryHash rows) := by
  rw [tip_eq_getLast, lastEntryHash, newestFirst, head?_reverse]
  cases last : (oldestFirst rows).getLast? with
  | none =>
    have empty : rows = [] := by
      have sorted := getLast?_eq_none_iff.mp last
      exact List.Perm.eq_nil (sorted ▸ (oldestFirst_perm rows).symm)
    simp [fresh empty, orDefault]
  | some newest =>
    have stored : some (newest.recomputed hasher) = newest.entryHash :=
      linked.computed_eq (mem_of_getLast? last)
    simp only [map_some, getD_some, bind_some, ← stored, auditChain]
    rw [recomputed_eq, orDefault_some (hasher.ne_empty _ _)]

/-! ### Appends -/

theorem row_computed (present : prevHash ≠ "") (utc : (req.ts now).zone = some 0) :
    (auditChain hasher).computed (req.row hasher prevHash entryId now) =
      (auditChain hasher).stored (req.row hasher prevHash entryId now) := by
  have iso : (Datetime.utc (req.ts now).instant).isoformat = (req.ts now).isoformat := by
    simp [Datetime.isoformat, Datetime.utc, Datetime.instant, utc]
  simp only [auditChain, AuditLog.recomputed, Append.row, entryHash, orDefault_some present, iso]

theorem linked_insert (linked : (auditChain hasher).Linked start (oldestFirst log.rows))
    (fresh : log.rows = [] → start = some genesis)
    (inserted : log.insert (req.row hasher prevHash entryId now) = some next)
    (current : prevHash = lastEntryHash log.rows) (utc : (req.ts now).zone = some 0)
    (newest : ∀ row ∈ log.rows, row.Before (req.row hasher prevHash entryId now)) :
    oldestFirst next.rows = oldestFirst log.rows ++ [req.row hasher prevHash entryId now] ∧
      (auditChain hasher).Linked start (oldestFirst next.rows) := by
  obtain ⟨-, added⟩ := Roster.insert_eq_some inserted
  have last : oldestFirst next.rows = oldestFirst log.rows ++ [req.row hasher prevHash entryId now] := by
    rw [added]
    exact oldestFirst_cons_newest (added ▸ next.unique) newest
  refine ⟨last, ?_⟩
  rw [last, linked_append, tip_eq_lastEntryHash linked fresh]
  exact ⟨linked, congrArg some current,
    row_computed (current ▸ orDefault_ne_empty (by decide)) utc, trivial⟩

end GShare.Model.Audit
