import GShare.Proofs.Device.Writes
import GShare.Soundness.Counters

/-! # What the live allocations of a card add up to

The counters of a card drift, and a borrow is never counted; what bounds the allocations is that each
reservation recomputes the sums under the lock of the card. Whatever the order of reservations and
releases, neither the sessions that own slices of a card nor those that borrow it hold more of it than
there is, and an exclusive session shares a card with nobody of its kind.
-/

namespace GShare.Model

open Accounting Card Option List Bool Allocation Roster

namespace Allocation

/-- What an allocation of one's own takes of a card. -/
def ownOn (dev : DeviceId) (dim : Dimension) (alloc : Allocation) : ℕ :=
  if alloc.occupies dev then alloc.amount dim else 0

variable {alloc : Allocation} {dev : DeviceId} {dim : Dimension}

theorem ownOn_of_occupies (occupies : alloc.occupies dev) :
    alloc.ownOn dev dim = alloc.amount dim := if_pos occupies

theorem occupies_of_ownOn_ne_zero (weighs : alloc.ownOn dev dim ≠ 0) : alloc.occupies dev := by
  by_contra elsewhere
  exact weighs (if_neg elsewhere)

theorem borrows_of_lentOn_ne_zero (weighs : alloc.lentOn dev dim ≠ 0) : alloc.borrows dev := by
  by_contra elsewhere
  exact weighs (if_neg elsewhere)

end Allocation

variable {card : Card} {target : Target}

namespace Inventory

variable {inv next : Inventory} {dev : DeviceId} {id : SessionId}
variable {row : Allocation} {holder : Holder}

/-- A write leaves the mode of every session that has an allocation. -/
theorem ofExclusive_write (write : Write inv next) (member : row ∈ inv.live.rows) :
    next.ofExclusive row = inv.ofExclusive row := by
  cases write with
  | @persisted id holder fresh idle =>
    have another : row.session ≠ id := find?_eq_none_iff.mp idle row member
    simp [ofExclusive, Function.update_of_ne another]
  | altered id keeps => exact ofExclusive_modifySession fun holder => (keeps holder).1
  | reconciled run => exact ofExclusive_of_session (reconcile_reconciled run).session
  | booked books =>
    obtain ⟨_, _, -, -, recorded⟩ := (book_booked books.booked).card
    exact ofExclusive_of_session (record_eq_some recorded).2.1
  | borrowed borrows =>
    exact ofExclusive_of_session ((record_eq_some borrows.borrowed).2.1.trans modifyCard_session)
  | closed id released => exact ofExclusive_of_session close_session
  | lent => exact ofExclusive_of_session modifyCard_session

section Borrows

/-- The borrowers of the card hold no more than there is of it, and one that borrows it whole is its only
borrower. -/
structure LentWithin (dev : DeviceId) (inv : Inventory) : Prop where
  within : ∀ card ∈ inv.card dev, ∀ dim,
    inv.live.total (lentOn dev dim) ≤ card.total dim
  alone : ∀ row ∈ inv.live.rows, row.borrows dev → inv.ofExclusive row →
    ∀ other ∈ inv.live.rows, other.borrows dev → other = row
  whole : ∀ card ∈ inv.card dev, ∀ row ∈ inv.live.rows, row.borrows dev →
    inv.ofExclusive row → row.amount .mem = card.total .mem

theorem LentWithin.keep (lent : inv.LentWithin dev)
    (rows : ∀ row ∈ next.live.rows, row.borrows dev → row ∈ inv.live.rows)
    (modes : ∀ row ∈ inv.live.rows, next.ofExclusive row = inv.ofExclusive row)
    (cards : ∀ last ∈ next.card dev, ∃ first ∈ inv.card dev, first.Kept last) : next.LentWithin dev := by
  constructor
  · intro last isLast dim
    obtain ⟨first, isFirst, same⟩ := cards last isLast
    rw [same.total dim]
    refine le_trans (total_le_of_mem fun row member weighs => ?_) (lent.within first isFirst dim)
    exact rows row member (borrows_of_lentOn_ne_zero weighs)
  · intro row member borrows exclusive other among alsoBorrows
    have old := rows row member borrows
    rw [modes row old] at exclusive
    exact lent.alone row old borrows exclusive other (rows other among alsoBorrows) alsoBorrows
  · intro last isLast row member borrows exclusive
    obtain ⟨first, isFirst, same⟩ := cards last isLast
    have old := rows row member borrows
    rw [modes row old] at exclusive
    rw [same.total .mem, lent.whole first isFirst row old borrows exclusive]

theorem borrowable_cases (room : inv.borrowable holder (dev, card) = some target) :
    (holder.mode = some .exclusive ∧ (∀ row ∈ inv.live.rows, row.borrows dev = false) ∧
      target = ⟨dev, card.totalMemMb, card.totalCores⟩) ∨
    (holder.mode ≠ some .exclusive ∧ 0 < target.mem ∧
      inv.live.total (lentOn dev .mem) + target.mem ≤ card.totalMemMb ∧
      inv.live.total (lentOn dev .cores) + target.cores ≤ card.totalCores) := by
  simp only [borrowable] at room
  split_ifs at room with exclusive nobody left
  · refine .inl ⟨exclusive, fun row member => ?_, (some.inj room).symm⟩
    have none := isEmpty_iff.mp nobody
    simpa using filter_eq_nil_iff.mp none row member
  · cases room
    rw [sum_borrows, sum_borrows] at left
    exact .inr ⟨exclusive, left⟩

section

variable (lent : inv.LentWithin dev)

include lent

theorem LentWithin.not_ofExclusive {mem : ℕ} (found : inv.card dev = some card) (positive : 0 < mem)
    (left : inv.live.total (lentOn dev .mem) + mem ≤ card.totalMemMb)
    (member : row ∈ inv.live.rows) (borrows : row.borrows dev) : inv.ofExclusive row ≠ true := by
  intro exclusive
  have whole : row.amount .mem = card.totalMemMb := lent.whole card found row member borrows exclusive
  have counts := le_total member (lentOn dev .mem)
  rw [lentOn, if_pos borrows, whole] at counts
  omega

/-- A new borrower takes what is left of the card. -/
theorem LentWithin.borrow (borrows : inv.Borrows id holder target card next) (here : target.device = dev) :
    next.LentWithin dev := by
  obtain ⟨-, sessions, inserted⟩ := record_eq_some borrows.borrowed
  rw [modifyCard_live] at inserted
  have modes : ∀ row, next.ofExclusive row = inv.ofExclusive row := fun row =>
    ofExclusive_of_session (sessions.trans modifyCard_session)
  have size : ∀ last ∈ next.card dev, ∀ dim, last.total dim = card.total dim := by
    intro last isLast dim
    obtain ⟨first, isFirst, kept⟩ := (Write.borrowed borrows).kept isLast
    rw [← here] at isFirst
    cases some.inj (borrows.found.symm.trans isFirst)
    exact kept.total dim
  have member : ∀ row ∈ next.live.rows, row = _ ∨ row ∈ inv.live.rows := fun row isRow =>
    ((mem_record borrows.borrowed).mp isRow).imp_right fun old => modifyCard_live ▸ old
  subst here
  have sum (dim : Dimension) : next.live.total (lentOn target.device dim) =
      amount ⟨id, none, some target.mem, some target.cores, .spot⟩ dim
        + inv.live.total (lentOn target.device dim) := by
    rw [total_insert inserted, lentOn, if_pos (by simp [Allocation.borrows, Allocation.isOn])]
    rfl
  rcases borrowable_cases borrows.room with ⟨-, nobody, whole⟩ | ⟨shares, positive, mem, cores⟩
  · have only : ∀ row ∈ next.live.rows, row.borrows target.device → row = _ := fun row isRow rowBorrows =>
      (member row isRow).resolve_right fun old => by simp [nobody row old] at rowBorrows
    refine ⟨fun last isLast dim => ?_, fun row isRow rowBorrows _ other isOther otherBorrows => ?_,
      fun last isLast row isRow rowBorrows _ => ?_⟩
    · have none : inv.live.total (lentOn target.device dim) = 0 :=
        total_eq_zero fun row isRow => if_neg (by simp [nobody row isRow])
      rw [size last isLast dim, sum, none, whole]
      cases dim <;> exact le_rfl
    · rw [only row isRow rowBorrows, only other isOther otherBorrows]
    · rw [size last isLast, only row isRow rowBorrows, whole]
      rfl
  · have plain : ∀ row ∈ next.live.rows, row.borrows target.device → ¬next.ofExclusive row := by
      intro row isRow rowBorrows exclusive
      rw [modes] at exclusive
      rcases member row isRow with rfl | old
      · exact shares (by simpa [ofExclusive, borrows.row] using exclusive)
      · exact lent.not_ofExclusive borrows.found positive mem old rowBorrows exclusive
    refine ⟨fun last isLast dim => ?_, fun row isRow rowBorrows exclusive =>
      absurd exclusive (plain row isRow rowBorrows), fun _ _ row isRow rowBorrows exclusive =>
      absurd exclusive (plain row isRow rowBorrows)⟩
    rw [size last isLast dim, sum, Nat.add_comm]
    cases dim
    · exact mem
    · exact cores

theorem LentWithin.write (write : Write inv next) : next.LentWithin dev := by
  by_cases kept : ∀ row ∈ next.live.rows, row.borrows dev → row ∈ inv.live.rows
  · exact lent.keep kept (fun row member => ofExclusive_write write member) fun last => write.kept
  · simp only [not_forall] at kept
    obtain ⟨row, member, borrows, new⟩ := kept
    rcases write.mem_live member with old | ⟨_, _, _, _, -, rfl⟩ | ⟨_, _, _, _, written, rfl⟩
    · exact absurd old new
    · simp [Allocation.borrows] at borrows
    · exact lent.borrow written (some.inj (borrows_iff.mp borrows).1)

theorem LentWithin.writes (writes : Writes inv next) : next.LentWithin dev := by
  induction writes with
  | refl => exact lent
  | tail _ write ih => exact ih.write write

/-- A demotion turns a borrow into a slice of one's own. -/
theorem LentWithin.vacated {first : SessionId}
    (vacated : inv.Vacated id first next) : next.LentWithin dev := by
  refine lent.keep (fun row member borrows => ?_) (fun _ _ => ofExclusive_of_session vacated.session)
    fun last => (vacated.traced kept_traces).exists_before
  cases vacated with
  | absent => exact member
  | loose | emptied => exact (mem_remove.mp member).1
  | promoted =>
    rcases mem_promoteBorrow.mp (mem_remove.mp member).1 with ⟨old, -⟩ | ⟨_, -, -, rfl⟩
    · exact old
    · simp [Allocation.borrows] at borrows

/-- The card a report gives a pod is one of its own. -/
theorem LentWithin.ensured {uuid : Option String}
    (ensured : inv.Ensured id holder uuid next) : next.LentWithin dev := by
  refine lent.keep (fun row member borrows => ?_) (fun _ _ => ofExclusive_of_session ensured.session)
    fun last => (ensured.traced kept_traces).exists_before
  cases ensured with
  | kept => exact member
  | loose recorded | bound _ _ recorded =>
    rcases (mem_record recorded).mp member with rfl | old
    · simp [Allocation.borrows] at borrows
    · exact old

theorem LentWithin.apply {transaction : Transaction}
    (taken : inv.apply transaction = some next) : next.LentWithin dev := by
  rcases apply_cases taken with writes | ⟨-, ⟨id, first, vacated, ended, writes⟩ |
    ⟨id, holder, uuid, bound, -, ensured, writes⟩⟩
  · exact lent.writes writes
  · exact (lent.vacated ended).writes writes
  · exact (lent.ensured ensured).writes writes

end

end Borrows

section Owners

/-- The sessions with slices of the card hold no more than there is of it, all of them asked for the kind
of slice that its pool gives, and one that took it whole is the only one. -/
structure OwnedWithin (dev : DeviceId) (inv : Inventory) : Prop where
  within : ∀ card ∈ inv.card dev, ∀ dim,
    inv.live.total (ownOn dev dim) ≤ card.total dim
  /-- A card is emptied before its pool changes. -/
  settled : ∀ card ∈ inv.card dev, card.modeState ≠ .ready →
    ∀ row ∈ inv.live.rows, row.occupies dev = false
  pooled : ∀ card ∈ inv.card dev, ∀ row ∈ inv.live.rows, row.occupies dev →
    (inv.ofExclusive row ↔ card.mode = some .exclusive)
  whole : ∀ card ∈ inv.card dev, ∀ row ∈ inv.live.rows, row.occupies dev →
    inv.ofExclusive row → row.amount .cores = card.total .cores
  alone : ∀ row ∈ inv.live.rows, row.occupies dev → inv.ofExclusive row →
    ∀ other ∈ inv.live.rows, other.occupies dev → other = row
  reports : ∀ card ∈ inv.card dev, 0 < card.totalCores

section

variable (owned : inv.OwnedWithin dev)

include owned

theorem OwnedWithin.keep (rows : ∀ row ∈ next.live.rows, row.occupies dev → row ∈ inv.live.rows)
    (modes : ∀ row ∈ inv.live.rows, next.ofExclusive row = inv.ofExclusive row)
    (cards : ∀ last ∈ next.card dev, ∃ first ∈ inv.card dev, first.Kept last) : next.OwnedWithin dev := by
  constructor
  · intro last isLast dim
    obtain ⟨first, isFirst, same⟩ := cards last isLast
    rw [same.total dim]
    refine le_trans (total_le_of_mem fun row member weighs => ?_) (owned.within first isFirst dim)
    exact rows row member (occupies_of_ownOn_ne_zero weighs)
  · intro last isLast moving row member
    obtain ⟨first, isFirst, same⟩ := cards last isLast
    by_contra occupies
    rw [not_eq_false] at occupies
    have free := owned.settled first isFirst (fun ready => moving (same.pool ready).2) row
      (rows row member occupies)
    simp [free] at occupies
  · intro last isLast row member occupies
    obtain ⟨first, isFirst, same⟩ := cards last isLast
    have old := rows row member occupies
    have ready : first.modeState = .ready := by
      by_contra moving
      simp [owned.settled first isFirst moving row old] at occupies
    rw [modes row old, (same.pool ready).1]
    exact owned.pooled first isFirst row old occupies
  · intro last isLast row member occupies exclusive
    obtain ⟨first, isFirst, same⟩ := cards last isLast
    have old := rows row member occupies
    rw [modes row old] at exclusive
    rw [same.total .cores, owned.whole first isFirst row old occupies exclusive]
  · intro row member occupies exclusive other among alsoOccupies
    have old := rows row member occupies
    rw [modes row old] at exclusive
    exact owned.alone row old occupies exclusive other (rows other among alsoOccupies) alsoOccupies
  · intro last isLast
    obtain ⟨first, isFirst, same⟩ := cards last isLast
    have sizes : last.totalCores = first.totalCores := same.total .cores
    rw [sizes]
    exact owned.reports first isFirst

omit owned in
theorem exclusive_of_placeable (meets : placeable holder card) :
    card.modeState = .ready ∧ (holder.mode = some .exclusive ↔ card.mode = some .exclusive) := by
  simp only [placeable, serves, Bool.and_eq_true, beq_iff_eq, Option.any_eq_true, Bool.or_eq_true] at meets
  obtain ⟨⟨⟨⟨-, ready⟩, -⟩, -⟩, mode, isMode, same | ⟨rfl, mig⟩⟩ := meets
  · exact ⟨ready, by rw [isMode, same]⟩
  · exact ⟨ready, by simp [isMode, mig]⟩

/-- An exclusive session gets a card that nobody has a slice of. -/
theorem OwnedWithin.unoccupied (found : inv.card dev = some card) (pool : card.mode = some .exclusive)
    (counted : inv.recount dev card = some card) (empty : card.usedCores = 0) :
    ∀ row ∈ inv.live.rows, row.occupies dev = false := by
  intro row member
  by_contra occupies
  rw [not_eq_false] at occupies
  have whole : row.amount .cores = card.totalCores := owned.whole card found row member occupies
    ((owned.pooled card found row member occupies).mpr pool)
  have counts := le_total member (ownOn dev .cores)
  have sum : card.usedCores = inv.live.total (ownOn dev .cores) := by
    obtain ⟨_, same⟩ := setUsed_eq_some counted
    exact congrArg usedCores same
  have positive := owned.reports card found
  rw [ownOn_of_occupies occupies, whole, ← sum, empty] at counts
  omega

omit owned in
/-- A booked slice stays within the card by its check constraint, the counters being the sums. -/
theorem Books.within (books : inv.Books id holder target card next)
    (dim : Dimension) : next.live.total (ownOn target.device dim) ≤ card.total dim := by
  obtain ⟨before, after, isBefore, set, recorded⟩ := (book_booked books.booked).card
  cases some.inj (books.found.symm.trans isBefore)
  obtain ⟨-, -, inserted⟩ := record_eq_some recorded
  have inserted : inv.live.insert _ = some next.live := inserted
  rw [total_insert inserted]
  obtain ⟨fits, -⟩ := setUsed_eq_some set
  obtain ⟨_, sums⟩ := setUsed_eq_some books.counted
  have memory : card.usedMemMb = inv.live.total (ownOn target.device .mem) :=
    congrArg usedMemMb sums
  have cores : card.usedCores = inv.live.total (ownOn target.device .cores) :=
    congrArg usedCores sums
  rw [memory, cores] at fits
  cases dim with
  | mem => simpa [ownOn, occupies, isOn, amount, Card.total,
      add_comm] using fits.1
  | cores => simpa [ownOn, occupies, isOn, amount, Card.total,
      add_comm] using fits.2

omit owned in
theorem OwnedWithin.whole_of_books
    (owned : inv.OwnedWithin target.device) (books : inv.Books id holder target card next)
    (exclusive : holder.mode = some .exclusive) : target.cores = card.totalCores ∧
      ∀ row ∈ inv.live.rows, row.occupies target.device = false := by
  have given := books.given
  rw [exclusive, beq_self_eq_true, slice_exclusive] at given
  split_ifs at given with empty
  obtain ⟨-, cores⟩ := Prod.mk.inj (some.inj given)
  obtain ⟨-, pool⟩ := exclusive_of_placeable books.meets
  exact ⟨cores.symm, owned.unoccupied books.found (pool.mp exclusive) books.counted empty.2⟩

theorem OwnedWithin.book
    (books : inv.Books id holder target card next) (here : target.device = dev) : next.OwnedWithin dev := by
  obtain ⟨before, after, isBefore, set, recorded⟩ := (book_booked books.booked).card
  cases some.inj (books.found.symm.trans isBefore)
  obtain ⟨cards, sessions, -⟩ := record_eq_some recorded
  subst here
  have modes : ∀ row, next.ofExclusive row = inv.ofExclusive row := fun row =>
    ofExclusive_of_session sessions
  have isNew : next.ofExclusive ⟨id, some target.device, some target.mem, some target.cores, .resident⟩ ↔
      holder.mode = some .exclusive := by
    rw [modes]
    simp [ofExclusive, books.row]
  have isLast : ∀ last ∈ next.card target.device, last = after := by
    intro last found
    rw [cards, mem_def, setCard_card, if_pos rfl] at found
    exact (some.inj found).symm
  have member : ∀ row ∈ next.live.rows, row = ⟨id, some target.device, some target.mem,
      some target.cores, .resident⟩ ∨ row ∈ inv.live.rows := fun row isRow =>
    (mem_record recorded).mp isRow
  obtain ⟨ready, pool⟩ := exclusive_of_placeable books.meets
  have kept := kept_setUsed set
  obtain ⟨sameMode, stillReady⟩ := kept.pool ready
  constructor
  · intro last found dim
    rw [isLast last found, kept.total dim]
    exact books.within dim
  · intro last found moving
    rw [isLast last found] at moving
    exact absurd stillReady moving
  · intro last found row isRow occupies
    rw [isLast last found, sameMode]
    rcases member row isRow with rfl | old
    · rw [isNew, pool]
    · rw [modes]
      exact owned.pooled card books.found row old occupies
  · intro last found row isRow occupies exclusive
    rw [isLast last found, kept.total .cores]
    rcases member row isRow with rfl | old
    · exact (owned.whole_of_books books (isNew.mp exclusive)).1
    · rw [modes] at exclusive
      exact owned.whole card books.found row old occupies exclusive
  · intro row isRow occupies exclusive other isOther alsoOccupies
    rw [modes] at exclusive
    have taken : holder.mode = some .exclusive := by
      rcases member row isRow with rfl | old
      · rw [← modes] at exclusive
        exact isNew.mp exclusive
      · exact pool.mpr ((owned.pooled card books.found row old occupies).mp exclusive)
    have nobody := (owned.whole_of_books books taken).2
    have isTheNew : ∀ row ∈ next.live.rows, row.occupies target.device →
        row = ⟨id, some target.device, some target.mem, some target.cores, .resident⟩ := by
      intro row isRow occupies
      rcases member row isRow with new | old
      · exact new
      · simp [nobody row old] at occupies
    rw [isTheNew row isRow occupies, isTheNew other isOther alsoOccupies]
  · intro last found
    have sizes : last.totalCores = card.totalCores := by
      rw [isLast last found]
      exact kept.total .cores
    rw [sizes]
    exact owned.reports card books.found

theorem OwnedWithin.write (write : Write inv next) : next.OwnedWithin dev := by
  by_cases kept : ∀ row ∈ next.live.rows, row.occupies dev → row ∈ inv.live.rows
  · exact owned.keep kept (fun row member => ofExclusive_write write member) fun last isLast =>
      write.kept isLast
  · simp only [not_forall] at kept
    obtain ⟨row, member, occupies, new⟩ := kept
    rcases write.mem_live member with old | ⟨_, _, _, _, written, rfl⟩ | ⟨_, _, _, _, -, rfl⟩
    · exact absurd old new
    · exact owned.book written (some.inj (occupies_iff.mp occupies).1)
    · simp [Allocation.occupies] at occupies

theorem OwnedWithin.writes (writes : Writes inv next) : next.OwnedWithin dev := by
  induction writes with
  | refl => exact owned
  | tail _ write ih => exact ih.write write

end

end Owners

end Inventory

end GShare.Model

namespace GShare.Soundness.Occupancy

open GShare.Model Machine Accounting Inventory Samples Allocation

/-- However borrows and returns follow each other, the borrowers of a card hold at most the card, and an
exclusive session that borrows it is its only borrower. -/
theorem borrowed_within_card {dev : DeviceId} {first last : Inventory} {transactions : List Transaction}
    (run : Run apply (fun _ _ => True) first transactions last)
    (unborrowed : ∀ row ∈ first.live.rows, row.borrows dev = false) :
    (∀ card ∈ last.card dev, ∀ dim, last.live.total (lentOn dev dim) ≤ card.total dim) ∧
    ∀ row ∈ last.live.rows, row.borrows dev → last.ofExclusive row →
      ∀ other ∈ last.live.rows, other.borrows dev → other = row := by
  have initial : first.LentWithin dev := by
    have nobody : ∀ row ∈ first.live.rows, row.borrows dev ≠ true := fun row member => by
      simp [unborrowed row member]
    constructor
    · intro card _ dim
      have none : first.live.total (lentOn dev dim) = 0 :=
        Roster.total_eq_zero fun row member => if_neg (nobody row member)
      exact none ▸ Nat.zero_le _
    · exact fun row member borrows => absurd borrows (nobody row member)
    · exact fun card _ row member borrows => absurd borrows (nobody row member)
  have final := run.invariant initial fun _ _ _ _ taken lent => lent.apply taken
  exact ⟨final.within, final.alone⟩

/-- A preemptible session that asks for a part of a card. -/
def sharingHolder (mem cores : ℕ) : Holder :=
  { exclusiveHolder .cold true with
    mode := some .fractional, gpuMemMb := some mem, gpuCores := some cores }

/-- Two sessions share a yielded card, one of them ends, and a third wants the whole card. -/
def shareYielded : List Transaction :=
  yieldsCard 0 ++
    [.persist 1 (sharingHolder 8192 30), .borrow 1 theCard, .persist 2 (sharingHolder 16384 70),
      .borrow 2 theCard, .release 1] ++ asksForCard 3

theorem borrowed_within_card_shared :
    ∃ last, Run apply (fun _ _ => True) oneCard shareYielded last ∧
      (∀ card ∈ last.card 0, ∀ dim, last.live.total (lentOn 0 dim) ≤ card.total dim) ∧
      ∀ row ∈ last.live.rows, row.borrows 0 → last.ofExclusive row →
        ∀ other ∈ last.live.rows, other.borrows 0 → other = row :=
  exists_run_imp (fun _ => True) (by decide +kernel) fun _ run _ => borrowed_within_card run (by decide)

/-- However reservations and releases follow each other, the slices of a card that began without any add up
to at most the card, and a card that an exclusive session has is no other session's. -/
theorem owned_within_card {dev : DeviceId} {first last : Inventory} {transactions : List Transaction}
    (run : Run apply (fun inv transaction => transaction.admits inv) first transactions last)
    (unowned : ∀ row ∈ first.live.rows, row.occupies dev = false)
    (reports : ∀ card ∈ first.card dev, 0 < card.totalCores) : (∀ card ∈ last.card dev,
      last.live.total (memOn dev) ≤ card.totalMemMb ∧
      last.live.total (coresOn dev) ≤ card.totalCores) ∧
    ∀ row ∈ last.live.rows, row.occupies dev → last.ofExclusive row →
      ∀ other ∈ last.live.rows, other.occupies dev → other = row := by
  have initial : first.OwnedWithin dev := by
    have nobody {P : Allocation → Prop} : ∀ row ∈ first.live.rows, row.occupies dev → P row :=
      fun row member occupies => by simp [unowned row member] at occupies
    refine ⟨fun card _ dim => ?_, fun _ _ _ => unowned, fun _ _ => nobody, fun _ _ => nobody, nobody, reports⟩
    have none : first.live.total (ownOn dev dim) = 0 :=
      Roster.total_eq_zero fun row member => by simp [ownOn, unowned row member]
    exact none ▸ Nat.zero_le _
  have final := run.invariant initial fun _ _ _ admits taken owned =>
    owned.writes (apply_writes taken admits)
  exact ⟨fun card found => ⟨final.within card found .mem, final.within card found .cores⟩, final.alone⟩

/-- A session takes the card, ends, and the next one takes it; a third finds it taken. -/
def takeTurns : List Transaction :=
  asksForCard 0 ++ [.claim 0, .release 0, .finish 0] ++ asksForCard 1 ++ asksForCard 2

theorem owned_within_card_turns :
    ∃ last, Run apply (fun inv transaction => transaction.admits inv) oneCard takeTurns last ∧
      (∀ card ∈ last.card 0, last.live.total (memOn 0) ≤ card.totalMemMb ∧
        last.live.total (coresOn 0) ≤ card.totalCores) ∧
      ∀ row ∈ last.live.rows, row.occupies 0 → last.ofExclusive row →
        ∀ other ∈ last.live.rows, other.occupies 0 → other = row :=
  exists_run_imp (fun _ => True) (by decide +kernel) fun _ run _ =>
    owned_within_card run (by decide) (by decide)

end GShare.Soundness.Occupancy
