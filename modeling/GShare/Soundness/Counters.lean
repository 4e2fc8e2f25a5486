import GShare.Machine.Run
import GShare.Proofs.Device.Effects
import GShare.Soundness.Samples

/-! # The counters of a card and its live allocations

Each writer of the counters changes them for the one allocation it creates or closes. They stay equal to
the sum over the card's live allocations as long as every allocation is taken back as it was counted: a
borrow is never taken back at all, an exclusive one is recorded with the amounts of the whole card, who
overwrites the counters leaves no other allocation on the card, and a release inside of a longer call works
on what the rows say.
-/

namespace GShare.Model

open Accounting Allocation Roster Card Option Bool Prod

instance (holds : Dimension → Prop) [DecidablePred holds] : Decidable (∀ dim, holds dim) :=
  decidable_of_iff (holds .mem ∧ holds .cores) ⟨fun both dim => by cases dim; exacts [both.1, both.2],
    fun all => ⟨all .mem, all .cores⟩⟩

variable {query : Query} {card : Card} {borrow : Allocation} {alter : Holder → Holder} {placed : Bool}

namespace Inventory

def ofExclusive (inv : Inventory) (alloc : Allocation) : Bool :=
  (inv.session alloc.session).any (·.mode == some .exclusive)

/-- What an allocation counts for on a card of some size: a borrow nothing, an exclusive one the whole
card, any other what it records. -/
def counted (inv : Inventory) (dev : DeviceId) (size : ℕ) (dim : Dimension) (alloc : Allocation) : ℕ :=
  if alloc.occupies dev then
    if inv.ofExclusive alloc then size else alloc.amount dim
  else 0

/-- The counters of the card are the sums over its live allocations. -/
def Balanced (dev : DeviceId) (inv : Inventory) : Prop :=
  ∀ card ∈ inv.card dev, ∀ dim,
    card.used dim = inv.live.total (inv.counted dev (card.total dim) dim)

variable {inv middle next : Inventory} {dev : DeviceId} {id : SessionId} {size : ℕ}
variable {alloc row : Allocation} {holder : Holder} {dim : Dimension}

theorem counted_congr (same : next.ofExclusive row = inv.ofExclusive row) :
    next.counted dev size dim row = inv.counted dev size dim row := by
  rw [counted, counted, same]

theorem ofExclusive_of_session (same : next.session = inv.session) :
    next.ofExclusive row = inv.ofExclusive row := by
  rw [ofExclusive, ofExclusive, same]

theorem ofExclusive_modifySession (keeps : ∀ holder, (alter holder).mode = holder.mode) :
    (inv.modifySession id alter).ofExclusive row = inv.ofExclusive row := by
  simp only [ofExclusive, modifySession_session]
  split_ifs
  · cases inv.session row.session with
    | none => rfl
    | some holder => simp [keeps]
  · rfl

section

variable (balanced : inv.Balanced dev)

include balanced

/-- Nothing that is counted changes. -/
theorem Balanced.keep (live : next.live = inv.live)
    (modes : ∀ row ∈ inv.live.rows, next.ofExclusive row = inv.ofExclusive row)
    (cards : ∀ after ∈ next.card dev, ∃ before ∈ inv.card dev, ∀ dim,
      after.used dim = before.used dim ∧ after.total dim = before.total dim) : next.Balanced dev := by
  intro after found dim
  obtain ⟨before, isBefore, same⟩ := cards after found
  rw [(same dim).1, (same dim).2, balanced before isBefore dim, live]
  exact total_congr fun row member => (counted_congr (modes row member)).symm

theorem Balanced.modifySession (keeps : ∀ holder, (alter holder).mode = holder.mode) :
    (inv.modifySession id alter).Balanced dev :=
  balanced.keep rfl (fun _ _ => ofExclusive_modifySession keeps) fun card found =>
    ⟨card, found, fun _ => ⟨rfl, rfl⟩⟩

/-- Nor do the columns of a card beside its counters and its size. -/
theorem Balanced.modifyCard (place : DeviceId) {change : Card → Card}
    (keeps : ∀ card dim, (change card).used dim = card.used dim ∧ (change card).total dim = card.total dim) :
    (inv.modifyCard place change).Balanced dev := by
  refine balanced.keep modifyCard_live (fun _ _ => ofExclusive_of_session modifyCard_session) ?_
  intro after found
  rw [modifyCard_card] at found
  split_ifs at found
  · obtain ⟨before, isBefore, rfl⟩ := map_eq_some_iff.mp found
    exact ⟨before, isBefore, keeps before⟩
  · exact ⟨after, found, fun _ => ⟨rfl, rfl⟩⟩

theorem Balanced.modifyLendState (place : DeviceId) (state : LendState) :
    (inv.modifyCard place fun card => { card with lendState := state }).Balanced dev :=
  balanced.modifyCard place fun _ dim => by cases dim <;> exact ⟨rfl, rfl⟩

/-- A new allocation is counted by what its writer adds to the card. -/
theorem Balanced.record (recorded : middle.record alloc = some next) (live : middle.live = inv.live)
    (sess : middle.session = inv.session)
    (cards : ∀ after ∈ middle.card dev, ∃ before ∈ inv.card dev, ∀ dim,
      after.total dim = before.total dim ∧
      after.used dim = inv.counted dev (before.total dim) dim alloc + before.used dim) :
    next.Balanced dev := by
  obtain ⟨sameCards, sameSessions, inserted⟩ := record_eq_some recorded
  rw [live] at inserted
  intro after found dim
  rw [sameCards] at found
  obtain ⟨before, isBefore, grown⟩ := cards after found
  rw [(grown dim).1, (grown dim).2, balanced before isBefore dim, total_insert inserted]
  simp only [counted_congr (ofExclusive_of_session (sameSessions.trans sess))]
  congr 1
  exact total_congr fun row _ =>
    (counted_congr (ofExclusive_of_session (sameSessions.trans sess))).symm

/-- A closed one is counted no more if what it counted for is handed back. -/
theorem Balanced.close {handBack : Card → Allocation → Card}
    (sizes : ∀ card alloc dim, (handBack card alloc).total dim = card.total dim)
    (returned : ∀ alloc ∈ inv.live.find? id, alloc.isOn dev → ∀ card ∈ inv.card dev, ∀ dim,
        (handBack card alloc).used dim = card.used dim - inv.counted dev (card.total dim) dim alloc) :
    (inv.close id handBack).Balanced dev := by
  cases found : inv.live.find? id with
  | none => rwa [close_of_none found]
  | some alloc =>
    intro after isAfter dim
    have sameCount : ∀ size row, (inv.close id handBack).counted dev size dim row
        = inv.counted dev size dim row := fun size row =>
      counted_congr (ofExclusive_of_session close_session)
    rw [total_congr fun row _ => sameCount (after.total dim) row]
    rw [mem_def, close_card found] at isAfter
    split_ifs at isAfter with here
    · obtain ⟨before, isBefore, rfl⟩ := map_eq_some_iff.mp isAfter
      have split := total_close found handBack (inv.counted dev (before.total dim) dim)
      rw [returned alloc found here before isBefore dim, sizes, balanced before isBefore dim]
      omega
    · have split := total_close found handBack (inv.counted dev (after.total dim) dim)
      have nothing : inv.counted dev (after.total dim) dim alloc = 0 := by
        simp [counted, occupies, here]
      rw [balanced after isAfter dim]
      omega

end

def RecordedInFull (inv : Inventory) (dev : DeviceId) (row : Allocation) : Prop :=
  row.occupies dev → inv.ofExclusive row →
    ∀ card ∈ inv.card dev, ∀ dim, row.amount dim = card.total dim

/-- So does the live allocation of a session. -/
def OwnRecordedInFull (inv : Inventory) (dev : DeviceId) (id : SessionId) : Prop :=
  ∀ row ∈ inv.live.find? id, inv.RecordedInFull dev row

theorem counted_of_recordedInFull (full : inv.RecordedInFull dev row) (found : card ∈ inv.card dev) :
    inv.counted dev (card.total dim) dim row = if row.occupies dev then row.amount dim else 0 := by
  unfold counted
  split_ifs with here exclusive
  · exact (full here exclusive card found dim).symm
  · rfl
  · rfl

section

variable (balanced : inv.Balanced dev)

include balanced

theorem balanced_releaseAllocation
    (full : inv.OwnRecordedInFull dev id) : (inv.releaseAllocation id).Balanced dev := by
  refine balanced.close (fun _ _ _ => total_release) fun row found here card isCard dim => ?_
  rw [counted_of_recordedInFull (full row found) isCard]
  cases kind : row.kind with
  | spot => simp [used_release_spot kind, occupies, kind]
  | resident => simp [used_release_resident kind, occupies, here, kind]

theorem balanced_releaseReservation (full : inv.OwnRecordedInFull dev id)
    (own : ∀ row ∈ inv.live.find? id, row.borrows dev = false) :
    (inv.releaseReservation id).Balanced dev := by
  refine Balanced.modifySession ?_ fun holder => by split_ifs <;> rfl
  refine balanced.close (fun _ _ _ => total_rollBack) fun row found here card isCard dim => ?_
  have resident : row.kind = .resident := by
    cases kind : row.kind with
    | resident => rfl
    | spot =>
      have borrows := borrows_iff.mpr ⟨isOn_iff.mp here, kind⟩
      exact absurd borrows (by simp [own row found])
  rw [counted_of_recordedInFull (full row found) isCard]
  simp [occupies, here, resident]

/-- The recomputed counters are the sums again if every allocation on the card is recorded in full. -/
theorem balanced_reconciled {devices : List DeviceId} (reconciled : inv.Reconciled devices next)
    (full : dev ∈ devices → ∀ row ∈ inv.live.rows, inv.RecordedInFull dev row) : next.Balanced dev := by
  refine balanced.keep reconciled.live (fun _ _ => ofExclusive_of_session reconciled.session) ?_
  intro after found
  rcases reconciled.card dev with kept | ⟨listed, before, _, isBefore, isAfter, set⟩
  · exact ⟨after, kept ▸ found, fun _ => ⟨rfl, rfl⟩⟩
  · cases some.inj (found.symm.trans isAfter)
    refine ⟨before, isBefore, fun dim => ⟨?_, total_setUsed set⟩⟩
    have sums : ∀ dim, inv.live.total (inv.counted dev (before.total dim) dim)
        = inv.live.total fun row => if row.occupies dev then row.amount dim else 0 := fun dim =>
      total_congr fun row member => counted_of_recordedInFull (full listed row member) isBefore
    rw [balanced before isBefore dim, sums dim]
    exact used_setUsed (fun dim => inv.live.total fun row =>
      if row.occupies dev then row.amount dim else 0) set

theorem balanced_booked {target : Target}
    (row : inv.session id = some holder) (found : inv.card target.device = some card)
    (whole : holder.mode = some .exclusive → target.mem = card.totalMemMb ∧ target.cores = card.totalCores)
    (booked : inv.Booked id target next) : next.Balanced dev := by
  obtain ⟨before, after, isBefore, set, recorded⟩ := booked.card
  cases some.inj (found.symm.trans isBefore)
  refine balanced.record recorded rfl rfl fun last isLast => ?_
  rw [mem_def, setCard_card] at isLast
  split_ifs at isLast with here
  · cases isLast
    refine ⟨card, here ▸ found, fun dim => ⟨total_setUsed set, ?_⟩⟩
    have grown : after.used dim = _ := used_setUsed (fun dim => card.used dim + amount
      ⟨id, some target.device, some target.mem, some target.cores, .resident⟩ dim) set
    simp only [grown, counted, occupies, isOn, ofExclusive, row, here,
      beq_self_eq_true, Bool.and_self, if_true, Option.any_some, beq_iff_eq]
    split_ifs with exclusive
    · obtain ⟨mem, cores⟩ := whole exclusive
      rw [mem, cores, Nat.add_comm]
      cases dim <;> rfl
    · exact Nat.add_comm _ _
  · refine ⟨last, isLast, fun dim => ⟨rfl, ?_⟩⟩
    simp [counted, occupies, isOn, Ne.symm here]

theorem balanced_spotReserved
    (reserved : inv.SpotReserved id holder query next placed) : next.Balanced dev := by
  cases reserved with
  | refused => exact balanced
  | @placed _ target card chosen found lendable borrowed =>
    have lent := balanced.modifyLendState target.device .lent
    refine lent.record borrowed rfl rfl fun after isAfter => ⟨after, isAfter, fun dim => ⟨rfl, ?_⟩⟩
    simp [counted, occupies]

section

variable (known : inv.session id = some holder)
variable (full : dev ∈ (inv.candidates query.devices (placeable holder)).map fst →
  ∀ row ∈ inv.live.rows, inv.RecordedInFull dev row)

include known full

theorem balanced_reserved (reserved : inv.Reserved id holder query next placed) : next.Balanced dev := by
  cases reserved with
  | refused reconciled => exact balanced_reconciled balanced reconciled full
  | placed reconciled listed found whole booked =>
    have corrected := balanced_reconciled balanced reconciled full
    exact balanced_booked corrected (by rw [reconciled.session, known]) found whole booked

end

/-- The card that a running report binds an exclusive session to has no other occupant. -/
def BindsAlone (inv : Inventory) (dev : DeviceId) (id : SessionId) (holder : Holder)
    (uuid : Option String) : Prop :=
  holder.mode = some .exclusive → inv.live.find? id = none →
    (inv.resolveDevice holder uuid).map fst = some dev →
      ∀ row ∈ inv.live.rows, row.occupies dev = false

theorem balanced_ensured {uuid : Option String}
    (row : inv.session id = some holder) (ensured : inv.Ensured id holder uuid next)
    (alone : inv.BindsAlone dev id holder uuid) : next.Balanced dev := by
  cases ensured with
  | kept => exact balanced
  | loose recorded =>
    refine balanced.record recorded rfl rfl fun after isAfter => ⟨after, isAfter, fun dim => ⟨rfl, ?_⟩⟩
    simp [counted, occupies, isOn]
  | @bound _ place card after resolved bumped recorded =>
    refine balanced.record recorded rfl rfl fun last isLast => ?_
    rw [mem_def, setCard_card] at isLast
    split_ifs at isLast with here
    · subst here
      cases isLast
      have found := resolveDevice_card resolved
      have free := find?_of_record recorded
      have counts : ∀ dim, inv.counted dev (card.total dim) dim
          ⟨id, some dev, holder.gpuMemMb, holder.gpuCores, .resident⟩ =
            if holder.mode = some .exclusive then card.total dim
            else (⟨id, some dev, holder.gpuMemMb, holder.gpuCores, .resident⟩ : Allocation).amount dim := by
        intro dim
        simp [counted, occupies, isOn, ofExclusive, row]
      unfold bumpDeviceUsage at bumped
      split_ifs at bumped with exclusive
      · -- The counters are overwritten with the size of the card, which nobody else occupies.
        have empty : ∀ dim, card.used dim = 0 := by
          intro dim
          rw [balanced card found dim]
          refine total_eq_zero fun other member => ?_
          have elsewhere := alone exclusive free (by rw [resolved]; rfl) other member
          simp [counted, elsewhere]
        refine ⟨card, found, fun dim => ⟨total_setUsed bumped, ?_⟩⟩
        rw [counts, if_pos exclusive, empty]
        exact used_setUsed card.total bumped
      · refine ⟨card, found, fun dim => ⟨total_setUsed bumped, ?_⟩⟩
        rw [counts, if_neg exclusive, Nat.add_comm]
        exact used_setUsed (fun dim => card.used dim + amount
          ⟨id, some dev, holder.gpuMemMb, holder.gpuCores, .resident⟩ dim) bumped
    · refine ⟨last, isLast, fun dim => ⟨rfl, ?_⟩⟩
      simp [counted, occupies, isOn, Ne.symm here]

/-- What a demotion writes for the borrower it promotes. -/
def promotedUse (borrow : Allocation) (card : Card) : Dimension → ℕ
  | .mem => orElse borrow.gpuMemMb card.totalMemMb
  | .cores => orElse borrow.gpuCores card.totalCores

/-- The session that loses the card is its only occupant, and what is written for the borrower is what
that one counts for. -/
def DemotesAlone (inv : Inventory) (dev : DeviceId) (id first : SessionId) : Prop :=
  ∀ row ∈ inv.resident? id, row.isOn dev →
    (∀ other ∈ inv.live.rows, other.occupies dev → other.session = id) ∧
    ∀ borrow ∈ inv.firstBorrow dev first, ∀ card ∈ inv.card dev, ∀ dim,
      promotedUse borrow card dim =
        if inv.ofExclusive borrow then card.total dim else borrow.amount dim

theorem Balanced.elsewhere
    (sess : next.session = inv.session) (card : next.card dev = inv.card dev)
    (sums : ∀ size dim, next.live.total (inv.counted dev size dim)
      = inv.live.total (inv.counted dev size dim)) : next.Balanced dev := by
  intro found isFound dim
  rw [balanced found (card ▸ isFound) dim, ← sums]
  exact total_congr fun row _ => (counted_congr (ofExclusive_of_session sess)).symm

end

theorem counted_of_not_occupies (elsewhere : row.occupies dev = false) :
    inv.counted dev size dim row = 0 := by
  simp [counted, elsewhere]

/-- Ending an allocation that is not on the card leaves the sums over it. -/
theorem total_remove_elsewhere {roster : Roster Allocation.session}
    (found : roster.find? id = some alloc) (elsewhere : alloc.occupies dev = false) :
    (roster.remove id).total (inv.counted dev size dim) = roster.total (inv.counted dev size dim) := by
  rw [total_remove found, counted_of_not_occupies elsewhere, zero_add]

/-- When nobody else weighs anything, the promoted borrow is the whole sum. -/
theorem total_promoted {weight : Allocation → ℕ}
    (isBorrow : borrow ∈ inv.live.rows) (another : borrow.session ≠ id)
    (others : ∀ other ∈ inv.live.rows, other.session ≠ borrow.session → other.session ≠ id →
      weight other = 0) : ((inv.promoteBorrow borrow.session).remove id).total weight
      = weight { borrow with kind := .resident } := by
  refine total_eq_of_only (find?_eq_some_iff.mpr ⟨mem_remove.mpr
    ⟨mem_promoteBorrow.mpr (.inr ⟨borrow, isBorrow, rfl, rfl⟩), another⟩, rfl⟩) ?_
  intro other member apart
  obtain ⟨member, kept⟩ := mem_remove.mp member
  rcases mem_promoteBorrow.mp member with ⟨member, -⟩ | ⟨row, -, same, rfl⟩
  · exact others other member apart kept
  · exact absurd same apart

section

variable (own : inv.resident? id = some alloc)

include own

theorem resident?_find? : inv.live.find? id = some alloc :=
  (filter_eq_some_iff.mp own).1

/-- Neither end of a promotion on another card is counted here. -/
theorem total_promoted_elsewhere {place : DeviceId} (at_place : alloc.device = some place)
    (isBorrow : borrow ∈ inv.live.rows) (borrows : borrow.borrows place) (apart : dev ≠ place) :
    ((inv.promoteBorrow borrow.session).remove id).total (inv.counted dev size dim)
      = inv.live.total (inv.counted dev size dim) := by
  obtain ⟨isOwn, sameId, -⟩ := resident?_eq_some.mp own
  have another := session_ne_of_borrows own isBorrow borrows
  have kept : (inv.promoteBorrow borrow.session).find? id = some alloc :=
    find?_eq_some_iff.mpr
      ⟨mem_promoteBorrow.mpr (.inl ⟨isOwn, fun same => another (same.symm.trans sameId)⟩), sameId⟩
  rw [total_remove_elsewhere kept (by simp [Allocation.occupies, isOn, at_place, Ne.symm apart])]
  refine total_revise fun row member same => ?_
  cases eq_of_key member isBorrow same
  have place := (borrows_iff.mp borrows).1
  rw [counted_of_not_occupies (by simp [Allocation.occupies, isOn, place, Ne.symm apart]),
    counted_of_not_occupies (by simp [Allocation.occupies, isOn, place, Ne.symm apart])]

theorem balanced_promoted {after : Card} (isBorrow : borrow ∈ inv.live.rows)
    (borrows : borrow.borrows dev)
    (set : card.setUsed (promotedUse borrow card .mem) (promotedUse borrow card .cores) = some after)
    (only : ∀ other ∈ inv.live.rows, other.occupies dev → other.session = id)
    (promotes : ∀ dim, promotedUse borrow card dim =
      if inv.ofExclusive borrow then card.total dim else borrow.amount dim) :
    Balanced dev { inv.setCard dev { after with lendState := .normal } with
      live := (inv.promoteBorrow borrow.session).remove id } := by
  intro last isLast dim
  rw [mem_def, setCard_card, if_pos rfl] at isLast
  cases isLast
  have written : after.used dim = promotedUse borrow card dim :=
    used_setUsed (promotedUse borrow card) set
  have sole : ((inv.promoteBorrow borrow.session).remove id).total
      (inv.counted dev (card.total dim) dim) = _ :=
    total_promoted isBorrow (session_ne_of_borrows own isBorrow borrows) fun other member _ kept =>
      counted_of_not_occupies (not_eq_true _ ▸ fun occupies => kept (only other member occupies))
  calc
    _ = after.used dim := by cases dim <;> rfl
    _ = inv.counted dev (card.total dim) dim { borrow with kind := .resident } := by
      rw [written, promotes dim]
      simp only [counted, occupies, isOn, (borrows_iff.mp borrows).1,
        beq_self_eq_true, Bool.and_self, if_true]
      rfl
    _ = _ := by
      rw [← sole, ← total_setUsed set]
      rfl

end

section

variable (balanced : inv.Balanced dev)

include balanced

theorem balanced_vacated {first : SessionId}
    (vacated : inv.Vacated id first next) (alone : inv.DemotesAlone dev id first) : next.Balanced dev := by
  cases vacated with
  | absent => exact balanced
  | @loose alloc own nowhere =>
    cases here : alloc.isOn dev with
    | true =>
      intro card found
      exact absurd found (nowhere dev card (isOn_iff.mp here))
    | false =>
      refine balanced.elsewhere rfl rfl fun size dim =>
        total_remove_elsewhere (resident?_find? own) (by simp [Allocation.occupies, here])
  | @emptied alloc place card after own at_place found free set =>
    by_cases here : dev = place
    · subst here
      obtain ⟨only, -⟩ := alone alloc own (isOn_iff.mpr at_place)
      intro last isLast dim
      rw [mem_def, setCard_card, if_pos rfl] at isLast
      cases isLast
      have empty : after.used dim = 0 := used_setUsed (fun _ => 0) set
      refine Eq.trans (by cases dim <;> exact empty) (total_eq_zero fun other member => ?_).symm
      obtain ⟨member, differs⟩ := mem_remove.mp member
      exact counted_of_not_occupies
        (not_eq_true _ ▸ fun occupies => differs (only other member occupies))
    · refine balanced.elsewhere rfl (by rw [setCard_card, if_neg here]) fun size dim =>
        total_remove_elsewhere (resident?_find? own) ?_
      simp [Allocation.occupies, isOn, at_place, Ne.symm here]
  | @promoted alloc borrow place card after own at_place found borrowed set =>
    obtain ⟨isBorrow, borrows⟩ := firstBorrow_eq_some borrowed
    by_cases here : dev = place
    · subst here
      obtain ⟨only, promotes⟩ := alone alloc own (isOn_iff.mpr at_place)
      exact balanced_promoted own isBorrow borrows set only (promotes borrow borrowed card found)
    · exact balanced.elsewhere rfl (by rw [setCard_card, if_neg here]) fun size dim =>
        total_promoted_elsewhere own at_place isBorrow borrows here

/-- What a report comes to takes off the card what was counted, or binds a session to a card it has for
itself. -/
def VerdictCountsInFull (dev : DeviceId) (inv : Inventory) (id : SessionId) (holder : Holder)
    (event : StatusEvent) : Verdict → Prop
  | .bind => inv.BindsAlone dev id holder event.boundGpuUuid
  | .pause => event.yielded = false → inv.OwnRecordedInFull dev id
  | .finish _ => inv.OwnRecordedInFull dev id
  | .ignore | .advance _ => True

/-- The transaction takes nothing off the card that is not counted there, and leaves nothing counted
that it overwrites. -/
def CountsInFull (dev : DeviceId) (inv : Inventory) : Transaction → Prop
  | .place id query _ | .resumeCold id query => ∀ holder ∈ inv.session id,
      dev ∈ (inv.candidates query.devices (placeable holder)).map fst →
        ∀ row ∈ inv.live.rows, inv.RecordedInFull dev row
  | .rollBack id => inv.OwnRecordedInFull dev id ∧
      ∀ row ∈ inv.live.find? id, row.borrows dev = false
  | .pause id .cold | .release id => inv.OwnRecordedInFull dev id
  | .demote id first => inv.DemotesAlone dev id first
  | .report id event stale => ∀ holder ∈ inv.session id,
      VerdictCountsInFull dev inv id holder event (verdict holder event stale)
  | _ => True

omit balanced in
theorem recordedInFull_verdict {event : StatusEvent} {stale : Bool} {decision : Verdict}
    (full : CountsInFull dev inv (.report id event stale)) (row : inv.session id = some holder)
    (decided : verdict holder event stale = decision) :
    VerdictCountsInFull dev inv id holder event decision :=
  decided ▸ full holder row

theorem balanced_marked (place : Option DeviceId) : (inv.marked place).Balanced dev := by
  cases place with
  | none => exact balanced
  | some place => exact balanced.modifyLendState place .yielded

/-- One transaction keeps the counters equal to the sums. -/
theorem Balanced.apply {transaction : Transaction} (full : CountsInFull dev inv transaction)
    (run : inv.apply transaction = some next) : next.Balanced dev := by
  cases apply_effect run with
  | persisted fresh idle =>
    refine balanced.keep rfl (fun row member => ?_) fun card found => ⟨card, found, fun _ => ⟨rfl, rfl⟩⟩
    have another := find?_eq_none_iff.mp idle row member
    simp [ofExclusive, Function.update_of_ne another]
  | placed row reserved | blocked row reserved =>
    exact balanced_reserved balanced row (full _ row) (reserveSlice_reserved reserved)
  | lent row reserved borrowed =>
    have between := balanced_reserved balanced row (full _ row) (reserveSlice_reserved reserved)
    exact balanced_spotReserved between (reserveSpotSlice_reserved borrowed)
  | borrowed row reserved => exact balanced_spotReserved balanced (reserveSpotSlice_reserved reserved)
  | rolledBack => exact balanced_releaseReservation balanced full.1 full.2
  | yielded | reportedYield => exact (balanced_marked balanced _).modifySession fun _ => rfl
  | paused => exact (balanced_releaseAllocation balanced full).modifySession fun _ => rfl
  | resumed row reserved =>
    have placed := balanced_reserved balanced row (full _ row) (reserveSlice_reserved reserved)
    exact placed.modifySession fun _ => rfl
  | held | finished | advanced => exact balanced.modifySession fun _ => rfl
  | cleared => exact balanced.modifyLendState _ .normal
  | demoted vacated => exact (balanced_vacated balanced vacated full).modifySession fun _ => rfl
  | claimed => exact balanced.modifySession fun _ => by split_ifs <;> rfl
  | released => exact balanced_releaseAllocation balanced full
  | ignored => exact balanced
  | bound row decided ensured =>
    have alone := recordedInFull_verdict full row decided
    exact (balanced_ensured balanced row ensured alone).modifySession fun _ => rfl
  | reportedPause row decided gone =>
    have own := recordedInFull_verdict full row decided gone
    exact (balanced_releaseAllocation balanced own).modifySession fun _ => rfl
  | ended row decided =>
    have own := recordedInFull_verdict full row decided
    exact (balanced_releaseAllocation balanced own).modifySession fun _ => by split_ifs <;> rfl

end

end Inventory

end GShare.Model

namespace GShare.Soundness.Counters

open GShare.Model Machine Inventory Samples

/-- From an empty card on, its counters are the sums over its live allocations that are no borrows, after
every transaction. -/
theorem counters_eq_live {dev : DeviceId} {first last : Inventory} {calls : List (Transaction × Loaded)}
    (empty : ∀ row ∈ first.live.rows, row.isOn dev = false)
    (zero : ∀ card ∈ first.card dev, card.usedMemMb = 0 ∧ card.usedCores = 0)
    (run : Run perform (OnFresh (CountsInFull dev)) first calls last) : ∀ card ∈ last.card dev,
      card.usedMemMb = last.live.total (last.counted dev card.totalMemMb .mem) ∧
      card.usedCores = last.live.total (last.counted dev card.totalCores .cores) := by
  have balanced : last.Balanced dev := by
    apply (run_of_onFresh run).invariant
    · intro card found dim
      rw [Accounting.Roster.total_eq_zero fun row member =>
        counted_of_not_occupies (by simp [Allocation.occupies, empty row member])]
      cases dim with
      | mem => exact (zero card found).1
      | cores => exact (zero card found).2
    · intro inv transaction next full taken balanced
      exact balanced.apply full taken
  exact fun card found => ⟨balanced card found .mem, balanced card found .cores⟩

variable {inv : Inventory} {dev : DeviceId} {id : SessionId} {holder : Holder}

instance (row : Allocation) : Decidable (inv.RecordedInFull dev row) := by
  unfold RecordedInFull
  infer_instance

instance : Decidable (inv.OwnRecordedInFull dev id) := by
  unfold OwnRecordedInFull
  infer_instance

instance (uuid : Option String) : Decidable (inv.BindsAlone dev id holder uuid) := by
  unfold BindsAlone
  infer_instance

instance (first : SessionId) : Decidable (inv.DemotesAlone dev id first) := by
  unfold DemotesAlone
  infer_instance

instance (event : StatusEvent) (decided : Verdict) :
    Decidable (VerdictCountsInFull dev inv id holder event decided) := by
  unfold VerdictCountsInFull
  split <;> infer_instance

instance (transaction : Transaction) : Decidable (CountsInFull dev inv transaction) := by
  unfold CountsInFull
  split <;> infer_instance

/-- A card is placed, yielded, borrowed, left to the borrower by a demotion and released: the counters
are back at the sum of what is left. -/
theorem counters_eq_live_demoted : ∃ last, Run perform (OnFresh (CountsInFull 0)) oneCard
        (afresh (yieldsCard 0 ++ asksForCard 1 ++ [.demote 0 1])) last ∧ ∀ card ∈ last.card 0,
        card.usedMemMb = last.live.total (last.counted 0 card.totalMemMb .mem) ∧
        card.usedCores = last.live.total (last.counted 0 card.totalCores .cores) :=
  exists_run_imp (fun _ => True) (by decide +kernel) fun _ run _ =>
    counters_eq_live (by decide) (by decide) run

/-- The handoff of a borrower fails: its rollback takes the borrow off the counters of the resident, who
still has the whole card. -/
theorem counters_rolled_back : ∃ last, Run apply (fun _ _ => True) oneCard
        (yieldsCard 0 ++ asksForCard 1 ++ [.rollBack 1]) last ∧
      (last.card 0).map (·.usedMemMb) = some 0 ∧
      last.live.total (last.counted 0 emptyCard.totalMemMb .mem) = 24576 :=
  exists_run_of_execute (by decide +kernel)

end GShare.Soundness.Counters
