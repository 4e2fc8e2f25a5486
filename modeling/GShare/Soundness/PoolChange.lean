import GShare.Soundness.ModeChange
import GShare.Soundness.Occupancy

/-! # The pool of a card that is in use

A card changes its pool when it is drained, and an empty card is one without a live allocation: every slice
counts, and a borrowed card is not idle. The inventory sync writes the pool as well, but only where the card
is ready and the target differs from the mode. That does not happen unless a call of `set_pool_targets` takes
an exclusive card back from its way to the partitioned pool.
-/

namespace GShare.Model

open Accounting Machine Allocation Card Roster Option Bool Nat

variable {inv next : Inventory} {dev : DeviceId} {card after : Card}
variable {placed : Bool} {alter : Holder → Holder} {target : Target} {row : Allocation}
variable {transaction : Transaction}

namespace Inventory

/-- What the card says about the live allocations on it. -/
structure Held (live : Roster Allocation.session) (dev : DeviceId) (card : Card) : Prop where
  cores : 0 < card.totalCores
  unpartitioned : card.mode ≠ some .mig
  counted : card.lendState = .normal → ∀ dim, live.total (ownOn dev dim) ≤ card.used dim
  weighs : ∀ row ∈ live.rows, row.occupies dev → ∃ dim, 0 < row.amount dim
  lent : ∀ row ∈ live.rows, row.borrows dev → card.lendState ≠ .normal
  pooled : card.mode = none → card.lendState = .normal ∧ ∀ row ∈ live.rows, row.isOn dev = false

/-- Every live allocation on a card shows on it. -/
structure Occupied (dev : DeviceId) (inv : Inventory) : Prop where
  sized : ∀ id holder, inv.session id = some holder → holder.mode = some .fractional →
    0 < holder.gpuMemMb.getD 0
  located : inv.card dev = none → ∀ row ∈ inv.live.rows, row.isOn dev = false
  held : ∀ card ∈ inv.card dev, Held inv.live dev card

variable {middle : Inventory} {id : SessionId} {holder : Holder}
variable {live : Roster Allocation.session} {query : Query}

/-- Nobody has the card, neither as its own nor on loan. -/
def Vacant (inv : Inventory) (dev : DeviceId) : Prop :=
  (∀ row ∈ inv.live.rows, row.isOn dev = false) ∧
    ∀ card ∈ inv.card dev, card.lendState = .normal

theorem Held.vacant (held : Held live dev card) (empty : card.isEmpty) :
    ∀ row ∈ live.rows, row.isOn dev = false := by
  simp only [isEmpty, and_eq_true, beq_iff_eq] at empty
  obtain ⟨⟨mem, cores⟩, idle⟩ := empty
  intro row member
  by_contra isOn
  rw [not_eq_false, isOn_iff] at isOn
  cases kind : row.kind with
  | spot => exact held.lent row member (borrows_iff.mpr ⟨isOn, kind⟩) idle
  | resident =>
    have occupies := occupies_iff.mpr ⟨isOn, kind⟩
    obtain ⟨dim, weighs⟩ := held.weighs row member occupies
    have counts := le_total member (ownOn dev dim)
    have unused : card.used dim = 0 := by cases dim <;> assumption
    have within := held.counted idle dim
    rw [ownOn_of_occupies occupies] at counts
    omega

theorem Held.keep (held : Held live dev card) (lend : after.lendState = card.lendState)
    (used : ∀ dim, after.used dim = card.used dim) (cores : 0 < after.totalCores)
    (unpartitioned : after.mode ≠ some .mig) (modeless : after.mode = none → card.mode = none) :
    Held live dev after where
  cores := cores
  unpartitioned := unpartitioned
  counted idle dim := by
    rw [used dim]
    exact held.counted (lend ▸ idle) dim
  weighs := held.weighs
  lent row member borrows := lend ▸ held.lent row member borrows
  pooled none_ := lend ▸ held.pooled (modeless none_)

section

variable (occupied : inv.Occupied dev)

include occupied

theorem Occupied.keep (sess : next.session = inv.session) (live : next.live = inv.live)
    (cards : Rel (fun before after => Held inv.live dev before →
      Held inv.live dev after) (inv.card dev) (next.card dev)) : next.Occupied dev where
  sized := sess ▸ occupied.sized
  located missing := by
    rw [live]
    cases found : inv.card dev with
    | none => exact occupied.located found
    | some before =>
      obtain ⟨after, isAfter, -⟩ := cards.exists_after found
      rw [missing] at isAfter
      cases isAfter
  held after isAfter := by
    obtain ⟨before, isBefore, kept⟩ := cards.exists_before isAfter
    rw [live]
    exact kept (occupied.held before isBefore)

/-- The columns of a session beside its mode and its size do not matter. -/
theorem Occupied.modifySession
    (keeps : ∀ holder, (alter holder).mode = holder.mode ∧ (alter holder).gpuMemMb = holder.gpuMemMb) :
    (inv.modifySession id alter).Occupied dev where
  sized other holder row fractional := by
    rw [modifySession_session] at row
    split_ifs at row
    · obtain ⟨before, isBefore, rfl⟩ := map_eq_some_iff.mp row
      rw [(keeps before).2]
      exact occupied.sized other before isBefore ((keeps before).1 ▸ fractional)
    · exact occupied.sized other holder row fractional
  located := occupied.located
  held := occupied.held

theorem Occupied.persist (sized : holder.mode = some .fractional → 0 < holder.gpuMemMb.getD 0) :
    Occupied dev { inv with session := Function.update inv.session id (some holder) } where
  sized other row isRow fractional := by
    by_cases new : other = id
    · subst new
      obtain rfl : holder = row := by simpa using isRow
      exact sized fractional
    · exact occupied.sized other row (by simpa [new] using isRow) fractional
  located := occupied.located
  held := occupied.held

theorem Occupied.reconcile {devices : List DeviceId}
    (run : inv.reconcile devices = some next) : next.Occupied dev := by
  have same := reconcile_reconciled run
  refine occupied.keep same.session same.live ?_
  rcases same.card dev with kept | ⟨-, before, after, isBefore, isAfter, set⟩
  · rw [kept]
    exact Rel.refl_of (fun _ => id) _
  · rw [isBefore, isAfter]
    refine .some fun held => ⟨?_, ?_, ?_, held.weighs, ?_, ?_⟩
    all_goals obtain ⟨fits, rfl⟩ := setUsed_eq_some set
    · exact held.cores
    · exact held.unpartitioned
    · intro _ dim
      cases dim <;> exact le_rfl
    · exact held.lent
    · exact held.pooled

end

/-- A slice takes memory or cores. -/
theorem Books.weighs (books : inv.Books id holder target card next)
    (sized : holder.mode = some .fractional → 0 < holder.gpuMemMb.getD 0) (cores : 0 < card.totalCores)
    (unpartitioned : card.mode ≠ some .mig) : 0 < target.mem ∨ 0 < target.cores := by
  have given := books.given
  cases kind : holder.mode == some .exclusive with
  | true =>
    rw [kind, slice_exclusive] at given
    split_ifs at given
    obtain ⟨-, whole⟩ := Prod.mk.inj (some.inj given)
    exact .inr (whole ▸ cores)
  | false =>
    rw [kind, slice_shared unpartitioned] at given
    split_ifs at given
    obtain ⟨exact_, -⟩ := Prod.mk.inj (some.inj given)
    refine .inl (exact_ ▸ sized ?_)
    have meets := books.meets
    simp only [placeable, serves, and_eq_true, any_eq_true, or_eq_true, beq_iff_eq] at meets
    obtain ⟨-, mode, isMode, same | ⟨rfl, mig⟩⟩ := meets
    · cases mode with
      | fractional => exact isMode
      | exclusive => simp [isMode] at kind
      | mig => exact absurd same unpartitioned
    · exact isMode

/-- An allocation on another card does not show. -/
theorem Held.insert_elsewhere {grown : Roster Allocation.session}
    (held : Held live dev card) (inserted : live.insert row = some grown)
    (elsewhere : row.isOn dev = false) : Held grown dev card := by
  have old : ∀ other ∈ grown.rows, other.isOn dev → other ∈ live.rows := by
    intro other member isOn
    rw [(insert_eq_some inserted).2, List.mem_cons] at member
    rcases member with rfl | old
    · simp [elsewhere] at isOn
    · exact old
  refine ⟨held.cores, held.unpartitioned, fun idle dim => ?_, fun other member occupies => ?_,
    fun other member borrows => ?_, fun modeless => ?_⟩
  · rw [total_insert inserted]
    have nothing : row.ownOn dev dim = 0 := by simp [ownOn, Allocation.occupies, elsewhere]
    rw [nothing, zero_add]
    exact held.counted idle dim
  · exact held.weighs other (old other member (and_eq_true_iff.mp occupies).1) occupies
  · exact held.lent other (old other member (and_eq_true_iff.mp borrows).1) borrows
  · obtain ⟨idle, nobody⟩ := held.pooled modeless
    refine ⟨idle, fun other member => ?_⟩
    by_contra isOn
    rw [not_eq_false] at isOn
    simp [nobody other (old other member isOn)] at isOn

theorem Occupied.record {place : DeviceId} (occupied : inv.Occupied dev)
    (recorded : middle.record row = some next) (sess : middle.session = inv.session)
    (live : middle.live = inv.live) (isOn : row.device = some place)
    (here : dev = place → ∃ before after, inv.card dev = some before ∧
      middle.card dev = some after ∧ (Held inv.live dev before → Held next.live dev after))
    (elsewhere : dev ≠ place → middle.card dev = inv.card dev) : next.Occupied dev := by
  obtain ⟨cards, sessions, inserted⟩ := record_eq_some recorded
  rw [live] at inserted
  by_cases same : dev = place
  · obtain ⟨before, after, isBefore, isAfter, shows⟩ := here same
    refine ⟨by rw [sessions, sess]; exact occupied.sized, fun missing => ?_, fun last isLast => ?_⟩
    · rw [cards, isAfter] at missing
      cases missing
    · rw [cards, isAfter] at isLast
      cases isLast
      exact shows (occupied.held before isBefore)
  · have off : row.isOn dev = false := by simp [Allocation.isOn, isOn, Ne.symm same]
    refine ⟨by rw [sessions, sess]; exact occupied.sized, fun missing other member => ?_, fun last isLast => ?_⟩
    · rw [cards, elsewhere same] at missing
      rw [(insert_eq_some inserted).2, List.mem_cons] at member
      rcases member with rfl | old
      · exact off
      · exact occupied.located missing other old
    · rw [cards, elsewhere same] at isLast
      exact (occupied.held last isLast).insert_elsewhere inserted off

theorem placeable_mode (meets : placeable holder card) : card.lendState = .normal ∧ card.mode ≠ none := by
  simp only [placeable, serves, and_eq_true, beq_iff_eq, any_eq_true, or_eq_true] at meets
  obtain ⟨⟨⟨-, idle⟩, -⟩, mode, -, same | ⟨-, mig⟩⟩ := meets
  · exact ⟨idle, by simp [same]⟩
  · exact ⟨idle, by simp [mig]⟩

theorem Occupied.book (occupied : inv.Occupied dev)
    (books : inv.Books id holder target card next) : next.Occupied dev := by
  obtain ⟨before, after, isBefore, set, recorded⟩ := (book_booked books.booked).card
  cases some.inj (books.found.symm.trans isBefore)
  obtain ⟨idle, pool⟩ := placeable_mode books.meets
  refine occupied.record recorded rfl rfl rfl (fun here => ?_) fun elsewhere => by
    simp [setCard_card, elsewhere]
  subst here
  refine ⟨card, after, isBefore, by simp [setCard_card], fun held => ?_⟩
  have grown : ∀ dim, next.live.total (ownOn target.device dim)
      = ownOn target.device dim _ + inv.live.total (ownOn target.device dim) :=
    fun dim => total_insert (record_eq_some recorded).2.2 _
  have member : ∀ row ∈ next.live.rows, row = _ ∨ row ∈ inv.live.rows := fun row isRow =>
    (mem_record recorded).mp isRow
  have weighs := books.weighs (occupied.sized id holder books.row) held.cores held.unpartitioned
  obtain ⟨fits, rfl⟩ := setUsed_eq_some set
  refine ⟨held.cores, held.unpartitioned, fun _ dim => ?_, fun row isRow occupies => ?_,
    fun row isRow borrows => ?_, fun modeless => absurd modeless pool⟩
  · have sum := held.counted idle dim
    rw [grown dim]
    cases dim <;> simp [ownOn, Allocation.occupies, Allocation.isOn, amount,
      used] at sum ⊢ <;> omega
  · rcases member row isRow with rfl | old
    · exact weighs.elim (fun some_ => ⟨.mem, some_⟩) fun some_ => ⟨.cores, some_⟩
    · exact held.weighs row old occupies
  · rcases member row isRow with rfl | old
    · simp [Allocation.borrows] at borrows
    · exact held.lent row old borrows

theorem Occupied.borrow (occupied : inv.Occupied dev)
    (reserved : inv.SpotReserved id holder query next placed) : next.Occupied dev := by
  cases reserved with
  | refused => exact occupied
  | @placed _ target card chosen found lends borrowed =>
    refine occupied.record borrowed modifyCard_session modifyCard_live rfl (fun here => ?_) fun elsewhere => by
      simp [modifyCard_card, elsewhere]
    subst here
    refine ⟨card, { card with lendState := .lent }, found, by simp [modifyCard_card, found], fun held => ?_⟩
    have member : ∀ row ∈ next.live.rows, row = _ ∨ row ∈ inv.live.rows := fun row isRow =>
      ((mem_record borrowed).mp isRow).imp_right fun old => modifyCard_live ▸ old
    have pool : card.mode ≠ none := by
      simp only [lendable, and_eq_true, beq_iff_eq] at lends
      simp [lends.1.2]
    refine ⟨held.cores, held.unpartitioned, fun idle => by simp at idle, fun row isRow occupies => ?_,
      fun _ _ _ => by simp, fun modeless => absurd modeless pool⟩
    rcases member row isRow with rfl | old
    · simp [Allocation.occupies] at occupies
    · exact held.weighs row old occupies

theorem Held.remove (held : Held live dev card) : Held (live.remove id) dev card where
  cores := held.cores
  unpartitioned := held.unpartitioned
  counted idle dim := total_remove_le.trans (held.counted idle dim)
  weighs row isRow := held.weighs row (mem_remove.mp isRow).1
  lent row isRow := held.lent row (mem_remove.mp isRow).1
  pooled modeless :=
    ⟨(held.pooled modeless).1, fun row isRow => (held.pooled modeless).2 row (mem_remove.mp isRow).1⟩

section Closing

variable {handBack : Card → Allocation → Card} {alloc : Allocation}
variable (released : handBack = release ∨ handBack = rollBack)

include released

/-- No slice that comes back ends a loan. -/
theorem handBack_lent (lent : card.lendState ≠ .normal) : (handBack card alloc).lendState ≠ .normal := by
  rcases released with rfl | rfl
  · cases kind : alloc.kind with
    | resident => rwa [lendState_release_resident kind]
    | spot =>
      rw [lendState_release_spot kind]
      split_ifs
      · simp
      · exact lent
  · rwa [lendState_rollBack]

/-- A slice of one's own comes off the counters. -/
theorem handBack_resident (card : Card) (own : alloc.kind = .resident) :
    (handBack card alloc).lendState = card.lendState ∧
      ∀ dim, (handBack card alloc).used dim = card.used dim - alloc.amount dim := by
  rcases released with rfl | rfl
  · exact ⟨lendState_release_resident own, fun _ => used_release_resident own⟩
  · exact ⟨lendState_rollBack, fun _ => used_rollBack⟩

theorem handBack_traced {related : Card → Card → Prop} (traces : Traces related) :
    related card (handBack card alloc) := by
  rcases released with rfl | rfl
  · exact traces.release alloc
  · exact traces.rollBack alloc

theorem Held.close (held : Held live dev card) (found : live.find? id = some alloc)
    (isOn : alloc.isOn dev) : Held (live.remove id) dev (handBack card alloc) := by
  have member := (find?_eq_some_iff.mp found).1
  have pool : card.mode ≠ none := by
    intro modeless
    simp [(held.pooled modeless).2 alloc member] at isOn
  have pooled : card.Pooled (handBack card alloc) := handBack_traced released pooled_traces
  have size : (handBack card alloc).total .cores = card.total .cores :=
    (handBack_traced released kept_traces).total .cores
  refine ⟨?_, ?_, fun idle dim => ?_, fun row isRow => held.weighs row (mem_remove.mp isRow).1,
    fun row isRow borrows => handBack_lent released (held.lent row (mem_remove.mp isRow).1 borrows),
    fun modeless => ?_⟩
  · exact lt_of_lt_of_eq held.cores size.symm
  · rcases pooled.pool with ⟨mode, -⟩ | ⟨-, -, mode, metadata⟩
    · rw [mode]
      exact held.unpartitioned
    · rw [mode]
      intro mig
      simp [mig, isMetadata] at metadata
  · have split := total_remove found (ownOn dev dim)
    cases kind : alloc.kind with
    | spot =>
      have lent := held.lent alloc member (borrows_iff.mpr ⟨isOn_iff.mp isOn, kind⟩)
      exact absurd idle (handBack_lent released lent)
    | resident =>
      obtain ⟨lend, used⟩ := handBack_resident released card kind
      have sum := held.counted (lend ▸ idle) dim
      rw [ownOn_of_occupies (occupies_iff.mpr ⟨isOn_iff.mp isOn, kind⟩)] at split
      rw [used dim]
      omega
  · rcases pooled.pool with ⟨mode, -⟩ | ⟨-, -, mode, metadata⟩
    · exact absurd (mode ▸ modeless) pool
    · rw [← mode, modeless] at metadata
      cases metadata

theorem Occupied.close (occupied : inv.Occupied dev) : (inv.close id handBack).Occupied dev := by
  cases found : inv.live.find? id with
  | none =>
    rw [close_of_none found]
    exact occupied
  | some alloc =>
    refine ⟨by rw [close_session]; exact occupied.sized, fun missing row member => ?_, fun last isLast => ?_⟩
    · have absent : inv.card dev = none := by
        rw [close_card found] at missing
        split_ifs at missing
        · exact map_eq_none_iff.mp missing
        · exact missing
      exact occupied.located absent row (mem_close.mp member).1
    · rw [mem_def, close_card found] at isLast
      rw [close_live found]
      split_ifs at isLast with isOn
      · obtain ⟨card, isCard, rfl⟩ := map_eq_some_iff.mp isLast
        exact (occupied.held card isCard).close released found isOn
      · exact (occupied.held last isLast).remove

end Closing

theorem Occupied.yield (occupied : inv.Occupied dev) :
    (inv.marked (inv.residentCard? id)).Occupied dev := by
  cases owns : inv.residentCard? id with
  | none => exact occupied
  | some place =>
    obtain ⟨row, own, isPlace⟩ := bind_eq_some_iff.mp owns
    have member := (resident?_eq_some.mp own).1
    refine occupied.keep modifyCard_session modifyCard_live ?_
    rw [marked, Option.elim_some, modifyCard_card]
    split_ifs with here
    · refine Rel.map_of (fun card held => ⟨held.cores, held.unpartitioned, fun idle => by simp at idle,
        held.weighs, fun _ _ _ => by simp, fun modeless => ?_⟩) _
      have absent := (held.pooled modeless).2 row member
      simp [Allocation.isOn, isPlace, here] at absent
    · exact Rel.refl_of (fun _ held => held) _

def ModeHeld (before after : Card) : Prop := after.mode = before.mode ∨ after.isEmpty

theorem modeHeld_applyDrainedMode (card : Card) : ModeHeld card card.applyDrainedMode := by
  rcases card.applyDrainedMode_cases with same | ⟨desired, -, -, -, empty, applied⟩
  · exact .inl (by rw [same])
  · refine .inr ?_
    rw [applied]
    exact empty

theorem modeHeld_refl (card : Card) : ModeHeld card card := .inl rfl

theorem close_modeHeld {handBack : Card → Allocation → Card} (released : handBack = release ∨ handBack = rollBack) :
    Rel ModeHeld (inv.card dev) ((inv.close id handBack).card dev) := by
  cases found : inv.live.find? id with
  | none =>
    rw [close_of_none found]
    exact Rel.refl_of modeHeld_refl _
  | some alloc =>
    rw [close_card found]
    split_ifs
    · refine Rel.map_of (fun card => ?_) _
      rcases released with rfl | rfl
      · unfold release
        split
        · exact modeHeld_applyDrainedMode { card with lendState := _ }
        · exact modeHeld_applyDrainedMode (card.giveBack alloc)
      · exact modeHeld_applyDrainedMode (card.giveBack alloc)
    · exact Rel.refl_of modeHeld_refl _

theorem marked_modeHeld (place : Option DeviceId) :
    Rel ModeHeld (inv.card dev) ((inv.marked place).card dev) := by
  cases place with
  | none => exact Rel.refl_of modeHeld_refl _
  | some => exact modifyCard_related modeHeld_refl fun _ => .inl rfl

/-- What a transaction makes of a card and of its live allocations. -/
structure Advances (dev : DeviceId) (inv next : Inventory) : Prop where
  occupied : next.Occupied dev
  modes : Rel ModeHeld (inv.card dev) (next.card dev)

theorem Advances.modifySession (advances : Advances dev inv next)
    (keeps : ∀ holder, (alter holder).mode = holder.mode ∧ (alter holder).gpuMemMb = holder.gpuMemMb) :
    Advances dev inv (next.modifySession id alter) :=
  ⟨advances.occupied.modifySession keeps, advances.modes⟩

theorem Advances.refl (occupied : inv.Occupied dev) : Advances dev inv inv :=
  ⟨occupied, Rel.refl_of modeHeld_refl _⟩

def SameMode (before after : Card) : Prop := after.mode = before.mode

theorem sameMode_refl (card : Card) : SameMode card card := rfl

theorem SameMode.trans {first second third : Card} (left : SameMode first second)
    (right : SameMode second third) : SameMode first third :=
  Eq.trans right left

theorem sameMode_setUsed {mem cores : ℕ} (set : card.setUsed mem cores = some after) : SameMode card after := by
  obtain ⟨_, rfl⟩ := setUsed_eq_some set
  rfl

theorem modeHeld_of_sameMode (same : Rel SameMode (inv.card dev) (next.card dev)) :
    Rel ModeHeld (inv.card dev) (next.card dev) := by
  cases found : next.card dev <;> cases before : inv.card dev <;> rw [found, before] at same <;>
    cases same
  · exact .none
  · exact .some (.inl ‹_›)

section

variable (occupied : inv.Occupied dev)

include occupied

theorem Occupied.reserveSlice (row : inv.session id = some holder)
    (run : inv.reserveSlice id holder query = some (next, placed)) :
    next.Occupied dev ∧ Rel SameMode (inv.card dev) (next.card dev) := by
  obtain ⟨_, middle, reconciled, steps⟩ := reserveSlice_steps row run
  have counted := occupied.reconcile reconciled
  have same : Rel SameMode (inv.card dev) (middle.card dev) :=
    reconcile_related sameMode_refl sameMode_setUsed reconciled
  rcases steps with rfl | ⟨target, card, books⟩
  · exact ⟨counted, same⟩
  · exact ⟨counted.book books,
      same.trans_of SameMode.trans (book_related sameMode_refl sameMode_setUsed books.booked)⟩

theorem Occupied.reserveSpotSlice (run : inv.reserveSpotSlice id holder query = some (next, placed)) :
    next.Occupied dev ∧ Rel SameMode (inv.card dev) (next.card dev) := by
  have reserved := reserveSpotSlice_reserved run
  refine ⟨occupied.borrow reserved, ?_⟩
  cases reserved with
  | refused => exact Rel.refl_of sameMode_refl _
  | placed _ _ _ borrowed => exact borrow_related sameMode_refl (fun _ _ => rfl) borrowed

end

end Inventory

/-- The transactions that place, yield, borrow and release, with the sizes that admission lets pass. -/
def Transaction.Routine : Transaction → Prop
  | .persist _ holder => holder.mode = some .fractional → minFractionalMemMb ≤ holder.gpuMemMb.getD 0
  | .place .. | .borrow .. | .rollBack _ | .pause .. | .resumeCold .. | .resumeHeld _ | .claim _ | .release _
  | .finish _ => True
  | .reclaim _ | .demote .. | .report .. => False

namespace Inventory

/-- A routine transaction changes the mode of a card only when the card is empty. -/
theorem Advances.apply (occupied : inv.Occupied dev)
    (routine : transaction.Routine) (taken : inv.apply transaction = some next) : Advances dev inv next := by
  cases apply_effect taken with
  | persisted =>
    exact ⟨occupied.persist fun fractional => lt_of_lt_of_le (by decide) (routine fractional),
      Rel.refl_of modeHeld_refl _⟩
  | placed row reserved | blocked row reserved =>
    obtain ⟨counted, same⟩ := occupied.reserveSlice row reserved
    exact ⟨counted, modeHeld_of_sameMode same⟩
  | lent row reserved borrowed =>
    obtain ⟨counted, same⟩ := occupied.reserveSlice row reserved
    obtain ⟨lent, still⟩ := counted.reserveSpotSlice borrowed
    exact ⟨lent, modeHeld_of_sameMode (same.trans_of SameMode.trans still)⟩
  | borrowed row reserved =>
    obtain ⟨lent, same⟩ := occupied.reserveSpotSlice reserved
    exact ⟨lent, modeHeld_of_sameMode same⟩
  | rolledBack =>
    refine Advances.modifySession ⟨occupied.close (.inr rfl), close_modeHeld (.inr rfl)⟩ fun holder => ?_
    split_ifs <;> exact ⟨rfl, rfl⟩
  | yielded => exact Advances.modifySession ⟨occupied.yield, marked_modeHeld _⟩ fun _ => ⟨rfl, rfl⟩
  | paused =>
    exact Advances.modifySession ⟨occupied.close (.inl rfl), close_modeHeld (.inl rfl)⟩ fun _ => ⟨rfl, rfl⟩
  | resumed row reserved =>
    obtain ⟨counted, same⟩ := occupied.reserveSlice row reserved
    exact Advances.modifySession ⟨counted, modeHeld_of_sameMode same⟩ fun _ => ⟨rfl, rfl⟩
  | held | finished => exact (Advances.refl occupied).modifySession fun _ => ⟨rfl, rfl⟩
  | claimed =>
    refine (Advances.refl occupied).modifySession fun holder => ?_
    split_ifs <;> exact ⟨rfl, rfl⟩
  | released => exact ⟨occupied.close (.inl rfl), close_modeHeld (.inl rfl)⟩
  | cleared | demoted | ignored | bound | reportedYield | reportedPause | ended | advanced =>
    exact routine.elim

end Inventory

/-- A card that is ready has the mode it is meant to have, and a node works only towards the partitioned
backend. -/
structure Card.Planned (card : Card) : Prop where
  settled : card.modeState = .ready → card.desiredMode.any isMetadata →
    card.mode = none ∨ card.mode = card.desiredMode
  partitioning : card.modeState = .applying → card.desiredMode = some .mig

theorem Card.Planned.untargeted {card : Card} (ready : card.modeState = .ready) (absent : card.desiredMode = none) :
    card.Planned := by
  refine ⟨fun _ metadata => ?_, fun applying => ?_⟩
  · simp [absent] at metadata
  · simp [ready] at applying

open Inventory

/-- What a call that touches no allocation makes of a card: the mode changes on a vacant one only. -/
structure Follows (live : Roster Allocation.session) (dev : DeviceId) (before after : Card) : Prop where
  held : Held live dev after
  planned : after.Planned
  vacant : after.mode ≠ before.mode → (∀ row ∈ live.rows, row.isOn dev = false) ∧
    after.lendState = .normal

section Writers

variable {live : Roster Allocation.session} {report : DeviceReport}
variable {desired : Option CardMode}

/-- The target and the state are written, and nothing else. -/
theorem Follows.retarget {state : ModeState} (held : Held live dev card)
    (planned : Planned { card with desiredMode := desired, modeState := state }) :
    Follows live dev card { card with desiredMode := desired, modeState := state } where
  held := held.keep rfl (fun dim => by cases dim <;> rfl) held.cores held.unpartitioned fun modeless => modeless
  planned := planned
  vacant moved := absurd rfl moved

theorem Card.planned_setMode : Planned { card with
    desiredMode := desired
    modeState := if desired = none ∨ desired = card.mode then .ready else .draining } := by
  constructor
  · intro ready metadata
    split_ifs at ready with same
    rcases same with rfl | rfl
    · cases metadata
    · exact .inr rfl
  · intro applying
    split_ifs at applying

section

variable (held : Held live dev card)

include held

theorem Follows.sendToMig : Follows live dev card card.sendToMig := by
  refine .retarget held ⟨fun _ metadata => ?_, fun _ => rfl⟩
  cases metadata

/-- A card that is not exclusive can be taken back at once. -/
theorem Follows.takeFromMig (other : card.mode ≠ some .exclusive) :
    Follows live dev card card.takeFromMig := by
  refine .retarget held ⟨fun _ _ => ?_, fun applying => ?_⟩
  · have unpartitioned := held.unpartitioned
    cases mode : card.mode with
    | none => exact .inl rfl
    | some mode' => cases mode' <;> simp_all
  · dsimp only at applying
    split_ifs at applying

theorem Follows.drained (planned : card.Planned) : Follows live dev card card.applyDrainedMode := by
  rcases card.applyDrainedMode_cases with same | ⟨desired, -, wanted, metadata, empty, applied⟩
  · rw [same]
    exact ⟨held, planned, fun moved => absurd rfl moved⟩
  · rw [applied]
    have idle : card.lendState = .normal := by simp_all [isEmpty]
    refine ⟨held.keep rfl (fun dim => by cases dim <;> rfl) held.cores ?_ (fun modeless => by simp at modeless),
      ⟨fun _ _ => .inr wanted.symm, fun applying => by simp at applying⟩,
      fun _ => ⟨held.vacant empty, idle⟩⟩
    intro mig
    cases mig
    cases metadata

theorem Follows.rebalanced {change left : Option ModeChange} {hasNode : Bool}
    (planned : card.Planned) (rebalanced : Rebalanced card change hasNode after left) :
    Follows live dev card after := by
  cases rebalanced with
  | waits => exact ⟨held, planned, fun moved => absurd rfl moved⟩
  | untargeted absent => exact .retarget held (.untargeted rfl absent)
  | drained => exact .drained held planned
  | requested req =>
    refine .retarget held ⟨fun ready => ?_, fun _ => ?_⟩
    · cases ready
    · have other := held.unpartitioned
      unfold request? at req
      split_ifs at req with asks
      simpa [needsNodeWork, other] using asks.2.1
  | failed => refine .retarget held ⟨?_, ?_⟩ <;> (intro state; cases state)
  | finished applying _ _ wanted agrees =>
    have mig := planned.partitioning applying
    rw [wanted] at mig
    cases mig
    simp [held.unpartitioned] at agrees

end

theorem Card.observe_cases {reported : Option CardMode} (unpartitioned : card.mode ≠ some .mig)
    (hamiCore : reported ≠ some .mig) : (card.observe reported).mode = card.mode ∨
    card.modeState = .ready ∧ card.desiredMode.any isMetadata ∧
      (card.observe reported).mode = card.desiredMode ∨
    card.mode = none ∧ card.desiredMode.any isMetadata = false ∧ (card.observe reported).mode ≠ some .mig := by
  unfold observe
  split
  next => exact .inl rfl
  next => exact absurd rfl hamiCore
  next reported isOther =>
    split_ifs with metadata ready new
    · exact .inr (.inl ⟨ready, metadata, rfl⟩)
    · exact .inl rfl
    · rcases new with modeless | mig
      · exact .inr (.inr ⟨modeless, by simpa using metadata, by simpa using isOther⟩)
      · exact absurd mig unpartitioned
    · exact .inl rfl

theorem Follows.refreshed (held : Held live dev card) (planned : card.Planned)
    (refreshed : card.Refreshed after report) (hamiCore : report.mode ≠ some .mig) :
    Follows live dev card after := by
  have written := refreshed.mode
  have partitioning : after.modeState = .applying → after.desiredMode = some .mig := by
    rw [refreshed.state, refreshed.desired]
    exact planned.partitioning
  have keep := held.keep refreshed.lend refreshed.used (refreshed.cores held.cores)
  have free : card.mode = none → (∀ row ∈ live.rows, row.isOn dev = false) ∧ after.lendState = .normal := by
    intro modeless
    obtain ⟨idle, nobody⟩ := held.pooled modeless
    exact ⟨nobody, refreshed.lend.trans idle⟩
  rcases observe_cases held.unpartitioned hamiCore with same | ⟨ready, metadata, taken⟩ |
    ⟨modeless, other, taken⟩
  · rw [same] at written
    refine ⟨keep (written ▸ held.unpartitioned) (fun none_ => written ▸ none_), ⟨?_, partitioning⟩,
      fun moved => absurd written moved⟩
    rw [refreshed.state, refreshed.desired, written]
    exact planned.settled
  · rw [taken] at written
    have target : after.mode ≠ some .mig ∧ after.mode ≠ none := by
      rw [written]
      cases wanted : card.desiredMode with
      | none => simp [wanted] at metadata
      | some desired => cases desired <;> simp_all [isMetadata]
    refine ⟨keep target.1 fun none_ => absurd none_ target.2, ⟨?_, partitioning⟩, fun moved => ?_⟩
    · rw [refreshed.desired]
      exact fun _ _ => .inr written
    · rcases planned.settled ready metadata with modeless | same
      · exact free modeless
      · exact absurd (written.trans same.symm) moved
  · refine ⟨keep (written ▸ taken) fun _ => modeless, ⟨?_, partitioning⟩, fun _ => free modeless⟩
    rw [refreshed.desired, other]
    exact fun _ metadata => by cases metadata

/-- A new card is idle, whole and without a target. -/
theorem Card.fromReport_eq_some (new : fromReport report = some card) :
    card.Planned ∧ card.lendState = .normal ∧ 0 < card.totalCores ∧ card.mode = report.mode := by
  unfold fromReport at new
  by_cases unnamed : report.totalCores = 0
  · simp only [unnamed, if_true] at new
    split_ifs at new
    cases new
    exact ⟨.untargeted rfl rfl, rfl, succ_pos 99, rfl⟩
  · simp only [unnamed, if_false] at new
    split_ifs at new
    cases new
    exact ⟨.untargeted rfl rfl, rfl, pos_of_ne_zero unnamed, rfl⟩

theorem Inventory.Held.fresh (new : fromReport report = some card)
    (hamiCore : report.mode ≠ some .mig) (nobody : ∀ row ∈ live.rows, row.isOn dev = false) :
    Held live dev card := by
  obtain ⟨-, idle, cores, mode⟩ := fromReport_eq_some new
  refine ⟨cores, mode ▸ hamiCore, fun _ dim => ?_, fun row member occupies => ?_, fun row member borrows => ?_,
    fun _ => ⟨idle, nobody⟩⟩
  · have nothing : live.total (ownOn dev dim) = 0 := total_eq_zero fun row member => by
      simp [ownOn, Allocation.occupies, nobody row member]
    rw [nothing]
    exact zero_le _
  · simp [Allocation.occupies, nobody row member] at occupies
  · simp [Allocation.borrows, nobody row member] at borrows

end Writers

namespace CardTables

variable {tables next : CardTables} {call : ModeCall}

structure Guarded (dev : DeviceId) (tables : CardTables) : Prop where
  occupied : tables.inventory.Occupied dev
  planned : ∀ card ∈ tables.inventory.card dev, card.Planned

/-- If the mode of the card changed, nobody has it now. -/
def MovedVacant (dev : DeviceId) (tables next : CardTables) : Prop :=
  ∀ before ∈ tables.inventory.card dev, ∀ after ∈ next.inventory.card dev,
    after.mode ≠ before.mode → next.inventory.Vacant dev

section

variable (guarded : tables.Guarded dev)

include guarded

section

variable (sess : next.inventory.session = tables.inventory.session)
variable (live : next.inventory.live = tables.inventory.live)

include sess live

theorem Guarded.follow (cards : Rel (fun before after => Held tables.inventory.live dev before →
      before.Planned → Follows tables.inventory.live dev before after) (tables.inventory.card dev)
        (next.inventory.card dev)) : next.Guarded dev ∧ MovedVacant dev tables next := by
  have follows : ∀ before ∈ tables.inventory.card dev, ∀ after ∈ next.inventory.card dev,
      Follows tables.inventory.live dev before after := by
    intro before isBefore after isAfter
    obtain ⟨first, isFirst, becomes⟩ := cards.exists_before isAfter
    cases isBefore.symm.trans isFirst
    exact becomes (guarded.occupied.held before isBefore) (guarded.planned before isBefore)
  refine ⟨⟨guarded.occupied.keep sess live ?_, fun after isAfter => ?_⟩,
    fun before isBefore after isAfter moved => ?_⟩
  · cases isBefore : tables.inventory.card dev <;> cases isAfter : next.inventory.card dev <;>
      rw [isBefore, isAfter] at cards <;> cases cards
    · exact .none
    · exact .some fun _ => (follows _ isBefore _ isAfter).held
  · obtain ⟨before, isBefore, -⟩ := cards.exists_before isAfter
    exact (follows before isBefore after isAfter).planned
  · obtain ⟨nobody, idle⟩ := (follows before isBefore after isAfter).vacant moved
    refine ⟨live ▸ nobody, fun last isLast => ?_⟩
    cases isAfter.symm.trans isLast
    exact idle

theorem Guarded.same (card : next.inventory.card dev = tables.inventory.card dev) :
    next.Guarded dev ∧ MovedVacant dev tables next := by
  refine guarded.follow sess live ?_
  rw [card]
  exact Rel.refl_of (fun _ held planned => ⟨held, planned, fun moved => absurd rfl moved⟩) _

theorem Guarded.setCard {place : DeviceId} {card after : Card} (found : tables.inventory.card place = some card)
    (cards : next.inventory.card = (tables.inventory.setCard place after).card)
    (follows : Held tables.inventory.live place card → card.Planned →
      Follows tables.inventory.live place card after) : next.Guarded dev ∧ MovedVacant dev tables next := by
  by_cases here : dev = place
  · subst here
    refine guarded.follow sess live ?_
    rw [cards, setCard_card, if_pos rfl, found]
    exact .some follows
  · exact guarded.same sess live (by rw [cards, setCard_card, if_neg here])

end

/-- The calls among which the mode of a card in use does not change: reports of the other backend, and the
transactions that place, yield, borrow and release. -/
def InScope : ModeCall → Prop
  | .report report => report.mode ≠ some .mig
  | .transact transaction => transaction.Routine
  | .setMode .. | .setTargets .. | .rebalance .. | .operate .. => True

/-- No exclusive card is taken back from its way to the partitioned pool. -/
def SparesExclusive (tables : CardTables) : ModeCall → Prop
  | .setTargets rows clusterId count =>
    ∀ dev ∈ tables.inventory.takenFromMig rows clusterId count,
      ∀ card ∈ tables.inventory.card dev, card.mode ≠ some .exclusive
  | .setMode .. | .rebalance .. | .operate .. | .report _ | .transact _ => True

theorem Guarded.setTargets {rows : List DeviceId} {clusterId count : ℕ}
    (spares : tables.SparesExclusive (.setTargets rows clusterId count))
    (taken : tables.apply (.setTargets rows clusterId count) = some next) :
    next.Guarded dev ∧ MovedVacant dev tables next := by
  obtain ⟨inv, set, rfl⟩ := map_eq_some_iff.mp taken
  rcases setPoolTargets_cases set with rfl | rfl | rfl
  · exact guarded.same rfl rfl rfl
  · by_cases chosen : dev ∈ tables.inventory.sentToMig rows clusterId count
    · refine guarded.follow rfl rfl ?_
      rw [modifyCards_card, if_pos chosen]
      exact Rel.map_of (fun card held _ => .sendToMig held) _
    · exact guarded.same rfl rfl (if_neg chosen)
  · by_cases chosen : dev ∈ tables.inventory.takenFromMig rows clusterId count
    · refine guarded.follow rfl rfl ?_
      rw [modifyCards_card, if_pos chosen]
      cases found : tables.inventory.card dev with
      | none => exact .none
      | some card => exact .some fun held _ => .takeFromMig held (spares dev chosen card found)
    · exact guarded.same rfl rfl (if_neg chosen)

theorem Guarded.report {report : DeviceReport}
    (hamiCore : report.mode ≠ some .mig) (taken : tables.apply (.report report) = some next) :
    next.Guarded dev ∧ MovedVacant dev tables next := by
  cases upsertDevice_upserted taken with
  | ignored => exact guarded.same rfl rfl rfl
  | refreshed found refreshed =>
    exact guarded.setCard rfl rfl found rfl fun held planned => .refreshed held planned refreshed hamiCore
  | @inserted card fresh new =>
    by_cases here : dev = report.device
    · subst here
      have nobody := guarded.occupied.located fresh
      have stored : ∀ last ∈ (tables.inventory.setCard report.device card).card report.device, last = card := by
        intro last isLast
        simpa [setCard_card, eq_comm] using isLast
      refine ⟨⟨⟨guarded.occupied.sized, fun missing => ?_, fun last isLast => ?_⟩, fun last isLast => ?_⟩,
        fun before isBefore => ?_⟩
      · simp [storeReport, setCard_card] at missing
      · rw [stored last isLast]
        exact .fresh new hamiCore nobody
      · rw [stored last isLast]
        exact (fromReport_eq_some new).1
      · cases fresh.symm.trans isBefore
    · exact guarded.same rfl rfl (by simp [storeReport, setCard_card, here])

/-- A drained change is applied to a card that is empty then. -/
theorem Guarded.transact
    (routine : transaction.Routine) (taken : tables.apply (.transact transaction) = some next) :
    next.Guarded dev ∧ MovedVacant dev tables next := by
  obtain ⟨inv, applied, rfl⟩ := map_eq_some_iff.mp taken
  have advances := Advances.apply guarded.occupied routine applied
  refine ⟨⟨advances.occupied, fun after isAfter => ?_⟩, fun before isBefore after isAfter moved => ?_⟩
  · obtain ⟨before, isBefore, pooled⟩ := (apply_traced pooled_traces applied).exists_before isAfter
    have planned := guarded.planned before isBefore
    rcases pooled.pool with ⟨mode, state⟩ | ⟨-, ready, mode, -⟩
    · refine ⟨?_, ?_⟩ <;> rw [state, pooled.desired]
      · rw [mode]
        exact planned.settled
      · exact planned.partitioning
    · refine ⟨fun _ _ => .inr (mode.trans pooled.desired.symm), fun applying => ?_⟩
      rw [ready] at applying
      cases applying
  · obtain ⟨first, isFirst, held | empty⟩ := advances.modes.exists_before isAfter
    · cases isBefore.symm.trans isFirst
      exact absurd held moved
    · refine ⟨(advances.occupied.held after isAfter).vacant empty, fun last isLast => ?_⟩
      cases isAfter.symm.trans isLast
      simp only [isEmpty, and_eq_true, beq_iff_eq] at empty
      exact empty.2

theorem Guarded.step (scope : InScope call)
    (spares : tables.SparesExclusive call) (taken : tables.apply call = some next) :
    next.Guarded dev ∧ MovedVacant dev tables next := by
  cases call with
  | setMode place desired =>
    obtain ⟨card, found, -, rfl⟩ := apply_setMode taken
    exact guarded.setCard rfl rfl found rfl fun held _ => .retarget held planned_setMode
  | setTargets rows clusterId count => exact guarded.setTargets spares taken
  | rebalance place hasNode api =>
    obtain ⟨card, after, change, found, rebalanced, rfl⟩ := apply_rebalance taken
    exact guarded.setCard rfl rfl found rfl fun held planned => .rebalanced held planned rebalanced
  | operate place configured job =>
    cases taken
    exact guarded.same rfl rfl rfl
  | report report => exact guarded.report scope taken
  | transact transaction => exact guarded.transact scope taken

end

theorem guarded_empty : CardTables.empty.Guarded dev := by
  refine ⟨⟨fun id holder row => ?_, fun _ row member => ?_, fun card found => ?_⟩, fun card found => ?_⟩
  · cases row
  · cases member
  · cases found
  · cases found

theorem perform_of_fresh {loaded : Loaded} (fresh : loaded.Fresh tables.inventory) :
    tables.perform (call, loaded) = tables.apply call := by
  cases call with
  | transact transaction => simp only [perform, Inventory.perform_of_fresh fresh, apply]
  | setMode | setTargets | rebalance | operate | report => rfl

/-- The call is in scope, takes no exclusive card back and works on what the rows say. -/
def Regular (tables : CardTables) (call : ModeCall × Loaded) : Prop :=
  (InScope call.1 ∧ tables.SparesExclusive call.1) ∧ call.2.Fresh tables.inventory

theorem Guarded.perform {work : ModeCall × Loaded} (guarded : tables.Guarded dev) (regular : tables.Regular work)
    (taken : tables.perform work = some next) : next.Guarded dev ∧ MovedVacant dev tables next := by
  obtain ⟨⟨scope, spares⟩, fresh⟩ := regular
  exact guarded.step scope spares ((perform_of_fresh fresh).symm.trans taken)

/-- In every run in which no exclusive card is taken back from its way to the partitioned pool, the mode of a
card changes only in a transaction after which nobody has it. -/
theorem mode_moves_vacant {last : CardTables} {calls : List (ModeCall × Loaded)}
    (run : Run perform Regular .empty calls last) {call : ModeCall × Loaded} {next : CardTables}
    (regular : last.Regular call) (taken : last.perform call = some next) (dev : DeviceId) :
    MovedVacant dev last next := by
  have guarded : last.Guarded dev := run.invariant guarded_empty
    fun _ _ _ regular taken guarded => (guarded.perform regular taken).1
  exact (guarded.perform regular taken).2

end CardTables

instance Transaction.decidableRoutine : Decidable transaction.Routine := by
  rcases transaction <;> unfold Transaction.Routine <;> infer_instance

namespace CardTables

variable {tables next : CardTables} {call : ModeCall} {dev : DeviceId}

instance decidableInScope : Decidable (InScope call) := by
  rcases call <;> unfold InScope <;> infer_instance

instance decidableSparesExclusive : Decidable (tables.SparesExclusive call) := by
  rcases call <;> unfold SparesExclusive <;> infer_instance

instance (work : ModeCall × Loaded) : Decidable (tables.Regular work) := by
  unfold Regular
  infer_instance

instance : Decidable (MovedVacant dev tables next) := by
  unfold MovedVacant Vacant
  infer_instance

end CardTables

section Samples

open CardTables Soundness.Samples

/-- A session takes the whole of a new card. -/
def cardInUse : List ModeCall :=
  [.report (reportOfCard .exclusive), .transact (.persist 1 (exclusiveHolder .cold false)),
    .transact (.place 1 theCard theCard)]

def showsCard (tables : CardTables) (mode : CardMode) (held : Bool) : Bool :=
  (tables.inventory.card 0).any (·.mode == some mode)
    && tables.inventory.live.rows.any (·.isOn 0) == held

/-- A card that is meant to be shared is when its session stops. -/
theorem cardInUse_drained :
    ∃ last next, Run CardTables.perform Regular .empty
        ((cardInUse ++ [ModeCall.setMode 0 (some .fractional)]).map (·, {})) last ∧
      last.perform (.transact (.pause 1 .cold), {}) = some next ∧ showsCard last .exclusive true ∧
      showsCard next .fractional false ∧ MovedVacant 0 last next := by
  refine exists_step_imp (fun last next => showsCard last .exclusive true ∧
    showsCard next .fractional false) (by decide +kernel) fun last next run taken shown => ?_
  have regular : last.Regular (.transact (.pause 1 .cold), {}) := ⟨⟨trivial, trivial⟩, .nil, .nil⟩
  exact ⟨shown.1, shown.2, mode_moves_vacant run regular taken 0⟩

/-- The card is sent to the partitioned pool and taken back: the next report shares it, under its session. -/
theorem cardInUse_moved : ∃ last next, Run CardTables.apply (fun _ call => InScope call) .empty
        (cardInUse ++ [.setTargets [0] 0 1, .setTargets [0] 0 0]) last ∧
      InScope (.report (reportOfCard .exclusive)) ∧
      last.apply (.report (reportOfCard .exclusive)) = some next ∧ showsCard last .exclusive true ∧
      showsCard next .fractional true ∧ ¬ MovedVacant 0 last next := by
  have scope : InScope (.report (reportOfCard .exclusive)) := nofun
  simp only [and_iff_right scope]
  exact exists_step_of_execute (by decide +kernel)

end Samples

end GShare.Model
