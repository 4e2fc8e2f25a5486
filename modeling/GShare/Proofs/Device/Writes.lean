import GShare.Proofs.Device.Effects
import GShare.Proofs.Device.Placement
import GShare.ToMathlib.Basic

/-! # The writes that transactions are made of

Apart from a demotion and a report that gives a pod its card, every transaction on the device tables is
a sequence of a few kinds of writes. An invariant of admission is proved for each of these and holds
along every transaction.
-/

namespace GShare.Model

open Relation Option Card Inventory

variable {related : Card → Card → Prop} {card next : Card} {inv : Inventory} {dev : DeviceId}
variable {id : SessionId} {holder : Holder}

/-- A relation between a card before a transaction and after it: what each way to write a card gives, one
after the other. -/
structure Card.Traces (related : Card → Card → Prop) : Prop where
  refl (card : Card) : related card card
  trans {first second third : Card} : related first second → related second third → related first third
  setUsed {card next : Card} {mem cores : ℕ} : card.setUsed mem cores = some next → related card next
  lendState (card : Card) (state : LendState) : related card { card with lendState := state }
  giveBack (card : Card) (alloc : Allocation) : related card (card.giveBack alloc)
  applyDrainedMode (card : Card) : related card card.applyDrainedMode

namespace Card.Traces

section

variable (traces : Traces related)

include traces

theorem rollBack (alloc : Allocation) : related card (card.rollBack alloc) :=
  traces.trans (traces.giveBack card alloc) (traces.applyDrainedMode _)

theorem release (alloc : Allocation) : related card (card.release alloc) := by
  unfold Card.release
  split
  · exact traces.trans (traces.lendState card _) (traces.applyDrainedMode _)
  · exact traces.rollBack alloc

theorem bumpDeviceUsage {holder : Holder}
    (bumped : bumpDeviceUsage holder card = some next) : related card next := by
  unfold Inventory.bumpDeviceUsage at bumped
  split_ifs at bumped <;> exact traces.setUsed bumped

end

end Card.Traces

/-- What stays of a card: its size, and its pool unless a change of it is pending. -/
structure Card.Kept (before after : Card) : Prop where
  total : ∀ dim, after.total dim = before.total dim
  pool : before.modeState = .ready → after.mode = before.mode ∧ after.modeState = .ready

namespace Card

variable {mem cores : ℕ}

theorem Kept.refl (card : Card) : card.Kept card := ⟨fun _ => rfl, fun ready => ⟨rfl, ready⟩⟩

theorem Kept.trans {first second third : Card} (left : first.Kept second) (right : second.Kept third) :
    first.Kept third := by
  refine ⟨fun dim => (right.total dim).trans (left.total dim), fun ready => ?_⟩
  obtain ⟨sameMode, ready⟩ := left.pool ready
  exact ⟨(right.pool ready).1.trans sameMode, (right.pool ready).2⟩

theorem kept_setUsed (set : card.setUsed mem cores = some next) : card.Kept next := by
  obtain ⟨_, rfl⟩ := setUsed_eq_some set
  exact ⟨fun dim => by cases dim <;> rfl, fun ready => ⟨rfl, ready⟩⟩

theorem kept_applyDrainedMode : card.Kept card.applyDrainedMode := by
  refine ⟨fun dim => total_applyDrainedMode, fun ready => ?_⟩
  simp [applyDrainedMode, ready]

theorem kept_traces : Traces Kept where
  refl := Kept.refl
  trans := Kept.trans
  setUsed := kept_setUsed
  lendState _ _ := ⟨fun dim => by cases dim <;> rfl, fun ready => ⟨rfl, ready⟩⟩
  giveBack _ _ := ⟨fun _ => total_giveBack, fun ready => ⟨rfl, ready⟩⟩
  applyDrainedMode _ := kept_applyDrainedMode

end Card

variable {placed : Bool} {before : Card}

namespace Inventory

/-- The placement of a session on a card whose counters are correct. -/
structure Books (inv : Inventory) (id : SessionId) (holder : Holder) (target : Target) (card : Card)
    (next : Inventory) : Prop where
  row : inv.session id = some holder
  found : inv.card target.device = some card
  meets : placeable holder card
  counted : inv.recount target.device card = some card
  given : card.slice (holder.gpuMemMb.getD 0) (holder.gpuCores.getD 0) (holder.mode == some .exclusive)
    = some (target.mem, target.cores)
  booked : inv.book id target = some next

/-- The placement of a session on a card that another one has yielded. -/
structure Borrows (inv : Inventory) (id : SessionId) (holder : Holder) (target : Target) (card : Card)
    (next : Inventory) : Prop where
  row : inv.session id = some holder
  found : inv.card target.device = some card
  room : inv.borrowable holder (target.device, card) = some target
  borrowed : inv.borrow id target = some next

inductive Write : Inventory → Inventory → Prop
  | persisted {inv : Inventory} {id : SessionId} (holder : Holder)
      (fresh : inv.session id = none) (idle : inv.live.find? id = none) :
      Write inv { inv with session := Function.update inv.session id (some holder) }
  /-- The mode and the size of a session never change. -/
  | altered (inv : Inventory) (id : SessionId) {alter : Holder → Holder}
      (keeps : ∀ holder, (alter holder).mode = holder.mode ∧ (alter holder).gpuMemMb = holder.gpuMemMb ∧
        (alter holder).gpuCores = holder.gpuCores) : Write inv (inv.modifySession id alter)
  | reconciled {inv next : Inventory} {devices : List DeviceId}
      (run : inv.reconcile devices = some next) : Write inv next
  | booked {inv next : Inventory} {id : SessionId} {holder : Holder} {target : Target} {card : Card}
      (books : inv.Books id holder target card next) : Write inv next
  | borrowed {inv next : Inventory} {id : SessionId} {holder : Holder} {target : Target} {card : Card}
      (borrows : inv.Borrows id holder target card next) : Write inv next
  | closed (inv : Inventory) (id : SessionId) {handBack : Card → Allocation → Card}
      (released : handBack = release ∨ handBack = rollBack) :
      Write inv (inv.close id handBack)
  | lent (inv : Inventory) (dev : DeviceId) (state : LendState) :
      Write inv (inv.modifyCard dev fun card => { card with lendState := state })

section Tracing

variable {next : Inventory} {place : DeviceId}

section

variable (refl : ∀ card, related card card)

include refl

theorem setCard_related (found : inv.card place = some before) (follows : related before card) :
    Rel related (inv.card dev) ((inv.setCard place card).card dev) := by
  rw [setCard_card]
  split_ifs with here
  · rw [here, found]
    exact .some follows
  · exact Rel.refl_of refl _

theorem modifyCard_related {change : Card → Card} (follows : ∀ card, related card (change card)) :
    Rel related (inv.card dev) ((inv.modifyCard place change).card dev) := by
  rw [modifyCard_card]
  split_ifs
  · exact Rel.map_of follows _
  · exact Rel.refl_of refl _

theorem reconcile_related {devices : List DeviceId}
    (setUsed : ∀ {card next : Card} {mem cores}, card.setUsed mem cores = some next → related card next)
    (run : inv.reconcile devices = some next) : Rel related (inv.card dev) (next.card dev) := by
  rcases (reconcile_reconciled run).card dev with same | ⟨-, before, after, isBefore, isAfter, set⟩
  · rw [same]
    exact Rel.refl_of refl _
  · rw [isBefore, isAfter]
    exact .some (setUsed set)

variable {target : Target}

theorem book_related
    (setUsed : ∀ {card next : Card} {mem cores}, card.setUsed mem cores = some next → related card next)
    (booked : inv.book id target = some next) : Rel related (inv.card dev) (next.card dev) := by
  obtain ⟨before, after, isBefore, set, recorded⟩ := (book_booked booked).card
  rw [(record_eq_some recorded).1]
  exact setCard_related refl isBefore (setUsed set)

theorem borrow_related
    (lendState : ∀ card state, related card { card with lendState := state })
    (borrowed : inv.borrow id target = some next) :
    Rel related (inv.card dev) (next.card dev) := by
  rw [(record_eq_some borrowed).1]
  exact modifyCard_related refl fun card => lendState card .lent

end

/-- A write changes a card in one of the ways, and neither makes nor removes one. -/
theorem Write.traced (traces : Traces related) (write : Write inv next) :
    Rel related (inv.card dev) (next.card dev) := by
  cases write with
  | persisted | altered => exact Rel.refl_of traces.refl _
  | reconciled run => exact reconcile_related traces.refl traces.setUsed run
  | booked books => exact book_related traces.refl traces.setUsed books.booked
  | borrowed borrows => exact borrow_related traces.refl traces.lendState borrows.borrowed
  | @closed id handBack released =>
    have follows : ∀ (card : Card) alloc, related card (handBack card alloc) := by
      rcases released with rfl | rfl
      · exact fun _ alloc => traces.release alloc
      · exact fun _ alloc => traces.rollBack alloc
    cases held : inv.live.find? id with
    | none =>
      rw [close_of_none held]
      exact Rel.refl_of traces.refl _
    | some alloc =>
      rw [close_card held]
      split_ifs
      · exact Rel.map_of (fun card => follows card alloc) _
      · exact Rel.refl_of traces.refl _
  | lent place state => exact modifyCard_related traces.refl fun card => traces.lendState card state

end Tracing

/-- No write makes a card, resizes one or moves it between pools without a pending change. -/
theorem Write.kept {inv next : Inventory} {dev : DeviceId} {last : Card}
    (write : Write inv next) (isLast : last ∈ next.card dev) : ∃ first ∈ inv.card dev, first.Kept last :=
  (write.traced kept_traces).exists_before isLast

theorem Write.mem_live {inv next : Inventory} {row : Allocation} (write : Write inv next)
    (member : row ∈ next.live.rows) : row ∈ inv.live.rows ∨
    (∃ id holder target card, inv.Books id holder target card next ∧
      row = ⟨id, some target.device, some target.mem, some target.cores, .resident⟩) ∨
    ∃ id holder target card, inv.Borrows id holder target card next ∧
      row = ⟨id, some target.device, some target.mem, some target.cores, .spot⟩ := by
  cases write with
  | persisted | altered => exact .inl member
  | reconciled run => exact .inl ((reconcile_reconciled run).live ▸ member)
  | booked books =>
    obtain ⟨_, _, -, -, recorded⟩ := (book_booked books.booked).card
    rcases (mem_record recorded).mp member with new | old
    · exact .inr (.inl ⟨_, _, _, _, books, new⟩)
    · exact .inl old
  | borrowed borrows =>
    rcases (mem_record borrows.borrowed).mp member with new | old
    · exact .inr (.inr ⟨_, _, _, _, borrows, new⟩)
    · exact .inl (modifyCard_live ▸ old)
  | closed => exact .inl (mem_close.mp member).1
  | lent => exact .inl (modifyCard_live ▸ member)

abbrev Writes : Inventory → Inventory → Prop := ReflTransGen Write

variable {next : Inventory} {query : Query}

theorem Write.alone (write : Write inv next) : Writes inv next := .single write

theorem reserveSlice_session (run : inv.reserveSlice id holder query = some (next, placed)) :
    next.session = inv.session := by
  cases reserveSlice_reserved run with
  | refused reconciled => exact reconciled.session
  | placed reconciled _ _ _ booked =>
    obtain ⟨_, _, -, -, recorded⟩ := booked.card
    exact (record_eq_some recorded).2.1.trans reconciled.session

theorem setStatus_write (status : Status) : Write inv (inv.setStatus id status) :=
  .altered inv id fun _ => ⟨rfl, rfl, rfl⟩

theorem releaseAllocation_write : Write inv (inv.releaseAllocation id) :=
  .closed inv id (.inl rfl)

theorem marked_writes (place : Option DeviceId) : Writes inv (inv.marked place) := by
  cases place with
  | none => exact .refl
  | some dev => exact (Write.lent inv dev .yielded).alone

section

variable (row : inv.session id = some holder)

include row

section

variable (run : inv.reserveSlice id holder query = some (next, placed))

include run

/-- A placement corrects the counters and then books a slice, if it finds one. -/
theorem reserveSlice_steps :
    ∃ devices middle, inv.reconcile devices = some middle ∧
      (next = middle ∨ ∃ target card, middle.Books id holder target card next) := by
  cases placed with
  | false =>
    obtain ⟨middle, reconciled, run⟩ := bind_eq_some_iff.mp run
    dsimp only at run
    split at run
    next =>
      cases run
      exact ⟨_, next, reconciled, .inl rfl⟩
    next =>
      obtain ⟨_, -, impossible⟩ := map_eq_some_iff.mp run
      cases impossible
  | true =>
    obtain ⟨middle, target, card, placed⟩ := reserveSlice_placed run
    have same := reconcile_reconciled placed.reconciled
    obtain ⟨before, isBefore, meets, counted⟩ := placed.meets
    refine ⟨_, middle, placed.reconciled, .inr ⟨target, card, by rw [same.session, row], placed.found, ?_, ?_,
      placed.given, placed.booked⟩⟩
    · obtain ⟨_, rfl⟩ := setUsed_eq_some counted
      exact meets
    · rw [recount, same.live]
      exact recount_recount counted

theorem reserveSlice_writes : Writes inv next := by
  obtain ⟨_, middle, reconciled, rfl | ⟨_, _, books⟩⟩ := reserveSlice_steps row run
  · exact (Write.reconciled reconciled).alone
  · exact (Write.reconciled reconciled).alone.tail (.booked books)

end

theorem reserveSpotSlice_writes
    (run : inv.reserveSpotSlice id holder query = some (next, placed)) : Writes inv next := by
  cases reserveSpotSlice_reserved run with
  | refused => exact .refl
  | placed chosen _ _ borrowed =>
    obtain ⟨card, found, -, room, -⟩ := spotTarget_borrowable chosen
    exact (Write.borrowed ⟨row, found, room, borrowed⟩).alone

end

end Inventory

/-- The transaction neither ends a session's slice for good in favour of a borrower nor gives a pod the
card that its node reports. -/
def Transaction.admits (inv : Inventory) : Transaction → Bool
  | .demote _ _ => false
  | .report id event stale =>
    (inv.session id).all fun holder => verdict holder event stale != .bind
  | _ => true

variable {transaction : Transaction} {first : SessionId} {uuid : Option String}

namespace Inventory

variable {next : Inventory}

/-- Everything else than a demotion and a report that gives a pod its card is a sequence of writes. -/
theorem apply_cases (taken : inv.apply transaction = some next) :
    Writes inv next ∨ ¬ transaction.admits inv ∧
      ((∃ id first vacated, inv.Vacated id first vacated ∧ Writes vacated next) ∨
      ∃ id holder uuid bound, inv.session id = some holder ∧
        inv.Ensured id holder uuid bound ∧ Writes bound next) := by
  cases apply_effect taken with
  | persisted fresh idle => exact .inl (Write.persisted _ fresh idle).alone
  | placed row reserved | blocked row reserved => exact .inl (reserveSlice_writes row reserved)
  | lent row reserved borrowed =>
    have kept := (reserveSlice_session reserved).symm ▸ row
    exact .inl ((reserveSlice_writes row reserved).trans (reserveSpotSlice_writes kept borrowed))
  | borrowed row reserved => exact .inl (reserveSpotSlice_writes row reserved)
  | rolledBack =>
    refine .inl ((Write.closed inv _ (.inr rfl)).alone.tail (.altered _ _ fun holder => ?_))
    split_ifs <;> exact ⟨rfl, rfl, rfl⟩
  | yielded | reportedYield => exact .inl ((marked_writes _).tail (setStatus_write .paused))
  | paused | reportedPause => exact .inl (releaseAllocation_write.alone.tail (setStatus_write .paused))
  | resumed row reserved =>
    exact .inl ((reserveSlice_writes row reserved).tail (setStatus_write .running))
  | held | finished | advanced => exact .inl (setStatus_write _).alone
  | cleared => exact .inl (Write.lent inv _ .normal).alone
  | claimed =>
    refine .inl (Write.altered inv _ fun holder => ?_).alone
    split_ifs <;> exact ⟨rfl, rfl, rfl⟩
  | released => exact .inl releaseAllocation_write.alone
  | ignored => exact .inl .refl
  | ended =>
    refine .inl (releaseAllocation_write.alone.tail (.altered _ _ fun holder => ?_))
    split_ifs <;> exact ⟨rfl, rfl, rfl⟩
  | demoted vacated =>
    exact .inr ⟨by simp [Transaction.admits], .inl ⟨_, _, _, vacated,
      .single (.altered _ _ fun _ => ⟨rfl, rfl, rfl⟩)⟩⟩
  | bound row decided ensured =>
    exact .inr ⟨by simp [Transaction.admits, row, decided], .inr ⟨_, _, _, _, row, ensured,
      .single (.altered _ _ fun _ => ⟨rfl, rfl, rfl⟩)⟩⟩

/-- So an invariant of the writes is one of the transactions that admission is about. -/
theorem apply_writes (taken : inv.apply transaction = some next) (admits : transaction.admits inv) :
    Writes inv next :=
  (apply_cases taken).resolve_right fun special => special.1 admits

section Tracing

theorem Vacated.session (vacated : inv.Vacated id first next) : next.session = inv.session := by
  cases vacated <;> rfl

theorem Ensured.session (ensured : inv.Ensured id holder uuid next) : next.session = inv.session := by
  cases ensured with
  | kept => rfl
  | loose recorded | bound _ _ recorded => exact (record_eq_some recorded).2.1

section

variable (traces : Traces related)

include traces

/-- A sequence of writes changes a card in the ways of its writes. -/
theorem Writes.traced (writes : Writes inv next) :
    Rel related (inv.card dev) (next.card dev) := by
  induction writes with
  | refl => exact Rel.refl_of traces.refl _
  | tail _ write ih => exact ih.trans_of traces.trans (write.traced traces)

theorem Vacated.traced (vacated : inv.Vacated id first next) :
    Rel related (inv.card dev) (next.card dev) := by
  cases vacated with
  | absent | loose => exact Rel.refl_of traces.refl _
  | emptied _ _ found _ set | promoted _ _ found _ set =>
    exact setCard_related traces.refl found (traces.trans (traces.setUsed set) (traces.lendState _ .normal))

theorem Ensured.traced (ensured : inv.Ensured id holder uuid next) :
    Rel related (inv.card dev) (next.card dev) := by
  cases ensured with
  | kept => exact Rel.refl_of traces.refl _
  | loose recorded =>
    rw [(record_eq_some recorded).1]
    exact Rel.refl_of traces.refl _
  | bound resolved bumped recorded =>
    rw [(record_eq_some recorded).1]
    exact setCard_related traces.refl (resolveDevice_card resolved) (traces.bumpDeviceUsage bumped)

theorem apply_traced (taken : inv.apply transaction = some next) :
    Rel related (inv.card dev) (next.card dev) := by
  rcases apply_cases taken with writes | ⟨-, ⟨id, first, vacated, ended, writes⟩ |
    ⟨id, holder, uuid, bound, -, ensured, writes⟩⟩
  · exact Writes.traced traces writes
  · exact (ended.traced traces).trans_of traces.trans (Writes.traced traces writes)
  · exact (ensured.traced traces).trans_of traces.trans (Writes.traced traces writes)

end

end Tracing

end Inventory

end GShare.Model
