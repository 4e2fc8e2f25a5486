import GShare.Proofs.Device.Inventory

/-! # Everything that a transaction can do

One transaction on the device tables by what it comes to: which function wrote the tables, with what outcome,
and for a report what it was taken for. Whoever proves that transactions keep something goes through these
cases.
-/

namespace GShare.Model.Inventory

open Option

/-- The card is marked as one that can be lent, if there is one. -/
def marked (inv : Inventory) (place : Option DeviceId) : Inventory :=
  place.elim inv fun dev => inv.modifyCard dev fun card => { card with lendState := .yielded }

variable {inv next : Inventory}

theorem setLendState_yielded {id : SessionId} :
    inv.setLendState id .yielded = inv.marked (inv.residentCard? id) := by
  unfold setLendState marked
  cases inv.residentCard? id <;> rfl

variable (inv) in
/-- The tables that a transaction can leave, with what it found. -/
inductive Effect : Transaction → Inventory → Prop
  | persisted {id : SessionId} {holder : Holder} (fresh : inv.session id = none)
      (idle : inv.live.find? id = none) :
      Effect (.persist id holder) { inv with session := Function.update inv.session id (some holder) }
  | placed {id : SessionId} {holder : Holder} {query spotQuery : Query} {next : Inventory} {placed : Bool}
      (row : inv.session id = some holder) (reserved : inv.reserveSlice id holder query = some (next, placed)) :
      Effect (.place id query spotQuery) next
  /-- No slice was found, and a card is borrowed instead. -/
  | lent {id : SessionId} {holder : Holder} {query spotQuery : Query} {middle next : Inventory}
      {placed lent : Bool} (row : inv.session id = some holder)
      (reserved : inv.reserveSlice id holder query = some (middle, placed))
      (borrowed : middle.reserveSpotSlice id holder spotQuery = some (next, lent)) :
      Effect (.place id query spotQuery) next
  | borrowed {id : SessionId} {holder : Holder} {query : Query} {next : Inventory} {placed : Bool}
      (row : inv.session id = some holder)
      (reserved : inv.reserveSpotSlice id holder query = some (next, placed)) : Effect (.borrow id query) next
  | rolledBack {id : SessionId} : Effect (.rollBack id) (inv.releaseReservation id)
  | yielded {id : SessionId} {holder : Holder} (row : inv.session id = some holder) :
      Effect (.pause id .yield) ((inv.marked (inv.residentCard? id)).setStatus id .paused)
  | paused {id : SessionId} : Effect (.pause id .cold) ((inv.releaseAllocation id).setStatus id .paused)
  | resumed {id : SessionId} {holder : Holder} {query : Query} {next : Inventory}
      (row : inv.session id = some holder) (reserved : inv.reserveSlice id holder query = some (next, true)) :
      Effect (.resumeCold id query) (next.setStatus id .running)
  | blocked {id : SessionId} {holder : Holder} {query : Query} {next : Inventory}
      (row : inv.session id = some holder) (reserved : inv.reserveSlice id holder query = some (next, false)) :
      Effect (.resumeCold id query) next
  | held {id : SessionId} : Effect (.resumeHeld id) (inv.setStatus id .running)
  | cleared {dev : DeviceId} :
      Effect (.reclaim dev) (inv.modifyCard dev fun card => { card with lendState := .normal })
  | demoted {id first : SessionId} {middle : Inventory} (vacated : inv.Vacated id first middle) :
      Effect (.demote id first) (middle.modifySession id fun holder => { holder with pauseMode := .cold })
  | claimed {id : SessionId} : Effect (.claim id) (inv.modifySession id fun holder =>
      if holder.status = .terminated then holder else { holder with status := .terminating })
  | released {id : SessionId} : Effect (.release id) (inv.releaseAllocation id)
  | finished {id : SessionId} : Effect (.finish id) (inv.setStatus id .terminated)
  | ignored {id : SessionId} {event : StatusEvent} {stale : Bool} : Effect (.report id event stale) inv
  | bound {id : SessionId} {holder : Holder} {event : StatusEvent} {stale : Bool} {middle : Inventory}
      (row : inv.session id = some holder) (decided : verdict holder event stale = .bind)
      (ensured : inv.Ensured id holder event.boundGpuUuid middle) :
      Effect (.report id event stale) (middle.modifySession id fun holder => { holder with
        boundGpuUuid := reported event.boundGpuUuid <|> holder.boundGpuUuid
        status := .running })
  | reportedYield {id : SessionId} {holder : Holder} {event : StatusEvent} {stale : Bool}
      (row : inv.session id = some holder) (decided : verdict holder event stale = .pause)
      (yielded : event.yielded = true) : Effect (.report id event stale)
        ((inv.marked ((inv.resolveDevice holder event.boundGpuUuid).map Prod.fst)).setStatus id .paused)
  | reportedPause {id : SessionId} {holder : Holder} {event : StatusEvent} {stale : Bool}
      (row : inv.session id = some holder) (decided : verdict holder event stale = .pause)
      (gone : event.yielded = false) :
      Effect (.report id event stale) ((inv.releaseAllocation id).setStatus id .paused)
  | ended {id : SessionId} {holder : Holder} {event : StatusEvent} {stale : Bool} {status : Status}
      (row : inv.session id = some holder) (decided : verdict holder event stale = .finish status) :
      Effect (.report id event stale) (inv.onEnded id status)
  | advanced {id : SessionId} {holder : Holder} {event : StatusEvent} {stale : Bool} {status : Status}
      (row : inv.session id = some holder) (decided : verdict holder event stale = .advance status) :
      Effect (.report id event stale) (inv.setStatus id status)

theorem onStatus_effect {id : SessionId} {holder : Holder} {event : StatusEvent} {stale : Bool}
    (row : inv.session id = some holder) (run : inv.onStatus id holder event stale = some next) :
    inv.Effect (.report id event stale) next := by
  unfold onStatus at run
  split at run
  next =>
    cases run
    exact .ignored
  next decided =>
    obtain ⟨_, ensured, rfl⟩ := map_eq_some_iff.mp run
    exact .bound row decided (ensureAllocation_ensured ensured)
  next decided =>
    cases run
    unfold onPaused
    cases yielded : event.yielded with
    | false => exact .reportedPause row decided yielded
    | true =>
      have effect := Effect.reportedYield row decided yielded
      cases resolved : inv.resolveDevice holder event.boundGpuUuid <;> rw [resolved] at effect <;> exact effect
  next status decided =>
    cases run
    exact .ended row decided
  next status decided =>
    cases run
    exact .advanced row decided

/-- A transaction that commits does one of these things. -/
theorem apply_effect {transaction : Transaction} (taken : inv.apply transaction = some next) :
    inv.Effect transaction next := by
  cases transaction with
  | persist id holder =>
    simp only [apply] at taken
    split_ifs at taken with fresh
    cases taken
    exact .persisted (by simpa using fresh.1) (by simpa using fresh.2.1)
  | place id query spotQuery =>
    obtain ⟨holder, row, run⟩ := bind_eq_some_iff.mp taken
    obtain ⟨⟨middle, placed⟩, reserved, run⟩ := bind_eq_some_iff.mp run
    dsimp only at run
    split_ifs at run
    · cases run
      exact .placed row reserved
    · obtain ⟨⟨_, lent⟩, borrowed, rfl⟩ := map_eq_some_iff.mp run
      exact .lent row reserved borrowed
  | borrow id query =>
    obtain ⟨holder, row, run⟩ := bind_eq_some_iff.mp taken
    obtain ⟨⟨_, placed⟩, reserved, rfl⟩ := map_eq_some_iff.mp run
    exact .borrowed row reserved
  | rollBack id =>
    cases taken
    exact .rolledBack
  | pause id mode =>
    obtain ⟨holder, row, rfl⟩ := map_eq_some_iff.mp taken
    cases mode with
    | yield =>
      rw [pause, setLendState_yielded]
      exact .yielded row
    | cold => exact .paused
  | resumeCold id query =>
    obtain ⟨holder, row, run⟩ := bind_eq_some_iff.mp taken
    obtain ⟨⟨middle, _ | _⟩, reserved, run⟩ := bind_eq_some_iff.mp run <;> cases run
    · exact .blocked row reserved
    · exact .resumed row reserved
  | resumeHeld id =>
    obtain ⟨_, -, rfl⟩ := map_eq_some_iff.mp taken
    exact .held
  | reclaim dev =>
    cases taken
    exact .cleared
  | demote id first =>
    obtain ⟨_, vacated, rfl⟩ := demote_vacated taken
    exact .demoted vacated
  | claim id =>
    obtain ⟨_, -, rfl⟩ := map_eq_some_iff.mp taken
    exact .claimed
  | release id =>
    cases taken
    exact .released
  | finish id =>
    obtain ⟨_, -, rfl⟩ := map_eq_some_iff.mp taken
    exact .finished
  | report id event stale =>
    obtain ⟨holder, row, run⟩ := bind_eq_some_iff.mp taken
    exact onStatus_effect row run

end GShare.Model.Inventory
