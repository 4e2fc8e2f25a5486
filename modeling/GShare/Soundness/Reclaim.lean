import GShare.Model.Device.Calls
import GShare.Proofs.Device.Inventory
import GShare.Soundness.Samples

/-! # Resuming a resident whose card is lent

A resume lists the borrowers of its card, terminates them one by one, clears the loan and says running.
It never looks for borrowers again. So nobody borrows the card when the resident runs as long as the
loan was right when it was read, no termination fails before it released its slice, and nobody borrows
the card between that look and the clearing.
-/

open GShare.Model

variable {resident id : SessionId} {dev : DeviceId} {inv next : Inventory} {call : ResumeCall}
variable {status : Status}

namespace GShare.Model

open Accounting Inventory Roster Option List

namespace ResumeCall

/-- The card that the call has looked at and has yet to clear. -/
def reclaims? : ResumeCall → Option DeviceId
  | .preempting dev _ _ _ | .clearing dev => some dev
  | _ => none

def remaining (borrower : SessionId) (rest : List SessionId) : PreemptStage → List SessionId
  | .claiming | .releasing => borrower :: rest
  | .ending => rest

end ResumeCall

def BorrowedOnlyBy (inv : Inventory) (dev : DeviceId) (sessions : List SessionId) : Prop :=
  ∀ row ∈ inv.live.rows, row.borrows dev → row.session ∈ sessions

/-- What is true while a call is at a point: the remaining borrowers are all there are, and once the loan
is cleared nobody can borrow the card. -/
def Reclaiming (resident : SessionId) (dev : DeviceId) (inv : Inventory) : ResumeCall → Prop
  | .called | .reclaiming | .returned => True
  | .reserving => False
  | .preempting place borrower rest stage => place = dev ∧
      (∀ other ∈ borrower :: rest, other ≠ resident) ∧
      BorrowedOnlyBy inv dev (ResumeCall.remaining borrower rest stage)
  | .clearing place => place = dev ∧ BorrowedOnlyBy inv dev []
  | .resuming => BorrowedOnlyBy inv dev [] ∧
      ∀ card ∈ inv.card dev, card.lendState = .normal

structure Kept (resident : SessionId) (dev : DeviceId) (inv : Inventory) : Prop where
  yields : ∃ holder ∈ inv.session resident, holder.pauseMode = .yield
  place : inv.residentCard? resident = some dev
  exists_card : ∃ card, inv.card dev = some card

/-- No borrow begins, and a card that is not lent stays so. -/
structure Recedes (dev : DeviceId) (before after : Inventory) : Prop where
  borrows : ∀ row ∈ after.live.rows, row.borrows dev → row ∈ before.live.rows
  loan : (∀ card ∈ before.card dev, card.lendState = .normal) →
    ∀ card ∈ after.card dev, card.lendState = .normal

variable {before after : Inventory}

theorem Recedes.same (live : after.live = before.live)
    (card : after.card = before.card) : Recedes dev before after :=
  ⟨fun _ member _ => live ▸ member, fun normal => card ▸ normal⟩

theorem BorrowedOnlyBy.recedes {sessions : List SessionId}
    (only : BorrowedOnlyBy before dev sessions) (recedes : Recedes dev before after) :
    BorrowedOnlyBy after dev sessions :=
  fun row member borrows => only row (recedes.borrows row member borrows) borrows

theorem Reclaiming.recedes
    {call : ResumeCall} (reclaiming : Reclaiming resident dev before call)
    (recedes : Recedes dev before after) : Reclaiming resident dev after call := by
  cases call with
  | called | reclaiming | returned => trivial
  | reserving => exact reclaiming
  | preempting place borrower rest stage =>
    obtain ⟨here, apart, only⟩ := reclaiming
    exact ⟨here, apart, only.recedes recedes⟩
  | clearing place => exact ⟨reclaiming.1, reclaiming.2.recedes recedes⟩
  | resuming => exact ⟨reclaiming.1.recedes recedes, recedes.loan reclaiming.2⟩

/-- A released slice ends a borrow or leaves them, and never makes a loan. -/
theorem recedes_release (id : SessionId) :
    Recedes dev inv (inv.releaseAllocation id) := by
  refine ⟨fun row member _ => (mem_close.mp member).1, fun normal card found => ?_⟩
  cases isRow : inv.live.find? id with
  | none =>
    rw [releaseAllocation, close_of_none isRow] at found
    exact normal card found
  | some row =>
    rw [releaseAllocation, mem_def, close_card isRow] at found
    split_ifs at found
    · obtain ⟨before, isBefore, rfl⟩ := map_eq_some_iff.mp found
      have loan := normal before isBefore
      cases kind : row.kind with
      | resident => rw [Card.lendState_release_resident kind, loan]
      | spot => simp [Card.lendState_release_spot kind, loan]
    · exact normal card found

theorem recedes_clear {place : DeviceId} :
    Recedes dev inv (inv.modifyCard place fun card => { card with lendState := .normal }) := by
  refine ⟨fun row member _ => modifyCard_live ▸ member, fun normal card found => ?_⟩
  rw [mem_def, modifyCard_card] at found
  split_ifs at found
  · obtain ⟨_, -, rfl⟩ := map_eq_some_iff.mp found
    rfl
  · exact normal card found

/-- The slice of one session is not touched by what happens to another's. -/
theorem residentCard?_release {id : SessionId} (apart : id ≠ resident) :
    (inv.releaseAllocation id).residentCard? resident = inv.residentCard? resident := by
  have same : (inv.releaseAllocation id).live.find? resident = inv.live.find? resident := by
    cases found : inv.live.find? resident with
    | none =>
      refine find?_eq_none_iff.mpr fun row member => ?_
      exact find?_eq_none_iff.mp found row (mem_close.mp member).1
    | some row =>
      obtain ⟨member, isId⟩ := find?_eq_some_iff.mp found
      have another : row.session ≠ id := fun same => apart (same.symm.trans isId)
      exact find?_eq_some_iff.mpr ⟨mem_close.mpr ⟨member, another⟩, isId⟩
  rw [residentCard?, resident?, same]
  rfl

namespace Kept

variable {place : DeviceId}

section

variable (kept : Kept resident dev inv)

include kept

theorem find? : (inv.live.find? resident).isSome := by
  obtain ⟨own, isOwn, -⟩ := bind_eq_some_iff.mp kept.place
  rw [(filter_eq_some_iff.mp isOwn).1]
  rfl

theorem setStatus : Kept resident dev (inv.setStatus id status) := by
  obtain ⟨holder, isHolder, yields⟩ := kept.yields
  refine ⟨?_, kept.place, kept.exists_card⟩
  rw [Inventory.setStatus, modifySession_session, isHolder]
  split_ifs
  · exact ⟨_, rfl, yields⟩
  · exact ⟨holder, rfl, yields⟩

theorem release (apart : id ≠ resident) : Kept resident dev (inv.releaseAllocation id) := by
  refine ⟨?_, (residentCard?_release apart).trans kept.place, ?_⟩
  · rw [releaseAllocation, close_session]
    exact kept.yields
  · obtain ⟨card, found⟩ := kept.exists_card
    cases isRow : inv.live.find? id with
    | none =>
      rw [releaseAllocation, close_of_none isRow]
      exact ⟨card, found⟩
    | some row =>
      rw [releaseAllocation, close_card isRow, found]
      split_ifs
      · exact ⟨_, rfl⟩
      · exact ⟨card, rfl⟩

theorem modifyCard {change : Card → Card} : Kept resident dev (inv.modifyCard place change) := by
  refine ⟨?_, ?_, ?_⟩
  · rw [modifyCard_session]
    exact kept.yields
  · rw [residentCard?, resident?, modifyCard_live]
    exact kept.place
  · obtain ⟨card, found⟩ := kept.exists_card
    rw [modifyCard_card, found]
    split_ifs
    · exact ⟨_, rfl⟩
    · exact ⟨card, rfl⟩

end

end Kept

namespace ResumeCall

variable {input : ResumeInput} {after : ResumeCall}

/-- The loan is right when it is read, and the termination of a borrower goes on until it has released the slice,
if there still is one. -/
def TakesBack (resident : SessionId) (inv : Inventory) (input : ResumeInput) : ResumeCall → Prop
  | .reclaiming => ∀ dev ∈ inv.residentCard? resident, inv.Borrowed dev →
      ∀ card ∈ inv.card dev, card.lendState = .lent
  | .preempting dev borrower _ .claiming => ∀ row ∈ inv.live.rows, row.session = borrower → row.borrows dev →
      input.fails = false ∧ ∃ holder ∈ inv.session borrower, holder.status ≠ .terminated
  | .preempting dev borrower _ .releasing => ∀ row ∈ inv.live.rows, row.session = borrower → row.borrows dev →
      input.fails = false
  | _ => True

theorem reclaiming_preempt {borrowers : List SessionId} (apart : ∀ other ∈ borrowers, other ≠ resident)
    (all : BorrowedOnlyBy inv dev borrowers) : Reclaiming resident dev inv (preempt dev borrowers) := by
  cases borrowers with
  | nil => exact ⟨rfl, all⟩
  | cons borrower rest => exact ⟨rfl, apart, all⟩

section

variable (kept : Kept resident dev inv)

include kept

/-- What the reclaim reads is all there is. -/
theorem reclaiming_reclaim (right : inv.Borrowed dev → ∀ card ∈ inv.card dev, card.lendState = .lent) :
    Reclaiming resident dev inv (reclaim resident inv) := by
  obtain ⟨card, found⟩ := kept.exists_card
  have loan : loan? resident inv = some (dev, card.lendState) := by
    simp [loan?, kept.place, found]
  have free : card.lendState ≠ .lent → BorrowedOnlyBy inv dev [] := fun other row member borrows =>
    absurd (right ⟨row, member, borrows⟩ card found) other
  unfold reclaim
  rw [loan]
  cases state : card.lendState with
  | normal =>
    refine ⟨free (by simp [state]), fun other isOther => ?_⟩
    rw [← Option.some.inj (found.symm.trans isOther), state]
  | yielded => exact ⟨rfl, free (by simp [state])⟩
  | lent =>
    dsimp only
    split_ifs
    · trivial
    · obtain ⟨own, isOwn, -⟩ := bind_eq_some_iff.mp kept.place
      refine reclaiming_preempt (fun other among => ?_) fun row member borrows => ?_
      · obtain ⟨row, isBorrow, rfl⟩ := mem_map.mp among
        obtain ⟨member, borrows⟩ := mem_filter.mp isBorrow
        exact session_ne_of_borrows isOwn member borrows
      · exact mem_map_of_mem (mem_filter.mpr ⟨member, borrows⟩)

omit kept in
theorem status_setStatus_of_ne (apart : id ≠ resident) :
    ((inv.setStatus id status).session resident).map Holder.status = (inv.session resident).map Holder.status := by
  rw [setStatus, modifySession_session, if_neg (Ne.symm apart)]

theorem preemptStep_reclaiming {borrower : SessionId} {rest : List SessionId} {stage : PreemptStage}
    (reclaiming : Reclaiming resident dev inv (.preempting dev borrower rest stage))
    (meets : TakesBack resident inv input (.preempting dev borrower rest stage))
    (taken : preemptStep inv dev borrower rest input.fails stage = (next, after)) :
    Kept resident dev next ∧ Recedes dev inv next ∧ Reclaiming resident dev next after ∧
      (next.session resident).map Holder.status = (inv.session resident).map Holder.status := by
  obtain ⟨-, apart, only⟩ := reclaiming
  have another := apart borrower List.mem_cons_self
  have others : ∀ other ∈ rest, other ≠ resident := fun other among =>
    apart other (mem_cons_of_mem borrower among)
  -- A borrower that is passed over has no borrow any more.
  have passed (gone : ∀ row ∈ inv.live.rows, row.session = borrower → ¬row.borrows dev)
      (only : BorrowedOnlyBy inv dev (borrower :: rest)) : Reclaiming resident dev inv (preempt dev rest) :=
    reclaiming_preempt others fun row member borrows =>
      (mem_cons.mp (only row member borrows)).resolve_left fun own => gone row member own borrows
  cases stage with
  | claiming =>
    simp only [preemptStep] at taken
    split at taken
    next missing =>
      cases taken
      refine ⟨kept, .same rfl rfl, passed (fun row member own borrows => ?_) only, rfl⟩
      obtain ⟨-, holder, isHolder, -⟩ := meets row member own borrows
      cases missing.symm.trans isHolder
    next holder isHolder =>
      split_ifs at taken with skipped
      · cases taken
        refine ⟨kept, .same rfl rfl, passed (fun row member own borrows => ?_) only, rfl⟩
        obtain ⟨succeeds, other, isOther, active⟩ := meets row member own borrows
        cases isHolder.symm.trans isOther
        simp [succeeds, active] at skipped
      · cases taken
        exact ⟨kept.setStatus, .same rfl rfl, ⟨rfl, apart, only⟩, status_setStatus_of_ne another⟩
  | releasing =>
    simp only [preemptStep] at taken
    split_ifs at taken with fails
    · cases taken
      refine ⟨kept, .same rfl rfl, passed (fun row member own borrows => ?_) only, rfl⟩
      cases fails.symm.trans (meets row member own borrows)
    · cases taken
      refine ⟨kept.release another, recedes_release borrower, ⟨rfl, apart, fun row member borrows => ?_⟩, ?_⟩
      · obtain ⟨among, other⟩ := mem_close.mp member
        exact (mem_cons.mp (only row among borrows)).resolve_left other
      · rw [releaseAllocation, close_session]
  | ending =>
    simp only [preemptStep] at taken
    split_ifs at taken
    · cases taken
      exact ⟨kept, .same rfl rfl, reclaiming_preempt others only, rfl⟩
    · cases taken
      exact ⟨kept.setStatus, .same rfl rfl, reclaiming_preempt others only, status_setStatus_of_ne another⟩

/-- One transaction of a resume leaves the resident's slice, lets the borrows recede, and keeps what it
relies on. Only the last one makes the resident run. -/
theorem next_reclaiming (reclaiming : Reclaiming resident dev inv call)
    (meets : call.TakesBack resident inv input) (taken : call.next resident inv input = some (next, after)) :
    Kept resident dev next ∧ Recedes dev inv next ∧ Reclaiming resident dev next after ∧ (call ≠ .resuming →
      (next.session resident).map Holder.status = (inv.session resident).map Holder.status) := by
  cases call with
  | called =>
    obtain ⟨holder, isHolder, taken⟩ := map_eq_some_iff.mp taken
    obtain ⟨found, isFound, yields⟩ := kept.yields
    cases Option.some.inj (isHolder.symm.trans isFound)
    rw [if_pos (⟨yields, kept.find?⟩ : holder.pauseMode = .yield ∧ _)] at taken
    split_ifs at taken
    all_goals
      cases taken
      exact ⟨kept, .same rfl rfl, trivial, fun _ => rfl⟩
  | reclaiming =>
    cases taken
    exact ⟨kept, .same rfl rfl, reclaiming_reclaim kept (meets dev kept.place), fun _ => rfl⟩
  | preempting place borrower rest stage =>
    obtain rfl := reclaiming.1
    obtain ⟨kept, recedes, onward, steady⟩ :=
      preemptStep_reclaiming kept reclaiming meets (Option.some.inj taken)
    exact ⟨kept, recedes, onward, fun _ => steady⟩
  | clearing place =>
    obtain ⟨rfl, only⟩ := reclaiming
    cases taken
    refine ⟨kept.modifyCard, recedes_clear, ⟨only.recedes recedes_clear, fun card found => ?_⟩, fun _ => ?_⟩
    · rw [mem_def, modifyCard_card, if_pos rfl] at found
      obtain ⟨_, -, rfl⟩ := map_eq_some_iff.mp found
      rfl
    · rw [modifyCard_session]
  | reserving => exact reclaiming.elim
  | resuming =>
    cases taken
    exact ⟨kept.setStatus, .same rfl rfl, trivial, fun other => absurd rfl other⟩
  | returned => cases taken

end

end ResumeCall

namespace Inventory

variable {holder : Holder} {query : Query}

theorem residentCard?_record {alloc : Allocation} (recorded : inv.record alloc = some next)
    (place : inv.residentCard? resident = some dev) : next.residentCard? resident = some dev := by
  obtain ⟨row, own, place⟩ := bind_eq_some_iff.mp place
  obtain ⟨member, same, kind⟩ := resident?_eq_some.mp own
  have kept := resident?_eq_some.mpr ⟨(mem_record recorded).mpr (.inr member), same, kind⟩
  rw [residentCard?, kept]
  exact place

section

variable (run : inv.apply (.borrow id query) = some next)

include run

/-- What a borrow writes: nothing, or the loan of the chosen card and an allocation on it. -/
theorem apply_borrow :
    next = inv ∨ ∃ holder ∈ inv.session id, ∃ target ∈ inv.spotTarget holder query,
      inv.borrow id target = some next := by
  obtain ⟨holder, row, run⟩ := bind_eq_some_iff.mp run
  obtain ⟨⟨last, placed⟩, reserved, same⟩ := map_eq_some_iff.mp run
  obtain rfl : last = next := same
  cases reserveSpotSlice_reserved reserved with
  | refused => exact .inl rfl
  | placed chosen found lends borrowed => exact .inr ⟨holder, row, _, chosen, borrowed⟩

theorem session_borrow : next.session = inv.session := by
  rcases apply_borrow run with rfl | ⟨_, -, target, -, borrowed⟩
  · rfl
  · exact (record_eq_some borrowed).2.1.trans modifyCard_session

theorem kept_borrow (kept : Kept resident dev inv) : Kept resident dev next := by
  rcases apply_borrow run with rfl | ⟨_, -, target, -, borrowed⟩
  · exact kept
  · obtain ⟨cards, sessions, -⟩ := record_eq_some borrowed
    have lent : Kept resident dev
        (inv.modifyCard target.device fun card => { card with lendState := .lent }) :=
      kept.modifyCard
    exact ⟨sessions ▸ lent.yields, residentCard?_record borrowed lent.place, cards ▸ lent.exists_card⟩

theorem recedes_borrow (apart : ∀ holder ∈ inv.session id, ∀ target ∈ inv.spotTarget holder query,
      target.device ≠ dev) : Recedes dev inv next := by
  rcases apply_borrow run with rfl | ⟨holder, row, target, chosen, borrowed⟩
  · exact .same rfl rfl
  · have elsewhere : dev ≠ target.device := (apart holder row target chosen).symm
    refine ⟨fun row member borrows => ?_, fun normal card found => ?_⟩
    · rcases (mem_record borrowed).mp member with rfl | among
      · rw [Allocation.borrows_iff, some_inj] at borrows
        exact absurd borrows.1 (Ne.symm elsewhere)
      · exact modifyCard_live ▸ among
    · rw [(record_eq_some borrowed).1, mem_def, modifyCard_card, if_neg elsewhere] at found
      exact normal card found

end

theorem spotTarget_ne_of_normal {target : Target}
    (normal : ∀ card ∈ inv.card dev, card.lendState = .normal)
    (chosen : inv.spotTarget holder query = some target) : target.device ≠ dev := by
  rintro rfl
  obtain ⟨card, found, lends⟩ := spotTarget_eq_some chosen
  simp [lendable, normal card found] at lends

end Inventory

end GShare.Model

namespace GShare.Soundness.Reclaim

open Machine Inventory Samples ResumeCall Option Reclaiming

/-- The card that a call has looked at and has yet to clear. -/
def reclaimed? : LoanCall → Option DeviceId
  | .resume call => call.reclaims?
  | .borrow .. | .answered => none

/-- The transaction of a call is a clean one: a resume takes its card back, and a borrow chooses a card
that no resume is at work on. -/
def CallsCleanly (resident : SessionId) (pool : Pool Inventory LoanCall) (input : ResumeInput) :
    LoanCall → Prop
  | .resume call => call.TakesBack resident pool.store input
  | .borrow id query => ∀ other ∈ pool.calls, ∀ dev ∈ reclaimed? other,
      ∀ holder ∈ pool.store.session id, ∀ target ∈ pool.store.spotTarget holder query,
        target.device ≠ dev
  | .answered => True

def ReclaimsCleanly (resident : SessionId) (pool : Pool Inventory LoanCall) :
    Action LoanCall ResumeInput Empty → Prop
  | .advance index input => ∀ call ∈ pool.calls[index]?, CallsCleanly resident pool input call
  | .enter _ | .outside _ => True

def Relies (resident : SessionId) (dev : DeviceId) (inv : Inventory) : LoanCall → Prop
  | .resume call => Reclaiming resident dev inv call
  | .borrow .. | .answered => True

/-- A resume under way survives a borrow of a card that no resume is at work on. -/
theorem reclaiming_borrow {query : Query} (run : inv.apply (.borrow id query) = some next)
    (apart : ∀ place ∈ call.reclaims?, ∀ holder ∈ inv.session id,
      ∀ target ∈ inv.spotTarget holder query, target.device ≠ place)
    (reclaiming : Reclaiming resident dev inv call) : Reclaiming resident dev next call := by
  cases call with
  | called | reclaiming | returned => trivial
  | reserving => exact reclaiming
  | preempting place borrower rest stage | clearing place =>
    obtain rfl := reclaiming.1
    exact recedes reclaiming (recedes_borrow run (apart place rfl))
  | resuming =>
    exact recedes reclaiming (recedes_borrow run fun holder _ target chosen =>
      spotTarget_ne_of_normal reclaiming.2 chosen)

theorem keeps_reclaiming : (resumeProgram resident).Keeps (ReclaimsCleanly resident)
    (Kept resident dev) (fun inv _ => Relies resident dev inv) where
  enter := by
    intro pool call _ entry _
    cases call with
    | resume call => cases call <;> trivial
    | borrow id query | answered => trivial
  own := by
    intro pool index input call store after meets found taken kept relies
    have clean := meets call found
    cases call with
    | resume call =>
      obtain ⟨⟨_, point⟩, stepped, same⟩ := map_eq_some_iff.mp taken
      cases same
      obtain ⟨kept, -, reclaiming, -⟩ := next_reclaiming kept relies clean stepped
      exact ⟨kept, reclaiming⟩
    | borrow id query =>
      obtain ⟨_, run, same⟩ := map_eq_some_iff.mp taken
      cases same
      exact ⟨kept_borrow run kept, trivial⟩
    | answered => cases taken
  others := by
    intro pool index input call store after other bystander meets found taken kept relies apart member waits
    have clean := meets call found
    cases bystander with
    | borrow id query | answered => trivial
    | resume waiting =>
      cases call with
      | resume call =>
        obtain ⟨⟨_, point⟩, stepped, same⟩ := map_eq_some_iff.mp taken
        cases same
        obtain ⟨-, recedes, -⟩ := next_reclaiming kept relies clean stepped
        exact Reclaiming.recedes waits recedes
      | borrow id query =>
        obtain ⟨_, run, same⟩ := map_eq_some_iff.mp taken
        cases same
        exact reclaiming_borrow run (clean _ (List.mem_of_getElem? member)) waits
      | answered => cases taken
  outside := by
    intro _ impossible
    exact impossible.elim

def statusOf (inv : Inventory) (id : SessionId) : Option Status :=
  (inv.session id).map Holder.status

/-- Whenever the resident of a card begins to run, nobody borrows that card. -/
theorem resident_resumes_alone {holder : Holder} {card : Card} {first pool next : Pool Inventory LoanCall}
    {actions : List (Action LoanCall ResumeInput Empty)} {action : Action LoanCall ResumeInput Empty}
    (fresh : first.calls = []) (row : first.store.session resident = some holder)
    (yields : holder.pauseMode = .yield) (place : first.store.residentCard? resident = some dev)
    (found : first.store.card dev = some card)
    (run : Run (resumeProgram resident).step (ReclaimsCleanly resident) first actions pool)
    (meets : ReclaimsCleanly resident pool action)
    (taken : (resumeProgram resident).step pool action = some next)
    (idle : statusOf pool.store resident ≠ some .running) (runs : statusOf next.store resident = some .running) :
    next.store.residentCard? resident = some dev ∧ ¬next.store.Borrowed dev := by
  have reached := keeps_reclaiming.run_idle run fresh ⟨⟨holder, row, yields⟩, place, card, found⟩
  have after := keeps_reclaiming.step meets taken reached
  refine ⟨after.store.place, ?_⟩
  cases action with
  | enter call =>
    obtain ⟨-, rfl⟩ := (resumeProgram resident).step_enter taken
    exact absurd runs idle
  | outside change => exact change.elim
  | advance index input =>
    obtain ⟨call, store, point, member, stepped, rfl⟩ := (resumeProgram resident).step_advance taken
    have relies := reached.calls index call member
    cases call with
    | answered => cases stepped
    | borrow id query =>
      obtain ⟨_, borrowed, same⟩ := map_eq_some_iff.mp stepped
      cases same
      rw [statusOf, session_borrow borrowed] at runs
      exact absurd runs idle
    | resume call =>
      obtain ⟨⟨_, _⟩, inner, same⟩ := map_eq_some_iff.mp stepped
      cases same
      obtain ⟨-, -, -, steady⟩ := next_reclaiming reached.store relies (meets _ member) inner
      obtain rfl : call = .resuming := by
        by_contra other
        exact idle ((steady other).symm.trans runs)
      cases inner
      rintro ⟨row, member, borrows⟩
      exact absurd (relies.1 row member borrows) List.not_mem_nil

instance (input : ResumeInput) : Decidable (call.TakesBack resident inv input) := by
  unfold TakesBack
  split <;> infer_instance

instance (pool : Pool Inventory LoanCall) (input : ResumeInput) (call : LoanCall) :
    Decidable (CallsCleanly resident pool input call) := by
  unfold CallsCleanly
  split <;> infer_instance

instance (pool : Pool Inventory LoanCall) (action : Action LoanCall ResumeInput Empty) :
    Decidable (ReclaimsCleanly resident pool action) := by
  unfold ReclaimsCleanly
  split <;> infer_instance

/-- What a card and its sessions look like after some transactions. -/
def afterwards (transactions : List Transaction) : Pool Inventory LoanCall :=
  ⟨(execute Inventory.apply (fun _ _ => True) oneCard transactions).getD oneCard, []⟩

def succeeds (place count : ℕ) : List (Action LoanCall ResumeInput Empty) :=
  List.replicate count (.advance place ⟨true, false, theCard⟩)

/-- A card is borrowed, its resident comes back, and the borrower is terminated first. -/
theorem resident_resumes_alone_reclaimed :
    ∃ pool next, Run (resumeProgram 0).step (ReclaimsCleanly 0) (afterwards (yieldsCard 0 ++ asksForCard 1))
        (.enter (.resume .called) :: succeeds 0 6) pool ∧
      (resumeProgram 0).step pool (.advance 0 ⟨true, false, theCard⟩) = some next ∧
      next.store.residentCard? 0 = some 0 ∧ ¬next.store.Borrowed 0 := by
  refine exists_step_imp (fun pool next => ReclaimsCleanly 0 pool (.advance 0 ⟨true, false, theCard⟩) ∧
    statusOf pool.store 0 = some .paused ∧ statusOf next.store 0 = some .running) (by decide +kernel)
    fun pool next run taken resumed => ?_
  obtain ⟨clean, paused, running⟩ := resumed
  have row : (afterwards (yieldsCard 0 ++ asksForCard 1)).store.session 0 = some { exclusiveHolder .yield false
      with status := .paused, boundGpuUuid := some "GPU-0" } := by
    decide +kernel
  exact resident_resumes_alone rfl row rfl (by decide +kernel) (some_get (by decide +kernel)).symm run
    clean taken (by simp [paused]) running

/-- The resume reads the card as yielded; then a session borrows it; then the loan is cleared and the
resident runs beside the borrower. -/
theorem resident_resumes_over_borrower : ∃ pool next, Run (resumeProgram 0).step (fun _ _ => True)
        (afterwards (yieldsCard 0 ++ [.persist 1 (exclusiveHolder .cold true)]))
        (.enter (.resume .called) :: succeeds 0 2 ++ .enter (.borrow 1 theCard) :: succeeds 1 1
          ++ succeeds 0 1) pool ∧
      (resumeProgram 0).step pool (.advance 0 ⟨true, false, theCard⟩) = some next ∧
      statusOf pool.store 0 = some .paused ∧ statusOf next.store 0 = some .running ∧
      next.store.residentCard? 0 = some 0 ∧ next.store.Borrowed 0 :=
  exists_step_of_execute (by decide +kernel)

end GShare.Soundness.Reclaim
