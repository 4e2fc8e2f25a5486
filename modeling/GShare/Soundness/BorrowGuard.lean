import GShare.Proofs.Cluster.Deployment
import GShare.Soundness.Samples

/-! # The operator admits what the ledger lent

The ledger lends a yielded card by the room that is left on it, to several borrowers if they fit. The guard of
the operator counts custom resources: it wants a yielded resident on the card and no other resource that names
the card, and a paused session keeps its resource with the card it once borrowed. The two agree as long as a
card is lent only while no resource names it, and the session that yielded it is not terminated.
-/

namespace GShare.Model

open Accounting Machine GShare.Soundness Inventory Samples Allocation Roster Option SessionResource
open Card SessionView

variable {inv : Inventory} {id : SessionId} {holder : Holder} {dev : DeviceId} {handoff : Handoff}
variable {dep next : Deployment} {call : DeploymentCall}

/-- The call books, lends or gives up cards, and takes none back. -/
def DeploymentCall.lends : DeploymentCall → Bool
  | .start .. | .demote .. | .reapply .. => false
  | .persist .. | .handOff _ | .reserve .. | .borrow .. | .ran _ | .stop _ | .terminate _ | .finalized _ => true

variable {card : Card} {placed : Bool}

section Loans

/-- The card is still in its resident's hands, or still is not. -/
def Card.SameLoan (before after : Card) : Prop := after.lendState = .normal ↔ before.lendState = .normal

namespace Card

theorem SameLoan.refl (card : Card) : card.SameLoan card := Iff.rfl

theorem sameLoan_setUsed {next : Card} {mem cores : ℕ} (set : card.setUsed mem cores = some next) :
    card.SameLoan next := by
  rw [SameLoan, lendState_setUsed set]

theorem sameLoan_release (card : Card) (alloc : Allocation) : card.SameLoan (card.release alloc) := by
  unfold SameLoan
  cases kind : alloc.kind with
  | resident => rw [lendState_release_resident kind]
  | spot =>
    rw [lendState_release_spot kind]
    cases card.lendState <;> decide

end Card

namespace Inventory

variable {next : Inventory} {query : Query}

theorem reserveSlice_loans (row : inv.session id = some holder)
    (run : inv.reserveSlice id holder query = some (next, placed)) :
    Rel SameLoan (inv.card dev) (next.card dev) := by
  obtain ⟨_, middle, reconciled, rfl | ⟨_, _, books⟩⟩ := reserveSlice_steps row run
  · exact reconcile_related SameLoan.refl sameLoan_setUsed reconciled
  · exact (reconcile_related SameLoan.refl sameLoan_setUsed reconciled).trans_of
      (fun first second => second.trans first)
      (book_related SameLoan.refl sameLoan_setUsed books.booked)

theorem reserveSpotSlice_loans (run : inv.reserveSpotSlice id holder query = some (next, placed)) :
    Rel SameLoan (inv.card dev) (next.card dev) := by
  cases reserveSpotSlice_reserved run with
  | refused => exact Rel.refl_of SameLoan.refl _
  | @placed _ target card _ found lends borrowed =>
    rw [(record_eq_some borrowed).1, modifyCard_card]
    split_ifs with here
    · rw [here, found]
      refine .some ⟨fun normal => ?_, fun normal => absurd normal (lendState_of_lendable lends)⟩
      cases normal
    · exact Rel.refl_of SameLoan.refl _

theorem releaseAllocation_loans :
    Rel SameLoan (inv.card dev) ((inv.releaseAllocation id).card dev) := by
  cases found : inv.live.find? id with
  | none =>
    rw [releaseAllocation, close_of_none found]
    exact Rel.refl_of SameLoan.refl _
  | some alloc =>
    rw [releaseAllocation, close_card found]
    split_ifs
    · exact Rel.map_of (fun card => sameLoan_release card alloc) _
    · exact Rel.refl_of SameLoan.refl _

end Inventory

namespace Deployment

theorem terminate_loans : Rel SameLoan (dep.inventory.card dev)
      ((dep.terminate id).inventory.card dev) := by
  unfold terminate
  split
  · exact Rel.refl_of SameLoan.refl _
  · split_ifs
    · exact Rel.refl_of SameLoan.refl _
    · exact releaseAllocation_loans

structure YieldsCard (handoff : Handoff) (dep : Deployment) (id : SessionId) (holder : Holder)
    (dev : DeviceId) (next : Deployment) : Prop where
  row : dep.inventory.session id = some holder
  running : holder.status = .running
  known : (dep.resources.find? id).isSome
  own : dep.inventory.residentCard? id = some dev
  view : next.view id = (SessionView.mk (some { holder with status := .paused }) (dep.view id).allocation
    (dep.view id).resource).setPaused handoff true holder none none
  mode : holder.pauseMode = .yield
  loan : Rel (fun _ after => after.lendState = .yielded) (dep.inventory.card dev)
    (next.inventory.card dev)

theorem stop_loans {holder : Holder} {paused : Deployment} (row : dep.inventory.session id = some holder)
    (running : holder.status = .running)
    (patched : dep.setPaused handoff id true holder none none = some paused) :
    let next := paused.withInventory (paused.inventory.pause id holder.pauseMode)
    Rel SameLoan (dep.inventory.card dev) (next.inventory.card dev) ∨
      YieldsCard handoff dep id holder dev next := by
  intro next
  have same : next.inventory.card = (dep.inventory.pause id holder.pauseMode).card := by
    rw [← (setPaused_eq_some patched).2.1]
    rfl
  rw [same]
  cases mode : holder.pauseMode with
  | cold => exact .inl releaseAllocation_loans
  | yield =>
    have card : (dep.inventory.pause id .yield).card =
        (dep.inventory.setLendState id .yielded).card := rfl
    rw [card, setLendState]
    split
    · exact .inl (Rel.refl_of SameLoan.refl _)
    next place own =>
      by_cases here : dev = place
      · refine .inr ⟨row, running, (setPaused_eq_some patched).1, here ▸ own, ?_, mode, ?_⟩
        · exact (stop_view row patched).1.trans (by rw [if_pos mode])
        · rw [same, mode, card, setLendState, own, here, modifyCard_card, if_pos rfl]
          refine Rel.map_of ?_ _
          exact fun _ => rfl
      · rw [modifyCard_card, if_neg here]
        exact .inl (Rel.refl_of SameLoan.refl _)

/-- A card changes hands only when its resident yields it. -/
theorem apply_loans (lends : call.lends) (taken : dep.apply handoff call = some next) :
    Rel SameLoan (dep.inventory.card dev) (next.inventory.card dev) ∨
      ∃ id holder, YieldsCard handoff dep id holder dev next := by
  cases call with
  | persist id holder =>
    simp only [apply] at taken
    split_ifs at taken
    obtain ⟨inv, persisted, rfl⟩ := map_eq_some_iff.mp taken
    simp only [Inventory.apply] at persisted
    split_ifs at persisted
    cases persisted
    exact .inl (Rel.refl_of SameLoan.refl _)
  | handOff id =>
    obtain ⟨holder, -, taken⟩ := bind_eq_some_iff.mp taken
    split_ifs at taken
    cases taken
    exact .inl (Rel.refl_of SameLoan.refl _)
  | reserve id query =>
    obtain ⟨holder, row, taken⟩ := bind_eq_some_iff.mp taken
    split_ifs at taken
    obtain ⟨⟨_, placed⟩, run, rfl⟩ := map_eq_some_iff.mp taken
    cases placed <;> exact .inl (reserveSlice_loans row run)
  | borrow id query =>
    obtain ⟨holder, -, taken⟩ := bind_eq_some_iff.mp taken
    split_ifs at taken
    obtain ⟨⟨_, placed⟩, run, rfl⟩ := map_eq_some_iff.mp taken
    cases placed <;> exact .inl (reserveSpotSlice_loans run)
  | ran id =>
    obtain ⟨holder, -, taken⟩ := bind_eq_some_iff.mp taken
    obtain ⟨cr, -, taken⟩ := bind_eq_some_iff.mp taken
    split_ifs at taken
    cases taken
    exact .inl (Rel.refl_of SameLoan.refl _)
  | stop id =>
    obtain ⟨holder, row, ⟨-, rfl⟩ | ⟨running, paused, patched, rfl⟩⟩ := apply_stop taken
    · exact .inl terminate_loans
    · exact (stop_loans row running patched).imp_right fun yields => ⟨id, holder, yields⟩
  | terminate id =>
    obtain ⟨_, -, rfl⟩ := map_eq_some_iff.mp taken
    exact .inl terminate_loans
  | finalized id =>
    obtain ⟨cr, -, taken⟩ := bind_eq_some_iff.mp taken
    split_ifs at taken
    cases taken
    exact .inl (Rel.refl_of SameLoan.refl _)
  | start | demote | reapply => cases lends

end Deployment

end Loans

variable {alloc : Allocation} {cr : SessionResource}

section Views

/-- The status of the resource and the card it names keep step with the allocation. -/
structure SessionView.Tracks (handoff : Handoff) (view : SessionView) : Prop where
  /-- A running pod is bound to the card of its session. -/
  runs : ∀ holder ∈ view.holder, holder.status = .running → ∀ cr ∈ view.resource,
    cr.isPaused = false ∧ ∀ alloc ∈ view.allocation,
      cr.boundGpuUuid = alloc.device.map handoff.uuid
  /-- The resource of a borrower names the card. -/
  named : ∀ alloc ∈ view.allocation, ∀ dev, alloc.borrows dev →
    ∃ cr ∈ view.resource, cr.spec.borrowedGpuUuid = some (handoff.uuid dev)

/-- The session is paused with its pod on the card, and the operator says so. -/
def SessionView.Yields (handoff : Handoff) (dev : DeviceId) (view : SessionView) : Prop :=
  ∃ holder ∈ view.holder, ∃ alloc ∈ view.allocation, ∃ cr ∈ view.resource,
    holder.status = .paused ∧ alloc.occupies dev ∧
      cr.boundGpuUuid = some (handoff.uuid dev) ∧ cr.yieldState = some .yielded

namespace SessionView

variable {view after : SessionView}

theorem tracks_apply {pinned : Option DeviceId} (row : view.holder = some holder)
    (pending : holder.status = .pending) : (view.apply handoff id holder pinned).Tracks handoff := by
  refine ⟨fun changed isChanged running => ?_, fun alloc live place borrows => ⟨_, rfl, ?_⟩⟩
  · obtain rfl : holder = changed := some.inj (row.symm.trans isChanged)
    rw [pending] at running
    cases running
  · have held : view.allocation = some alloc := live
    obtain ⟨isPlace, kind⟩ := borrows_iff.mp borrows
    rw [applied_borrowed, held, filter_some, if_pos (beq_iff_eq.mpr kind),
      bind_some, isPlace, map_some]

theorem Tracks.named_patch {change : SessionResource → SessionResource} {alloc : Option Allocation}
    (tracks : view.Tracks handoff) (fewer : ∀ found ∈ alloc, found ∈ view.allocation)
    (same : ∀ cr, (change cr).spec.borrowedGpuUuid = cr.spec.borrowedGpuUuid) :
    ∀ found ∈ alloc, ∀ dev, found.borrows dev → ∃ cr ∈ view.resource.map change,
      cr.spec.borrowedGpuUuid = some (handoff.uuid dev) := by
  intro found isFound dev borrows
  obtain ⟨cr, isResource, names⟩ := tracks.named found (fewer found isFound) dev borrows
  exact ⟨_, mem_map_of_mem change isResource, (same cr).trans names⟩

/-- A running session that pauses with its pod kept gives way. -/
theorem Tracks.yields (tracks : view.Tracks handoff)
    (row : view.holder = some holder) (running : holder.status = .running) (mode : holder.pauseMode = .yield)
    (live : view.allocation = some alloc) (own : alloc.occupies dev) (known : view.resource.isSome) :
    Yields handoff dev ((SessionView.mk (some { holder with status := .paused }) view.allocation
      view.resource).setPaused handoff true holder none none) := by
  obtain ⟨cr, found⟩ := isSome_iff_exists.mp known
  obtain ⟨active, bound⟩ := tracks.runs holder row running cr found
  have place : alloc.device = some dev := (occupies_iff.mp own).1
  refine ⟨_, rfl, alloc, live, _, mem_map_of_mem _ found, rfl, own, ?_⟩
  simp [SessionResource.setPaused, SessionResource.reconcilePause, SessionSpec.setPaused, active, mode,
    bound alloc live, place]

section

variable (lends : call.lends) (seen : Viewed handoff inv id call view after)

include lends seen

theorem Tracks.viewed (orderly : view.Orderly) (tracks : view.Tracks handoff) : after.Tracks handoff := by
  cases seen with
  | kept => exact tracks
  | persisted partitioned pending =>
    refine ⟨?_, ?_⟩ <;> simp [pending]
  | handedOff row cpu pending => exact tracks_apply row pending
  | booked gpu pending | borrowed gpu pending => exact tracks_apply rfl pending
  | ran row up =>
    refine ⟨?_, tracks.named_patch (fun _ live => live) fun _ => rfl⟩
    rintro _ ⟨⟩ - after isAfter
    obtain ⟨cr, found, rfl⟩ := map_eq_some_iff.mp isAfter
    refine ⟨rfl, fun alloc isAllocation => ?_⟩
    rw [mem_def.mp isAllocation, bind_some]
  | paused row running =>
    refine ⟨?_, tracks.named_patch (fun found isFound => ?_) fun cr => ?_⟩
    · rintro _ ⟨⟩ running
      cases running
    · split_ifs at isFound
      · exact isFound
      · cases isFound
    · rw [setPaused_spec]
      rfl
  | terminated row cause =>
    refine ⟨?_, fun _ live => ?_⟩
    · rintro _ ⟨⟩ running
      cases running
    · cases live
  | finalized found deleting =>
    refine ⟨?_, fun alloc live => ?_⟩
    · simp
    · rw [orderly.undeleted live found] at deleting
      cases deleting
  | reapplied | restarted | rebooked | demoted | promoted => cases lends

/-- A session that gave way keeps its card, unless it is terminated. -/
theorem Yields.viewed (spared : call ≠ .terminate id) (orderly : view.Orderly)
    (yields : view.Yields handoff dev) : after.Yields handoff dev := by
  obtain ⟨holder, row, alloc, live, cr, found, paused, own⟩ := yields
  have same : ∀ other, view.holder = some other → other.status = .paused := by
    intro other isOther
    obtain rfl : holder = other := some.inj (row.symm.trans isOther)
    exact paused
  cases seen with
  | kept => exact ⟨holder, row, alloc, live, cr, found, paused, own⟩
  | persisted => cases row
  | handedOff row cpu pending => exact absurd ((same _ row).symm.trans pending) nofun
  | booked | borrowed => cases live
  | ran row up => rw [same _ row] at up; cases up
  | paused row running => exact absurd ((same _ row).symm.trans running) nofun
  | terminated row cause =>
    rcases cause with ended | ⟨-, up⟩ | ⟨_, _, rfl⟩
    · exact absurd ended spared
    · rw [same _ row] at up
      cases up
    · cases lends
  | @finalized _ deleted isDeleted deleting =>
    have ended := orderly.deleted holder row deleted isDeleted deleting
    exact absurd (paused.symm.trans ended) nofun
  | reapplied | restarted | rebooked | demoted | promoted => cases lends

theorem names_before (orderly : view.Orderly) {card : String}
    (found : after.resource = some cr) (undeleted : cr.deleting = false)
    (names : cr.spec.borrowedGpuUuid = some card) :
    (∃ before ∈ view.resource, before.deleting = false ∧ before.spec.borrowedGpuUuid = some card) ∨
      ∃ query holder target, call = .borrow id query ∧ view.holder = some holder ∧
        inv.spotTarget holder query = some target ∧ handoff.uuid target.device = card := by
  cases seen with
  | kept | persisted => exact .inl ⟨cr, found, undeleted, names⟩
  | handedOff row cpu pending =>
    cases found
    rw [applied_borrowed, orderly.cpu _ row cpu] at names
    cases names
  | booked gpu pending served kind place =>
    cases found
    rw [applied_borrowed, filter_some, kind] at names
    cases names
  | @borrowed query holder alloc target _ gpu pending chosen kind place =>
    cases found
    rw [applied_borrowed, filter_some, kind, if_pos (beq_self_eq_true _), bind_some,
      place] at names
    exact .inr ⟨query, holder, target, rfl, rfl, chosen, some.inj names⟩
  | ran row up =>
    obtain ⟨before, isBefore, rfl⟩ := map_eq_some_iff.mp found
    exact .inl ⟨before, isBefore, undeleted, names⟩
  | paused row running =>
    obtain ⟨before, isBefore, rfl⟩ := map_eq_some_iff.mp found
    rw [setPaused_deleting] at undeleted
    rw [setPaused_spec] at names
    exact .inl ⟨before, isBefore, undeleted, names⟩
  | terminated row cause =>
    obtain ⟨before, -, rfl⟩ := map_eq_some_iff.mp found
    cases undeleted
  | finalized => cases found
  | reapplied | restarted | rebooked | demoted | promoted => cases lends

theorem borrows_before (live : after.allocation = some alloc) (borrows : alloc.borrows dev) :
    view.allocation = some alloc ∨ ∃ query holder target, call = .borrow id query ∧
      view.holder = some holder ∧ inv.spotTarget holder query = some target ∧ target.device = dev := by
  rw [borrows_iff] at borrows
  cases seen with
  | kept | persisted | handedOff | ran | finalized => exact .inl live
  | booked gpu pending served kind place =>
    cases live
    exact absurd (kind.symm.trans borrows.2) nofun
  | @borrowed query holder _ target _ gpu pending chosen kind place =>
    cases live
    exact .inr ⟨query, holder, target, rfl, rfl, chosen, some.inj (place.symm.trans borrows.1)⟩
  | paused row running =>
    simp only [setPaused] at live
    split_ifs at live
    exact .inl live
  | terminated => cases live
  | reapplied | restarted | rebooked | demoted | promoted => cases lends

end

end SessionView

end Views

namespace Deployment

/-- A card is lent only while no resource names it, and a session is terminated only while its own card is in
its hands. -/
def LendsApart (handoff : Handoff) (dep : Deployment) : DeploymentCall → Prop
  | .borrow id query => ∀ holder ∈ dep.inventory.session id, ∀ dev ∈ query.devices,
      dep.inventory.Lends holder query dev → ∀ cr ∈ dep.resources.rows,
        cr.deleting = false → cr.spec.borrowedGpuUuid ≠ some (handoff.uuid dev)
  | .terminate id => ∀ dev ∈ dep.inventory.residentCard? id,
      ∀ card ∈ dep.inventory.card dev, card.lendState = .normal
  | _ => True

instance decidableLendsApart : Decidable (dep.LendsApart handoff call) := by
  unfold Deployment.LendsApart
  split <;> infer_instance

/-- What the guard reads agrees with the ledger. -/
structure Guarded (handoff : Handoff) (dep : Deployment) : Prop where
  orderly : ∀ id, (dep.view id).Orderly
  tracks : ∀ id, (dep.view id).Tracks handoff
  /-- A card that can be lent has a session that gave way. -/
  yielded : ∀ dev, ∀ card ∈ dep.inventory.card dev, card.lendState ≠ .normal →
    ∃ id, (dep.view id).Yields handoff dev
  lent : ∀ id dev, ∀ alloc ∈ (dep.view id).allocation, alloc.borrows dev →
    ∃ card ∈ dep.inventory.card dev, card.lendState ≠ .normal
  /-- Nobody beside the borrower names its card. -/
  apart : ∀ id dev, ∀ alloc ∈ (dep.view id).allocation, alloc.borrows dev →
    ∀ other, other ≠ id → ∀ cr ∈ (dep.view other).resource, cr.deleting = false →
      cr.spec.borrowedGpuUuid ≠ some (handoff.uuid dev)

theorem chosen_apart {query : Query} {target : Target}
    (apart : dep.LendsApart handoff (.borrow id query)) (row : (dep.view id).holder = some holder)
    (chosen : dep.inventory.spotTarget holder query = some target) :
    (∃ card ∈ dep.inventory.card target.device, card.lendState ≠ .normal) ∧
      ∀ other, ∀ cr ∈ (dep.view other).resource, cr.deleting = false →
        cr.spec.borrowedGpuUuid ≠ some (handoff.uuid target.device) := by
  obtain ⟨card, found, lends, -, free⟩ := spotTarget_borrowable chosen
  refine ⟨⟨card, found, lendState_of_lendable lends⟩, fun other cr isResource => ?_⟩
  exact apart holder row target.device free.1 free cr (find?_eq_some_iff.mp isResource).1

theorem spared_of_yields
    (apart : dep.LendsApart handoff call) (yields : (dep.view id).Yields handoff dev)
    (found : dep.inventory.card dev = some card) (loaned : card.lendState ≠ .normal) :
    call ≠ .terminate id := by
  rintro rfl
  obtain ⟨-, -, alloc, live, -, -, -, own, -⟩ := yields
  obtain ⟨place, kind⟩ := occupies_iff.mp own
  have held : dep.inventory.resident? id = some alloc :=
    filter_eq_some_iff.mpr ⟨live, beq_iff_eq.mpr kind⟩
  refine loaned (apart dev ?_ card found)
  rw [residentCard?, held]
  exact place

theorem YieldsCard.yields (yields : YieldsCard handoff dep id holder dev next)
    (tracks : (dep.view id).Tracks handoff) : (next.view id).Yields handoff dev := by
  obtain ⟨alloc, held, place⟩ := bind_eq_some_iff.mp yields.own
  obtain ⟨live, kind⟩ := filter_eq_some_iff.mp held
  rw [yields.view]
  exact tracks.yields yields.row yields.running yields.mode live
    (occupies_iff.mpr ⟨place, beq_iff_eq.mp kind⟩) yields.known

/-- A card out of its resident's hands stays so. -/
theorem loaned_after (lends : call.lends) (taken : dep.apply handoff call = some next)
    (loaned : ∃ card ∈ dep.inventory.card dev, card.lendState ≠ .normal) :
    ∃ card ∈ next.inventory.card dev, card.lendState ≠ .normal := by
  obtain ⟨card, found, loaned⟩ := loaned
  rcases apply_loans lends taken with same | ⟨id, holder, yields⟩
  · obtain ⟨after, isAfter, same⟩ := same.exists_after found
    exact ⟨after, isAfter, fun normal => loaned (same.mp normal)⟩
  · obtain ⟨after, isAfter, given⟩ := yields.loan.exists_after found
    exact ⟨after, isAfter, by rw [given]; decide⟩

theorem guarded_step (lends : call.lends) (apart : dep.LendsApart handoff call)
    (taken : dep.apply handoff call = some next) (guarded : dep.Guarded handoff) :
    next.Guarded handoff := by
  have viewed : ∀ id, Viewed handoff dep.inventory id call (dep.view id) (next.view id) :=
    fun id => apply_viewed taken
  refine ⟨fun id => (guarded.orderly id).viewed (viewed id),
    fun id => (guarded.tracks id).viewed lends (viewed id) (guarded.orderly id), ?_, ?_, ?_⟩
  · intro dev card found loaned
    rcases apply_loans lends taken with same | ⟨id, holder, yields⟩
    · obtain ⟨before, isBefore, same⟩ := same.exists_before found
      have loaned : before.lendState ≠ .normal := fun normal => loaned (same.mpr normal)
      obtain ⟨id, yields⟩ := guarded.yielded dev before isBefore loaned
      exact ⟨id, yields.viewed lends (viewed id) (spared_of_yields apart yields isBefore loaned)
        (guarded.orderly id)⟩
    · exact ⟨id, yields.yields (guarded.tracks id)⟩
  · intro id dev alloc live borrows
    refine loaned_after lends taken ?_
    rcases borrows_before lends (viewed id) live borrows with
      before | ⟨query, holder, target, rfl, row, chosen, rfl⟩
    · exact guarded.lent id dev alloc before borrows
    · exact (chosen_apart apart row chosen).1
  · -- Both were so before, or the call lends the card to one of the two.
    intro id dev alloc live borrows other differs cr isResource undeleted names
    rcases borrows_before lends (viewed id) live borrows with
      before | ⟨query, holder, target, rfl, row, chosen, rfl⟩ <;>
    rcases names_before lends (viewed other) (guarded.orderly other) isResource undeleted names with
      ⟨named, isNamed, kept, same⟩ | ⟨_, _, place, isCall, isHolder, choice, same⟩
    · exact guarded.apart id dev alloc before borrows other differs named isNamed kept same
    · subst isCall
      obtain ⟨own, isOwn, names⟩ := (guarded.tracks id).named alloc before dev borrows
      rw [← same] at names
      exact (chosen_apart apart isHolder choice).2 id own isOwn ((guarded.orderly id).undeleted before isOwn) names
    · exact (chosen_apart apart row chosen).2 other named isNamed kept same
    · cases isCall
      exact differs rfl

/-- The guard lets the borrower pass. -/
theorem Guarded.borrowGuard_ok (guarded : dep.Guarded handoff)
    (live : dep.inventory.live.find? id = some alloc) (borrows : alloc.borrows dev)
    (found : dep.resources.find? id = some cr)
    (names : cr.spec.borrowedGpuUuid = some (handoff.uuid dev)) :
    cr.borrowGuard dep.resources.rows = .ok () := by
  have own : cr.session = id := (find?_eq_some_iff.mp found).2
  obtain ⟨card, isCard, loaned⟩ := guarded.lent id dev alloc live borrows
  obtain ⟨resident, -, -, held, isHeld, yielder, isYielder, -, occupies, bound, state⟩ :=
    guarded.yielded dev card isCard loaned
  obtain ⟨listed, isResident⟩ := find?_eq_some_iff.mp isYielder
  -- The session that gave way is another one: what this one has is a borrow.
  have differs : resident ≠ id := by
    rintro rfl
    obtain rfl : alloc = held := some.inj (live.symm.trans isHeld)
    rw [borrows_iff] at borrows
    rw [occupies_iff, borrows.2] at occupies
    cases occupies.2
  simp only [borrowGuard, names]
  rw [if_neg, if_neg]
  · simp only [List.any_eq_true, List.mem_filter, bne_iff_ne, Bool.and_eq_true, beq_iff_eq,
      Bool.not_eq_true_eq_eq_false, not_exists, not_and]
    intro other isOther same undeleted
    rw [own] at isOther
    refine guarded.apart id dev alloc live borrows other.session isOther.2 other ?_ undeleted same
    exact find?_eq_some_iff.mpr ⟨isOther.1, rfl⟩
  · rw [Bool.not_eq_true, Bool.not_eq_false', List.any_eq_true]
    refine ⟨yielder, List.mem_filter.mpr ⟨listed, ?_⟩, ?_⟩
    · rw [bne_iff_ne, isResident, own]
      exact differs
    · rw [bound, state, beq_self_eq_true]
      rfl

/-- Every session with a live borrow has a resource that names the card and that the guard lets pass, as long as
cards are lent apart. -/
theorem borrowGuard_admits {first last : Deployment} {calls : List DeploymentCall} (fresh : first.Fresh)
    (normal : ∀ dev, ∀ card ∈ first.inventory.card dev, card.lendState = .normal)
    (run : Run (apply handoff) (fun dep call => call.lends ∧ dep.LendsApart handoff call)
      first calls last) : ∀ id alloc dev, last.inventory.live.find? id = some alloc →
      alloc.borrows dev → ∃ cr, last.resources.find? id = some cr ∧
        cr.spec.borrowedGpuUuid = some (handoff.uuid dev) ∧
        cr.borrowGuard last.resources.rows = .ok () := by
  have guarded : last.Guarded handoff := by
    refine run.invariant ⟨fun id => ?_, fun id => ?_, fun dev card found loaned => ?_, ?_, ?_⟩
      fun _ _ _ allowed taken guarded => guarded_step allowed.1 allowed.2 taken guarded
    · rw [fresh.view]
      exact .blank
    · rw [fresh.view]
      refine ⟨?_, ?_⟩ <;> simp
    · exact absurd (normal dev card found) loaned
    all_goals
      intro id dev alloc live
      rw [fresh.view] at live
      cases live
  intro id alloc dev live borrows
  obtain ⟨cr, found, names⟩ := (guarded.tracks id).named alloc live dev borrows
  exact ⟨cr, found, names, guarded.borrowGuard_ok live borrows found names⟩

/-- One exclusive card, and no sessions. -/
def lendingCard : Deployment := ⟨oneCard, .empty _⟩

theorem lendingCard_normal : ∀ dev, ∀ card ∈ lendingCard.inventory.card dev, card.lendState = .normal := by
  intro dev card found
  simp only [lendingCard, oneCard, mem_def] at found
  split_ifs at found
  cases found
  rfl

/-- Preemptible sessions that ask for the whole card, and for half of it. -/
def wholeSpot : Holder := exclusiveHolder .cold true

def halfSpot : Holder := { fractionalHolder 12288 50 with preemptible := true }

/-- Session 0 takes the card and yields it. -/
def cardYielded : List DeploymentCall :=
  [.persist 0 (exclusiveHolder .yield false), .reserve 0 theCard, .ran 0, .stop 0]

def borrowsCard (id : SessionId) (holder : Holder) : List DeploymentCall :=
  [.persist id holder, .borrow id theCard]

def guardAnswers (dep : Deployment) : List (SessionId × Option String) :=
  (dep.inventory.live.rows.filter (·.borrows 0)).filterMap fun alloc =>
    (dep.resources.find? alloc.session).map fun cr =>
      (alloc.session, match cr.borrowGuard dep.resources.rows with
        | .ok _ => none
        | .error reason => some reason)

/-- One borrower after the other: the second comes when the first is terminated. -/
def borrowersInTurn : List DeploymentCall :=
  cardYielded ++ borrowsCard 1 wholeSpot ++ [.ran 1, .terminate 1] ++ borrowsCard 2 halfSpot ++ [.ran 2]

theorem borrowersInTurn_admitted : ∃ last, Run (apply pinsCards)
    (fun dep call => call.lends ∧ dep.LendsApart pinsCards call) lendingCard
      borrowersInTurn last ∧ guardAnswers last = [(2, none)] ∧
    ∀ id alloc dev, last.inventory.live.find? id = some alloc →
      alloc.borrows dev → ∃ cr, last.resources.find? id = some cr ∧
        cr.spec.borrowedGpuUuid = some (pinsCards.uuid dev) ∧
        cr.borrowGuard last.resources.rows = .ok () :=
  exists_run_imp (guardAnswers · = [(2, none)]) (by decide +kernel) fun _ run answers =>
    ⟨answers, borrowGuard_admits ⟨fun _ => rfl, rfl, rfl⟩ lendingCard_normal run⟩

/-- The calls leave sessions with a live borrow to which the guard gives these answers. -/
def AnswersAfter (calls : List DeploymentCall) (answers : List (SessionId × Option String)) : Prop :=
  ∃ last, Run (apply pinsCards) (fun _ call => call.lends) lendingCard calls last ∧
    guardAnswers last = answers

/-- Two sessions share the yielded card; a former borrower is paused; the session that yielded is terminated. -/
theorem borrowGuard_denies :
    AnswersAfter (cardYielded ++ borrowsCard 1 halfSpot ++ [.ran 1] ++ borrowsCard 2 halfSpot)
        [(2, some "card GPU-0 already lent to another spot session"),
          (1, some "card GPU-0 already lent to another spot session")] ∧
      AnswersAfter (cardYielded ++ borrowsCard 1 wholeSpot ++ [.ran 1, .stop 1] ++ borrowsCard 2 wholeSpot)
        [(2, some "card GPU-0 already lent to another spot session")] ∧
      AnswersAfter (cardYielded ++ borrowsCard 1 wholeSpot ++ [.ran 1, .terminate 0, .finalized 0])
        [(1, some "no yielded resident holds card GPU-0")] := by
  refine ⟨?_, ?_, ?_⟩ <;> exact exists_run_of_execute (by decide +kernel)

end Deployment

end GShare.Model
