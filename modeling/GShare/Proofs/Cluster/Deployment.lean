import GShare.Model.Cluster.Deployment
import GShare.Proofs.Cluster.Resource
import GShare.Proofs.Device.Writes

/-! # What a call makes of one session

A session is seen through three rows: its columns, its live allocation and its custom resource. `Viewed` lists
what a call can do to the three rows of a session, its own or another's, and `apply_viewed` says that nothing
else happens. Invariants of single sessions follow by cases; `Orderly` is the one that needs no condition.
-/

namespace GShare.Model

open Accounting Inventory Roster SessionResource Option Bool Deployment Function

variable {holder : Holder} {id first other : SessionId} {handoff : Handoff} {inv : Inventory}
variable {call : DeploymentCall} {query : Query}
variable {status : Status}

theorem Status.ne_terminated_of_isUp (up : status.isUp) : status ≠ .terminated := by
  rintro rfl
  cases up

structure SessionView where
  holder : Option Holder
  allocation : Option Allocation
  resource : Option SessionResource

def Deployment.view (dep : Deployment) (id : SessionId) : SessionView :=
  ⟨dep.inventory.session id, dep.inventory.live.find? id, dep.resources.find? id⟩

def SessionResource.applied (id : SessionId) (cr : Option SessionResource) (spec : SessionSpec) :
    SessionResource :=
  match cr with
  | none => .create id spec
  | some cr => { cr with spec := cr.spec.mergePatch spec }

variable {pinned : Option DeviceId} {cr : Option SessionResource}

namespace SessionResource

variable {cr : Option SessionResource} {spec : SessionSpec}

theorem applied_spec : ∃ graceful, (applied id cr spec).spec = { spec with gracefulDemote := graceful } := by
  cases cr with
  | none => exact ⟨spec.gracefulDemote, rfl⟩
  | some cr => exact ⟨cr.spec.gracefulDemote, rfl⟩

theorem applied_deleting (deleting : (applied id cr spec).deleting) :
    ∃ found ∈ cr, found.deleting := by
  cases cr with
  | none => cases deleting
  | some cr => exact ⟨cr, rfl, deleting⟩

theorem applied_borrowed {handoff : Handoff} {live : Option Allocation} :
    (applied id cr (handoff.desired live holder pinned)).spec.borrowedGpuUuid =
      ((live.filter (·.kind == .spot)).bind Allocation.device).map handoff.uuid := by
  obtain ⟨graceful, same⟩ := @applied_spec id cr (handoff.desired live holder pinned)
  rw [same]
  exact desired_borrowed

end SessionResource

namespace SessionView

def apply (handoff : Handoff) (id : SessionId) (view : SessionView) (holder : Holder)
    (pinned : Option DeviceId) : SessionView :=
  { view with resource := some (.applied id view.resource (handoff.desired view.allocation holder pinned)) }

def setPaused (handoff : Handoff) (view : SessionView) (paused : Bool) (holder : Holder)
    (gracefulDemote : Option Bool) (pinned : Option DeviceId) : SessionView :=
  { view with resource := view.resource.map (·.setPaused handoff paused holder gracefulDemote pinned) }

def terminate (view : SessionView) (holder : Holder) : SessionView where
  holder := some { holder with status := .terminated }
  allocation := none
  resource := view.resource.map fun cr => { cr with deleting := true }

theorem terminate_terminate {view : SessionView} :
    (view.terminate holder).terminate { holder with status := .terminated } = view.terminate holder := by
  simp only [terminate, map_map]
  congr 1

end SessionView

variable (handoff : Handoff) (inv : Inventory) (id : SessionId) in
inductive Viewed : DeploymentCall → SessionView → SessionView → Prop
  | kept {call : DeploymentCall} {view : SessionView} : Viewed call view view
  | persisted {holder : Holder} {cr : Option SessionResource} (partitioned : holder.mode ≠ some .mig)
      (pending : holder.status = .pending) :
      Viewed (.persist id holder) ⟨none, none, cr⟩ ⟨some holder, none, cr⟩
  | handedOff {view : SessionView} {holder : Holder} (row : view.holder = some holder)
      (cpu : holder.resourceClass = .cpu) (pending : holder.status = .pending) :
      Viewed (.handOff id) view (view.apply handoff id holder none)
  | booked {query : Query} {holder : Holder} {alloc : Allocation} {dev : DeviceId}
      {cr : Option SessionResource} (gpu : holder.resourceClass = .gpu)
      (pending : holder.status = .pending) (served : holder.mode.isSome)
      (kind : alloc.kind = .resident) (place : alloc.device = some dev) :
      Viewed (.reserve id query) ⟨some holder, none, cr⟩
        ((SessionView.mk (some holder) (some alloc) cr).apply handoff id holder (some dev))
  | borrowed {query : Query} {holder : Holder} {alloc : Allocation} {target : Target}
      {cr : Option SessionResource} (gpu : holder.resourceClass = .gpu)
      (pending : holder.status = .pending) (chosen : inv.spotTarget holder query = some target)
      (kind : alloc.kind = .spot) (place : alloc.device = some target.device) :
      Viewed (.borrow id query) ⟨some holder, none, cr⟩
        ((SessionView.mk (some holder) (some alloc) cr).apply handoff id holder none)
  | reapplied {view : SessionView} {holder : Holder} {pinned : Option DeviceId}
      (row : view.holder = some holder) (up : holder.status.isUp) (known : view.resource.isSome) :
      Viewed (.reapply id pinned) view (view.apply handoff id holder pinned)
  | ran {view : SessionView} {holder : Holder} (row : view.holder = some holder)
      (up : holder.status.isUp) :
      Viewed (.ran id) view
        ⟨some { holder with status := .running }, view.allocation, view.resource.map fun cr =>
          { cr with
            isPaused := false
            boundGpuUuid := (view.allocation.bind Allocation.device).map handoff.uuid }⟩
  | paused {view : SessionView} {holder : Holder} (row : view.holder = some holder)
      (running : holder.status = .running) :
      Viewed (.stop id) view
        ((SessionView.mk (some { holder with status := .paused })
          (if holder.pauseMode = .yield then view.allocation else none) view.resource).setPaused
            handoff true holder none none)
  | terminated {call : DeploymentCall} {view : SessionView} {holder : Holder}
      (row : view.holder = some holder)
      (cause : call = .terminate id ∨ call = .stop id ∧ holder.status.isUp ∨
        ∃ other query, call = .start other query) :
      Viewed call view (view.terminate holder)
  | restarted {query : Query} {view : SessionView} {holder : Holder} (row : view.holder = some holder)
      (alive : holder.status ≠ .terminated) (held : view.allocation.isSome ∨ holder.resourceClass = .cpu) :
      Viewed (.start id query) view
        ({ view with holder := some { holder with status := .running } }.setPaused handoff false holder none none)
  | rebooked {query : Query} {holder : Holder} {alloc : Allocation} {dev : DeviceId}
      {cr : Option SessionResource} (known : cr.isSome) (alive : holder.status ≠ .terminated)
      (gpu : holder.resourceClass = .gpu) (served : holder.mode.isSome) (kind : alloc.kind = .resident)
      (place : alloc.device = some dev) :
      Viewed (.start id query) ⟨some holder, none, cr⟩
        ((SessionView.mk (some { holder with status := .running }) (some alloc) cr).setPaused
          handoff false holder none (some dev))
  | demoted {first : SessionId} {view : SessionView} {holder : Holder} {graceful : Bool}
      (row : view.holder = some holder) (paused : holder.status = .paused) :
      Viewed (.demote id first) view
        ((SessionView.mk (some { holder with pauseMode := .cold })
          (view.allocation.filter (·.kind == .spot)) view.resource).setPaused
            handoff true { holder with pauseMode := .cold } (some graceful) none)
  | promoted {other first : SessionId} {view : SessionView} {alloc : Allocation}
      (row : view.allocation = some alloc) :
      Viewed (.demote other first) view
        { view with allocation := some { alloc with kind := .resident } }
  | finalized {view : SessionView} {cr : SessionResource} (found : view.resource = some cr)
      (deleting : cr.deleting) :
      Viewed (.finalized id) view { view with resource := none }

/-- How the rows of every session go together. -/
structure SessionView.Orderly (view : SessionView) : Prop where
  known : view.allocation.isSome ∨ view.resource.isSome → view.holder.isSome
  /-- A CPU session has no card. -/
  cpu : ∀ holder ∈ view.holder, holder.resourceClass = .cpu → view.allocation = none
  deleted : ∀ holder ∈ view.holder, ∀ cr ∈ view.resource, cr.deleting →
    holder.status = .terminated
  ended : ∀ holder ∈ view.holder, holder.status = .terminated → view.allocation = none

namespace SessionView.Orderly

variable {view after : SessionView} {alloc : Option Allocation}

theorem blank : Orderly ⟨none, none, none⟩ := by
  refine ⟨?_, ?_, ?_, ?_⟩ <;> simp

theorem undeleted {live : Allocation} {cr : SessionResource} (orderly : view.Orderly)
    (isLive : view.allocation = some live) (found : view.resource = some cr) : cr.deleting = false := by
  obtain ⟨holder, row⟩ := isSome_iff_exists.mp (orderly.known (.inr (by rw [found]; rfl)))
  rw [← not_eq_true]
  intro deleting
  have free := orderly.ended holder row (orderly.deleted holder row cr found deleting)
  rw [isLive] at free
  cases free

/-- Nothing is handed off for a session that has no row. -/
theorem absent (orderly : Orderly ⟨none, none, cr⟩) : cr = none := by
  cases cr with
  | none => rfl
  | some cr => exact absurd (orderly.known (.inr rfl)) (by simp)

theorem apply {pinned : Option DeviceId} (orderly : view.Orderly) (row : view.holder = some holder)
    (alive : holder.status ≠ .terminated) (cpu : holder.resourceClass = .cpu → alloc = none) :
    (SessionView.apply handoff id { view with allocation := alloc } holder pinned).Orderly := by
  have same : ∀ found ∈ view.holder, found = holder := fun found isFound =>
    (some.inj (row.symm.trans isFound)).symm
  refine ⟨fun _ => by simp [SessionView.apply, row], fun found isFound => ?_, fun found isFound => ?_,
    fun found isFound gone => ?_⟩
  · rw [same found isFound]
    exact cpu
  · rintro _ ⟨⟩ deleting
    obtain ⟨cr, isResource, deleting⟩ := applied_deleting deleting
    exact orderly.deleted found isFound cr isResource deleting
  · rw [same found isFound] at gone
    exact absurd gone alive

theorem patch {changed : Holder} {change : SessionResource → SessionResource} (orderly : view.Orderly)
    (row : view.holder = some holder) (alive : holder.status ≠ .terminated)
    (stays : changed.status ≠ .terminated) (keeps : ∀ cr, (change cr).deleting = cr.deleting)
    (cpu : changed.resourceClass = .cpu → alloc = none) :
    Orderly ⟨some changed, alloc, view.resource.map change⟩ := by
  refine ⟨fun _ => rfl, ?_, ?_, ?_⟩
  · rintro _ ⟨⟩
    exact cpu
  · rintro _ ⟨⟩ found isFound deleting
    obtain ⟨cr, isResource, rfl⟩ := map_eq_some_iff.mp isFound
    rw [keeps] at deleting
    exact absurd (orderly.deleted holder row cr isResource deleting) alive
  · rintro _ ⟨⟩ gone
    exact absurd gone stays

theorem terminate : (view.terminate holder).Orderly := by
  refine ⟨fun _ => rfl, fun _ _ _ => rfl, ?_, fun _ _ _ => rfl⟩
  rintro _ ⟨⟩ _ _ _
  rfl

/-- Every change of a session's rows keeps their order. -/
theorem viewed (viewed : Viewed handoff inv id call view after) (orderly : view.Orderly) : after.Orderly := by
  cases viewed with
  | kept => exact orderly
  | persisted =>
    have absent := orderly.absent
    subst absent
    refine ⟨fun _ => rfl, fun _ _ _ => rfl, ?_, fun _ _ _ => rfl⟩
    simp
  | handedOff row cpu pending =>
    exact orderly.apply row (by simp [pending]) fun _ => orderly.cpu _ row cpu
  | booked gpu pending | borrowed gpu pending =>
    exact orderly.apply rfl (by simp [pending]) fun cpu => by simp [gpu] at cpu
  | reapplied row up => exact orderly.apply row (Status.ne_terminated_of_isUp up) (orderly.cpu _ row)
  | @ran _ holder row up =>
    refine orderly.patch row (Status.ne_terminated_of_isUp up) (by simp) ?_ (orderly.cpu holder row)
    exact fun _ => rfl
  | paused row running =>
    refine orderly.patch row (by simp [running]) (by simp) (fun _ => setPaused_deleting) ?_
    intro cpu
    rw [orderly.cpu _ row cpu, ite_self]
  | terminated => exact .terminate
  | @restarted _ _ holder row alive =>
    exact orderly.patch row alive (by simp) (fun _ => setPaused_deleting)
      (orderly.cpu holder row)
  | rebooked known alive gpu =>
    refine orderly.patch rfl alive (by simp) (fun _ => setPaused_deleting) fun cpu => ?_
    simp [gpu] at cpu
  | demoted row paused =>
    refine orderly.patch row (by simp [paused]) (by simp [paused])
      (fun _ => setPaused_deleting) fun cpu => ?_
    rw [orderly.cpu _ row cpu]
    rfl
  | promoted row =>
    have busy : view.allocation ≠ none := by simp [row]
    refine ⟨fun _ => orderly.known (.inl (by simp [row])), fun holder isHolder cpu => ?_, orderly.deleted,
      fun holder isHolder gone => ?_⟩
    · exact absurd (orderly.cpu holder isHolder cpu) busy
    · exact absurd (orderly.ended holder isHolder gone) busy
  | finalized found =>
    refine ⟨fun _ => orderly.known (.inr (by simp [found])), orderly.cpu, ?_, orderly.ended⟩
    simp

end SessionView.Orderly

variable {placed : Bool} {state : LendState} {mode : PauseMode}

namespace Inventory

variable {next : Inventory}

theorem reserveSlice_live (run : inv.reserveSlice id holder query = some (next, placed)) :
    placed = false ∧ next.live = inv.live ∨ placed ∧ holder.mode.isSome ∧ ∃ dev mem cores,
        inv.live.insert ⟨id, some dev, mem, cores, .resident⟩ = some next.live := by
  cases reserveSlice_reserved run with
  | refused reconciled => exact .inl ⟨rfl, reconciled.live⟩
  | @placed middle _ target card reconciled listed _ _ booked =>
    obtain ⟨⟨dev, before⟩, member, -⟩ := List.mem_map.mp listed
    obtain ⟨-, -, meets⟩ := mem_candidates.mp member
    have served : holder.mode.isSome := by
      simp only [placeable, serves, and_eq_true] at meets
      exact isSome_of_any meets.2
    obtain ⟨_, _, -, -, recorded⟩ := booked.card
    have inserted := (record_eq_some recorded).2.2
    refine .inr ⟨rfl, served, target.device, some target.mem, some target.cores, ?_⟩
    rw [← reconciled.live]
    exact inserted

theorem reserveSpotSlice_live (run : inv.reserveSpotSlice id holder query = some (next, placed)) :
    next.session = inv.session ∧ (placed = false ∧ next.live = inv.live ∨
      placed ∧ ∃ target, inv.spotTarget holder query = some target ∧
        inv.live.insert ⟨id, some target.device, some target.mem, some target.cores, .spot⟩ =
          some next.live) := by
  cases reserveSpotSlice_reserved run with
  | refused => exact ⟨rfl, .inl ⟨rfl, rfl⟩⟩
  | @placed _ target card chosen _ _ borrowed =>
    obtain ⟨-, sess, inserted⟩ := record_eq_some borrowed
    rw [modifyCard_live] at inserted
    rw [modifyCard_session] at sess
    exact ⟨sess, .inr ⟨rfl, target, chosen, inserted⟩⟩

theorem setLendState_rows :
    (inv.setLendState id state).session = inv.session ∧ (inv.setLendState id state).live = inv.live := by
  unfold setLendState
  split
  · exact ⟨rfl, rfl⟩
  · exact ⟨modifyCard_session, modifyCard_live⟩

theorem pause_session : (inv.pause id mode).session other =
    if other = id then (inv.session other).map fun holder => { holder with status := .paused }
    else inv.session other := by
  cases mode with
  | yield => simp only [pause, setStatus, modifySession_session, setLendState_rows.1]
  | cold => simp only [pause, setStatus, modifySession_session, releaseAllocation, close_session]

/-- A pause gives the allocation back, unless the pod is kept. -/
theorem pause_find? : (inv.pause id mode).live.find? other =
    if other = id then if mode = .yield then inv.live.find? other else none else inv.live.find? other := by
  cases mode with
  | yield => simp [pause, setStatus, setLendState_rows.2]
  | cold => simp [pause, setStatus, releaseAllocation, close_find?]

theorem find?_resident {row : Allocation} (own : inv.resident? id = some row) :
    (inv.live.find? id).filter (·.kind == .spot) = none := by
  obtain ⟨member, same, kind⟩ := resident?_eq_some.mp own
  rw [find?_eq_some_iff.mpr ⟨member, same⟩, filter_some, kind]
  rfl

/-- A demotion takes the session's own allocation, and may make another's borrow its own. -/
theorem vacated_find? (vacated : inv.Vacated id first next) :
    next.live.find? id = (inv.live.find? id).filter (·.kind == .spot) ∧
      ∀ other, other ≠ id → next.live.find? other = inv.live.find? other ∨
        ∃ row, inv.live.find? other = some row ∧
          next.live.find? other = some { row with kind := .resident } := by
  cases vacated with
  | absent none =>
    refine ⟨?_, fun other _ => .inl rfl⟩
    cases found : inv.live.find? id with
    | none => rfl
    | some row =>
      have notOwn : row.kind ≠ .resident := fun own => by simp [resident?, found, own] at none
      have spot : row.kind = .spot := by
        cases kind : row.kind with
        | spot => rfl
        | resident => exact absurd kind notOwn
      rw [filter_some, spot]
      rfl
  | loose own | emptied own =>
    refine ⟨?_, fun other apart => .inl ?_⟩
    · rw [find?_remove, if_pos rfl, find?_resident own]
    · rw [find?_remove, if_neg apart]
  | @promoted _ borrow _ _ _ own =>
    refine ⟨?_, fun other apart => ?_⟩
    · rw [find?_remove, if_pos rfl, find?_resident own]
    · rw [find?_remove, if_neg apart, promoteBorrow]
      by_cases chosen : other = borrow.session
      · subst chosen
        rw [find?_revise_self]
        cases found : inv.live.find? borrow.session with
        | none => exact .inl rfl
        | some row => exact .inr ⟨row, rfl, rfl⟩
      · exact .inl (find?_revise_of_ne _ chosen)

end Inventory

variable {ending : List SessionId} {dev : DeviceId} {paused : Deployment}

namespace Deployment

variable {dep next : Deployment}
variable {alloc : Allocation}

structure Fresh (dep : Deployment) : Prop where
  sessions : ∀ id, dep.inventory.session id = none
  live : dep.inventory.live.rows = []
  resources : dep.resources.rows = []

theorem Fresh.view (fresh : dep.Fresh) (id : SessionId) : dep.view id = ⟨none, none, none⟩ := by
  simp only [Deployment.view, fresh.sessions, find?, fresh.live, fresh.resources, List.find?_nil]

/-- Only the rows of the session itself change. -/
def KeepsOthers (id : SessionId) (dep next : Deployment) : Prop :=
  ∀ other, other ≠ id → next.view other = dep.view other

theorem KeepsOthers.trans {middle : Deployment} (before : dep.KeepsOthers id middle)
    (after : middle.KeepsOthers id next) : dep.KeepsOthers id next :=
  fun other apart => (after other apart).trans (before other apart)

/-- A call on one session is seen there, and nowhere else. -/
theorem KeepsOthers.viewed (others : dep.KeepsOthers id next)
    (own : Viewed handoff dep.inventory id call (dep.view id) (next.view id)) :
    Viewed handoff dep.inventory other call (dep.view other) (next.view other) := by
  by_cases same : other = id
  · exact same ▸ own
  · rw [others other same]
    exact .kept

theorem setStatus_view (row : (dep.view id).holder = some holder) :
    (dep.setStatus id status).view id =
      { dep.view id with holder := some { holder with status := status } } := by
  have column : ((dep.setStatus id status).view id).holder = some { holder with status := status } := by
    simp only [view, setStatus, withInventory, Inventory.setStatus, Inventory.modifySession_session, if_pos]
    exact congrArg _ row
  exact congrArg (SessionView.mk · _ _) column

theorem setStatus_others : dep.KeepsOthers id (dep.setStatus id status) := by
  intro other apart
  simp only [view, setStatus, withInventory, Inventory.setStatus, Inventory.modifySession_session, if_neg apart,
    modifySession_live]

theorem applyDesired_view : (dep.applyDesired handoff id holder pinned).view id =
      (dep.view id).apply handoff id holder pinned := by
  simp only [view, applyDesired, SessionView.apply]
  congr 1
  cases found : dep.resources.find? id with
  | none =>
    have free : dep.resources.find? (create id
        (handoff.desired (dep.inventory.live.find? id) holder pinned)).session = none := found
    obtain ⟨resources, inserted⟩ := isSome_iff_exists.mp (insert_isSome free)
    rw [inserted]
    exact find?_insert inserted
  | some cr =>
    split
    next resources inserted =>
      have free : dep.resources.find? id = none := (insert_eq_some inserted).1
      rw [free] at found
      cases found
    next => rw [find?_revise_self, found]; rfl

theorem applyDesired_others : dep.KeepsOthers id (dep.applyDesired handoff id holder pinned) := by
  intro other apart
  simp only [view, applyDesired]
  congr 1
  split
  next resources inserted => exact find?_insert_of_ne inserted apart
  next => exact find?_revise_of_ne _ apart

theorem setPaused_eq_some {paused : Bool} {graceful : Option Bool}
    (patched : dep.setPaused handoff id paused holder graceful pinned = some next) :
    (dep.resources.find? id).isSome ∧ next.inventory = dep.inventory ∧
      next.view id = (dep.view id).setPaused handoff paused holder graceful pinned ∧
      dep.KeepsOthers id next := by
  unfold setPaused at patched
  split_ifs at patched with known
  cases patched
  refine ⟨known, rfl, ?_, fun other apart => ?_⟩
  · exact congrArg (SessionView.mk _ _) (find?_revise_self setPaused_session)
  · exact congrArg (SessionView.mk _ _)
      (find?_revise_of_ne setPaused_session apart)

def LeavesOrEnds (id : SessionId) (dep next : Deployment) : Prop :=
  next.view id = dep.view id ∨
    ∃ holder, (dep.view id).holder = some holder ∧ next.view id = (dep.view id).terminate holder

theorem terminate_view : dep.LeavesOrEnds id (dep.terminate id) := by
  unfold terminate
  split
  · exact .inl rfl
  next holder row =>
    split_ifs
    · exact .inl rfl
    · refine .inr ⟨holder, row, ?_⟩
      simp only [view, SessionView.terminate, Inventory.setStatus, Inventory.modifySession_session, if_pos,
        modifySession_live, Inventory.releaseAllocation, Inventory.close_session, row,
        Inventory.close_find?, find?_revise_self, map_some]

theorem terminate_others : dep.KeepsOthers id (dep.terminate id) := by
  intro other apart
  unfold terminate
  split
  · rfl
  · split_ifs
    · rfl
    · simp only [view, Inventory.setStatus, Inventory.modifySession_session, if_neg apart,
        modifySession_live, releaseAllocation, close_session,
        close_find?, find?_revise_of_ne _ apart]

theorem foldl_terminate_view : dep.LeavesOrEnds id (ending.foldl terminate dep) := by
  induction ending generalizing dep with
  | nil => exact .inl rfl
  | cons ended rest ih =>
    simp only [List.foldl_cons]
    have here : dep.LeavesOrEnds id (dep.terminate ended) := by
      by_cases same : id = ended
      · exact same ▸ terminate_view
      · exact .inl (terminate_others id same)
    rcases here with kept | ⟨holder, row, gone⟩
    · rw [LeavesOrEnds, ← kept]
      exact ih
    · rcases @ih (dep.terminate ended) with kept | ⟨ended, again, gone'⟩
      · exact .inr ⟨holder, row, kept.trans gone⟩
      · rw [gone] at again gone'
        cases again
        exact .inr ⟨holder, row, gone'.trans SessionView.terminate_terminate⟩

theorem foldl_terminate_of_notMem (spared : id ∉ ending) :
    (ending.foldl terminate dep).view id = dep.view id := by
  induction ending generalizing dep with
  | nil => rfl
  | cons ended rest ih =>
    obtain ⟨apart, spared⟩ := not_or.mp (mt List.mem_cons.mpr spared)
    rw [List.foldl_cons, ih spared, terminate_others id apart]

theorem notMem_borrowers
    (own : dep.inventory.residentCard? id = some dev) : id ∉ dep.borrowers dev state := by
  obtain ⟨alloc, resident, -⟩ := bind_eq_some_iff.mp own
  unfold borrowers
  split_ifs
  · intro among
    obtain ⟨row, member, same⟩ := List.mem_map.mp among
    obtain ⟨member, borrows⟩ := List.mem_filter.mp member
    exact session_ne_of_borrows resident member borrows same
  · exact List.not_mem_nil

theorem clearLoan_view {change : Card → Card} :
    (dep.withInventory (dep.inventory.modifyCard dev change)).view id = dep.view id := by
  simp only [view, withInventory, modifyCard_session, modifyCard_live]

/-- A reclaim ends sessions of others, and leaves the resident's rows. -/
theorem reclaim_view (freed : dep.reclaim id = some next) :
    next.view id = dep.view id ∧ ∀ other, dep.LeavesOrEnds other next := by
  unfold reclaim at freed
  split at freed
  · cases freed
    exact ⟨rfl, fun other => .inl rfl⟩
  · cases freed
    exact ⟨rfl, fun other => .inl rfl⟩
  next dev state lendable loan =>
    dsimp only at freed
    split_ifs at freed
    cases freed
    obtain ⟨own, isOwn, card⟩ := bind_eq_some_iff.mp loan
    obtain ⟨card, -, same⟩ := map_eq_some_iff.mp card
    cases same
    refine ⟨?_, fun other => ?_⟩
    · rw [clearLoan_view, foldl_terminate_of_notMem (notMem_borrowers isOwn)]
    · rw [LeavesOrEnds, clearLoan_view]
      exact foldl_terminate_view

section Calls

theorem withInventory_view (sess : inv.session = dep.inventory.session)
    (live : inv.live = dep.inventory.live) : (dep.withInventory inv).view id = dep.view id := by
  simp only [view, withInventory, sess, live]

theorem inserted_view (sess : inv.session = dep.inventory.session)
    (inserted : dep.inventory.live.insert alloc = some inv.live)
    (own : alloc.session = id) (row : dep.inventory.session id = some holder) :
    dep.view id = ⟨some holder, none, dep.resources.find? id⟩ ∧ (dep.withInventory inv).view id =
        ⟨some holder, some alloc, dep.resources.find? id⟩ ∧
      dep.KeepsOthers id (dep.withInventory inv) := by
  subst own
  refine ⟨?_, ?_, fun other apart => ?_⟩
  · simp only [view, row, (insert_eq_some inserted).1]
  · simp only [view, withInventory, sess, row, find?_insert inserted]
  · simp only [view, withInventory, sess, find?_insert_of_ne inserted apart]

theorem bookedCard?_of_view {row : Option Holder}
    (seen : dep.view id = ⟨row, some alloc, cr⟩) : dep.bookedCard? id = alloc.device := by
  have found : dep.inventory.live.find? id = some alloc := congrArg SessionView.allocation seen
  rw [bookedCard?, found, bind_some]

section

variable (row : dep.inventory.session id = some holder)

include row

theorem reserve_viewed (gpu : holder.resourceClass = .gpu) (pending : holder.status = .pending)
    (run : dep.inventory.reserveSlice id holder query = some (inv, placed)) :
    Viewed handoff dep.inventory other (.reserve id query) (dep.view other)
      ((if placed then (dep.withInventory inv).applyDesired handoff id holder
        ((dep.withInventory inv).bookedCard? id) else dep.withInventory inv).view other) := by
  have sess := reserveSlice_session run
  rcases reserveSlice_live run with ⟨rfl, live⟩ | ⟨rfl, served, dev, mem, cores, inserted⟩
  · exact (withInventory_view sess live : _ = dep.view other) ▸ .kept
  · obtain ⟨before, after, others⟩ := inserted_view sess inserted rfl row
    refine (others.trans applyDesired_others).viewed ?_
    rw [applyDesired_view, bookedCard?_of_view after, after, before]
    exact .booked gpu pending served rfl rfl

theorem borrow_viewed (gpu : holder.resourceClass = .gpu) (pending : holder.status = .pending)
    (run : dep.inventory.reserveSpotSlice id holder query = some (inv, placed)) :
    Viewed handoff dep.inventory other (.borrow id query) (dep.view other)
      ((if placed then (dep.withInventory inv).applyDesired handoff id holder
        none else dep.withInventory inv).view other) := by
  obtain ⟨sess, ⟨rfl, live⟩ | ⟨rfl, target, chosen, inserted⟩⟩ := reserveSpotSlice_live run
  · exact (withInventory_view sess live : _ = dep.view other) ▸ .kept
  · obtain ⟨before, after, others⟩ := inserted_view sess inserted rfl row
    refine (others.trans applyDesired_others).viewed ?_
    rw [applyDesired_view, after, before]
    exact .borrowed gpu pending chosen rfl rfl

theorem start_viewed (run : dep.start handoff id holder query = some next) :
    Viewed handoff dep.inventory other (.start id query) (dep.view other) (next.view other) := by
  unfold start at run
  split_ifs at run with refused kept gpu
  all_goals
    have alive : holder.status ≠ .terminated := by
      intro gone
      rw [gone] at refused
      exact refused rfl
  · obtain ⟨freed, reclaimed, patched⟩ := bind_eq_some_iff.mp run
    obtain ⟨own, ended⟩ := reclaim_view reclaimed
    obtain ⟨-, -, here, others⟩ := setPaused_eq_some patched
    by_cases same : other = id
    · rw [same, here, setStatus_view ((congrArg SessionView.holder own).trans row), own]
      exact .restarted row alive (.inl kept.2)
    · rw [others other same, setStatus_others other same]
      rcases ended other with same | ⟨gone, isGone, same⟩
      · rw [same]
        exact .kept
      · rw [same]
        exact .terminated isGone (.inr (.inr ⟨id, query, rfl⟩))
  · obtain ⟨⟨inv, placed⟩, reserved, run⟩ := bind_eq_some_iff.mp run
    have sess := reserveSlice_session reserved
    rcases reserveSlice_live reserved with ⟨rfl, live⟩ | ⟨rfl, served, dev, mem, cores, inserted⟩
    · cases run
      exact (withInventory_view sess live : _ = dep.view other) ▸ .kept
    · obtain ⟨before, after, elsewhere⟩ := inserted_view sess inserted rfl row
      obtain ⟨known, -, here, others⟩ := setPaused_eq_some run
      refine ((elsewhere.trans setStatus_others).trans others).viewed ?_
      rw [here, setStatus_view (congrArg SessionView.holder after), bookedCard?_of_view after, after, before]
      exact .rebooked known alive gpu served rfl rfl
  · obtain ⟨-, -, here, others⟩ := setPaused_eq_some run
    have cpu : holder.resourceClass = .cpu := by
      cases isClass : holder.resourceClass with
      | cpu => rfl
      | gpu => exact absurd isClass gpu
    refine (setStatus_others.trans others).viewed ?_
    rw [here, setStatus_view row]
    exact .restarted row alive (.inr cpu)

theorem demote_viewed (run : dep.demote handoff id first holder = some next) :
    Viewed handoff dep.inventory other (.demote id first) (dep.view other) (next.view other) := by
  unfold demote at run
  split_ifs at run with eligible
  obtain ⟨demoted, ended, patched⟩ := bind_eq_some_iff.mp run
  obtain ⟨vacated, taken, rfl⟩ := demote_vacated ended
  obtain ⟨-, -, here, others⟩ := setPaused_eq_some patched
  obtain ⟨own, elsewhere⟩ := vacated_find? taken
  have sess := taken.session
  by_cases same : other = id
  · have seen : (dep.withInventory (vacated.modifySession id fun holder =>
        { holder with pauseMode := .cold })).view id = ⟨some { holder with pauseMode := .cold },
          (dep.view id).allocation.filter (·.kind == .spot), (dep.view id).resource⟩ := by
      simp only [view, withInventory, modifySession_session, if_pos, sess, row, map_some,
        modifySession_live, own]
    rw [same, here, seen]
    exact .demoted row eligible.1
  · rw [others other same]
    simp only [view, withInventory, modifySession_session, if_neg same, sess,
      modifySession_live]
    rcases elsewhere other same with kept | ⟨borrow, found, promoted⟩
    · rw [kept]
      exact .kept
    · rw [promoted]
      exact .promoted found

/-- What a pause leaves of the session's rows, and of all others. -/
theorem stop_view (patched : dep.setPaused handoff id true holder none none = some paused) :
    (paused.withInventory (paused.inventory.pause id holder.pauseMode)).view id =
        (SessionView.mk (some { holder with status := .paused })
          (if holder.pauseMode = .yield then (dep.view id).allocation else none)
          (dep.view id).resource).setPaused handoff true holder none none ∧
      dep.KeepsOthers id (paused.withInventory (paused.inventory.pause id holder.pauseMode)) := by
  obtain ⟨-, same, here, others⟩ := setPaused_eq_some patched
  have cr : ∀ other, paused.resources.find? other = (paused.view other).resource := fun _ => rfl
  refine ⟨?_, fun other apart => ?_⟩
  · simp only [view, withInventory, SessionView.setPaused, same, pause_session, pause_find?,
      if_pos, row, map_some]
    exact congrArg (SessionView.mk _ _) ((cr id).trans (congrArg SessionView.resource here))
  · simp only [view, withInventory, same, pause_session, pause_find?, if_neg apart]
    exact congrArg (SessionView.mk _ _)
      ((cr other).trans (congrArg SessionView.resource (others other apart)))

theorem stop_viewed (running : holder.status = .running)
    (patched : dep.setPaused handoff id true holder none none = some paused) :
    Viewed handoff dep.inventory other (.stop id) (dep.view other)
      ((paused.withInventory (paused.inventory.pause id holder.pauseMode)).view other) := by
  obtain ⟨own, others⟩ := stop_view row patched
  exact others.viewed (own ▸ .paused row running)

theorem terminate_viewed (cause : call = .terminate id ∨ call = .stop id ∧ holder.status.isUp) :
    Viewed handoff dep.inventory other call (dep.view other) ((dep.terminate id).view other) := by
  refine terminate_others.viewed ?_
  rcases terminate_view with kept | ⟨ended, isEnded, gone⟩
  · exact kept ▸ .kept
  · rw [gone]
    obtain rfl : holder = ended := some.inj (row.symm.trans isEnded)
    exact .terminated row (cause.imp_right .inl)

end

theorem persist_viewed (absent : dep.inventory.session id = none)
    (free : dep.inventory.live.find? id = none) (partitioned : holder.mode ≠ some .mig)
    (pending : holder.status = .pending) :
    Viewed handoff dep.inventory other (.persist id holder) (dep.view other)
      ((dep.withInventory { dep.inventory with
        session := update dep.inventory.session id (some holder) }).view other) := by
  by_cases same : other = id
  · subst same
    simp only [view, withInventory, update_self, absent, free]
    exact .persisted partitioned pending
  · simp only [view, withInventory, update_of_ne same]
    exact .kept

theorem ran_viewed (row : dep.inventory.session id = some holder) (up : holder.status.isUp) :
    Viewed handoff dep.inventory other (.ran id) (dep.view other)
      (view { dep.setStatus id .running with
        resources := dep.resources.revise id (fun cr => { cr with
          isPaused := false
          boundGpuUuid := (dep.bookedCard? id).map handoff.uuid }) fun _ => rfl } other) := by
  by_cases same : other = id
  · subst same
    simp only [view, setStatus, withInventory, Inventory.setStatus, Inventory.modifySession_session, if_pos,
      modifySession_live, row, map_some, find?_revise_self]
    exact .ran rfl up
  · simp only [view, setStatus, withInventory, Inventory.setStatus, Inventory.modifySession_session,
      if_neg same, modifySession_live, find?_revise_of_ne _ same]
    exact .kept

theorem finalized_viewed {cr : SessionResource} (found : dep.resources.find? id = some cr)
    (deleting : cr.deleting) : Viewed handoff dep.inventory other (.finalized id) (dep.view other)
      (view { dep with resources := dep.resources.remove id } other) := by
  simp only [view, find?_remove]
  by_cases same : other = id
  · subst same
    rw [if_pos rfl]
    exact .finalized found deleting
  · rw [if_neg same]
    exact .kept

theorem apply_stop (taken : dep.apply handoff (.stop id) = some next) :
    ∃ holder, dep.inventory.session id = some holder ∧
      (holder.status.isUp ∧ next = dep.terminate id ∨ holder.status = .running ∧
        ∃ paused, dep.setPaused handoff id true holder none none = some paused ∧
          next = paused.withInventory (paused.inventory.pause id holder.pauseMode)) := by
  obtain ⟨holder, row, taken⟩ := bind_eq_some_iff.mp taken
  refine ⟨holder, row, ?_⟩
  cases status : holder.status <;> simp only [status] at taken
  case pending | preparing =>
    cases taken
    exact .inl ⟨rfl, rfl⟩
  case running =>
    obtain ⟨paused, patched, rfl⟩ := map_eq_some_iff.mp taken
    exact .inr ⟨rfl, paused, patched, rfl⟩
  all_goals cases taken

/-- What every call does to every session. -/
theorem apply_viewed (taken : dep.apply handoff call = some next) :
    Viewed handoff dep.inventory other call (dep.view other) (next.view other) := by
  cases call with
  | persist id holder =>
    simp only [apply] at taken
    split_ifs at taken with partitioned
    obtain ⟨inv, persisted, rfl⟩ := map_eq_some_iff.mp taken
    simp only [Inventory.apply] at persisted
    split_ifs at persisted with fresh
    cases persisted
    simp only [isNone_iff_eq_none] at fresh
    exact persist_viewed fresh.1 fresh.2.1 partitioned fresh.2.2
  | handOff id =>
    obtain ⟨holder, row, taken⟩ := bind_eq_some_iff.mp taken
    split_ifs at taken with cpu
    cases taken
    exact applyDesired_others.viewed (applyDesired_view ▸ .handedOff row cpu.1 cpu.2)
  | reserve id query =>
    obtain ⟨holder, row, taken⟩ := bind_eq_some_iff.mp taken
    split_ifs at taken with admitted
    obtain ⟨⟨inv, placed⟩, run, rfl⟩ := map_eq_some_iff.mp taken
    exact reserve_viewed row admitted.1 admitted.2 run
  | borrow id query =>
    obtain ⟨holder, row, taken⟩ := bind_eq_some_iff.mp taken
    split_ifs at taken with admitted
    obtain ⟨⟨inv, placed⟩, run, rfl⟩ := map_eq_some_iff.mp taken
    exact borrow_viewed row admitted.1 admitted.2 run
  | reapply id pinned =>
    obtain ⟨holder, row, taken⟩ := bind_eq_some_iff.mp taken
    split_ifs at taken with admitted
    cases taken
    obtain ⟨up, known⟩ := and_eq_true_iff.mp admitted
    exact applyDesired_others.viewed (applyDesired_view ▸ .reapplied row up known)
  | ran id =>
    obtain ⟨holder, row, taken⟩ := bind_eq_some_iff.mp taken
    obtain ⟨cr, found, taken⟩ := bind_eq_some_iff.mp taken
    split_ifs at taken with admitted
    cases taken
    exact ran_viewed row (and_eq_true_iff.mp admitted).1
  | stop id =>
    obtain ⟨holder, row, ⟨up, rfl⟩ | ⟨running, paused, patched, rfl⟩⟩ := apply_stop taken
    · exact terminate_viewed row (.inr ⟨rfl, up⟩)
    · exact stop_viewed row running patched
  | start id query =>
    obtain ⟨holder, row, taken⟩ := bind_eq_some_iff.mp taken
    exact start_viewed row taken
  | demote id first =>
    obtain ⟨holder, row, taken⟩ := bind_eq_some_iff.mp taken
    exact demote_viewed row taken
  | terminate id =>
    obtain ⟨holder, row, rfl⟩ := map_eq_some_iff.mp taken
    exact terminate_viewed row (.inl rfl)
  | finalized id =>
    obtain ⟨cr, found, taken⟩ := bind_eq_some_iff.mp taken
    split_ifs at taken with deleting
    cases taken
    exact finalized_viewed found deleting

end Calls

end Deployment

end GShare.Model
