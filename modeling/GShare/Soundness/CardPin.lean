import GShare.Proofs.Cluster.Deployment
import GShare.Soundness.Samples

/-! # The pod runs on the card that the ledger booked

A handoff writes the card of the live allocation to the custom resource, as a pinned one or as a borrowed one,
and the pod builder reads the borrowed one first. A resume that books another card writes only the pinned one:
a session that once borrowed a card and is resumed on a card of its own is sent back to the card it borrowed.
As long as no such session is resumed, and a repeated handoff still carries the card, the pod follows the
ledger.
-/

namespace GShare.Model

open Machine GShare.Soundness SessionResource Samples Builder Option

/-- A session without an allocation names no borrowed card. -/
def SessionView.Unlent (view : SessionView) : Prop :=
  view.allocation = none → ∀ cr ∈ view.resource, cr.spec.borrowedGpuUuid = none

/-- The session object carries the card of the session's own allocation, which was never a borrow. -/
def SessionView.Carries (view : SessionView) (pinned : Option DeviceId) : Prop :=
  ∀ alloc ∈ view.allocation, alloc.kind = .resident →
    pinned = alloc.device ∧ ∀ cr ∈ view.resource, cr.spec.borrowedGpuUuid = none

/-- What the ledger and the custom resource say of one session agrees. -/
structure SessionView.Agrees (handoff : Handoff) (view : SessionView) : Prop where
  unpartitioned : ∀ holder ∈ view.holder, holder.mode ≠ some .mig
  resourceClass : ∀ holder ∈ view.holder, ∀ cr ∈ view.resource,
    cr.spec.resourceClass = holder.resourceClass
  mode : ∀ holder ∈ view.holder, holder.resourceClass = .gpu → ∀ cr ∈ view.resource,
    cr.spec.mode = holder.mode
  /-- A CPU session names no card. -/
  cpu : ∀ holder ∈ view.holder, holder.resourceClass = .cpu → ∀ cr ∈ view.resource,
    cr.spec.borrowedGpuUuid = none
  /-- A live allocation is on the card that the resource names. -/
  held : ∀ alloc ∈ view.allocation, ∃ dev, alloc.device = some dev ∧
    ∃ cr ∈ view.resource, cr.spec.Names (handoff.uuid dev)
  /-- A GPU session that was handed off and runs has an allocation. -/
  up : ∀ holder ∈ view.holder, holder.resourceClass = .gpu → holder.status.isUp →
    view.resource.isSome → view.allocation.isSome

variable {pinned : Option DeviceId} {dev : DeviceId} {alloc : Allocation}

namespace SessionView

variable {handoff : Handoff} {id : SessionId} {call : DeploymentCall} {view after : SessionView} {holder : Holder}

theorem agrees_apply
    (row : view.holder = some holder) (gpu : holder.resourceClass = .gpu) (unpartitioned : holder.mode ≠ some .mig)
    (live : view.allocation = some alloc) (place : alloc.device = some dev)
    (names : (handoff.desired (some alloc) holder pinned).Names (handoff.uuid dev)) :
    (view.apply handoff id holder pinned).Agrees handoff := by
  obtain ⟨graceful, spec⟩ :=
    @applied_spec id view.resource (handoff.desired view.allocation holder pinned)
  refine ⟨?_, ?_, ?_, ?_, ?_, ?_⟩
  · simpa [apply, row] using unpartitioned
  · simp [apply, row, spec, desired_resourceClass]
  · simp [apply, row, spec, desired_mode gpu]
  · simp [apply, row, gpu]
  · rintro found isFound
    obtain rfl : alloc = found := some.inj (live.symm.trans isFound)
    refine ⟨dev, place, _, rfl, ?_⟩
    rw [spec, live]
    exact names
  · intro _ _ _ _ _
    simp [apply, live]

theorem agrees_apply_cpu (row : view.holder = some holder)
    (cpu : holder.resourceClass = .cpu) (idle : view.allocation = none) (agrees : view.Agrees handoff) :
    (view.apply handoff id holder pinned).Agrees handoff := by
  obtain ⟨graceful, spec⟩ := @applied_spec id view.resource (handoff.desired none holder pinned)
  refine ⟨agrees.unpartitioned, ?_, ?_, ?_, ?_, ?_⟩
  · simp [apply, row, idle, spec, desired_resourceClass]
  · simp [apply, row, cpu]
  · simp [apply, row, idle, spec, desired_borrowed]
  · simp [apply, idle]
  · simp [apply, row, cpu]

/-- A change of the status, with a patch that leaves the card. -/
theorem Agrees.of_patch {changed : Holder} {change : SessionResource → SessionResource}
    (agrees : view.Agrees handoff) (row : view.holder = some holder)
    (same : changed.resourceClass = holder.resourceClass ∧ changed.mode = holder.mode)
    (patch : ∀ cr, (change cr).spec.resourceClass = cr.spec.resourceClass ∧
      (change cr).spec.mode = cr.spec.mode ∧
      (change cr).spec.borrowedGpuUuid = cr.spec.borrowedGpuUuid ∧
      (change cr).spec.pinnedGpuUuid = cr.spec.pinnedGpuUuid)
    {alloc : Option Allocation} (fewer : ∀ found ∈ alloc, found ∈ view.allocation)
    (up : changed.resourceClass = .gpu → changed.status.isUp → view.resource.isSome → alloc.isSome) :
    Agrees handoff ⟨some changed, alloc, view.resource.map change⟩ := by
  refine ⟨?_, ?_, ?_, ?_, ?_, ?_⟩
  · rintro _ ⟨⟩
    rw [same.2]
    exact agrees.unpartitioned holder row
  · rintro _ ⟨⟩ after isAfter
    obtain ⟨cr, found, rfl⟩ := map_eq_some_iff.mp isAfter
    rw [(patch cr).1, same.1]
    exact agrees.resourceClass holder row cr found
  · rintro _ ⟨⟩ gpu after isAfter
    obtain ⟨cr, found, rfl⟩ := map_eq_some_iff.mp isAfter
    rw [(patch cr).2.1, same.2]
    exact agrees.mode holder row (same.1 ▸ gpu) cr found
  · rintro _ ⟨⟩ cpu after isAfter
    obtain ⟨cr, found, rfl⟩ := map_eq_some_iff.mp isAfter
    rw [(patch cr).2.2.1]
    exact agrees.cpu holder row (same.1 ▸ cpu) cr found
  · intro found isFound
    obtain ⟨dev, place, cr, known, names⟩ := agrees.held found (fewer found isFound)
    obtain ⟨-, mode, borrowed, pinned⟩ := patch cr
    refine ⟨dev, place, change cr, mem_map_of_mem change known, ?_⟩
    unfold SessionSpec.Names
    rwa [borrowed, pinned, mode]
  · rintro _ ⟨⟩ gpu isUp known
    exact up gpu isUp (by simpa using known)

theorem patch_setPaused {paused : Bool} {graceful : Option Bool} (cr : SessionResource) :
    let patched := cr.setPaused handoff paused holder graceful none
    patched.spec.resourceClass = cr.spec.resourceClass ∧ patched.spec.mode = cr.spec.mode ∧
      patched.spec.borrowedGpuUuid = cr.spec.borrowedGpuUuid ∧
      patched.spec.pinnedGpuUuid = cr.spec.pinnedGpuUuid := by
  simp [setPaused_spec, SessionSpec.setPaused]

section

variable (pinning : handoff.perCardMode)

include pinning

/-- A repeated handoff that still carries the card. -/
theorem Agrees.reapply
    (agrees : view.Agrees handoff) (row : view.holder = some holder) (gpu : holder.resourceClass = .gpu)
    (up : holder.status.isUp) (known : view.resource.isSome) (carries : view.Carries pinned) :
    (view.apply handoff id holder pinned).Agrees handoff := by
  obtain ⟨alloc, live⟩ := isSome_iff_exists.mp (agrees.up holder row gpu up known)
  obtain ⟨dev, place, cr, found, names⟩ := agrees.held alloc live
  refine agrees_apply row gpu (agrees.unpartitioned holder row) live place ?_
  cases kind : alloc.kind with
  | spot => exact names_desired_spot kind place
  | resident =>
    obtain ⟨isPinned, free⟩ := carries alloc live kind
    have served : cr.spec.mode.isSome := by
      rcases names with borrowed | ⟨-, -, served⟩
      · exact absurd ((free cr found).symm.trans borrowed) nofun
      · exact served
    rw [agrees.mode holder row gpu cr found] at served
    rw [isPinned, place]
    exact names_desired_resident pinning gpu served kind

/-- A resume that books a card for a session without a borrowed one. -/
theorem Agrees.rebook {cr : Option SessionResource} (agrees : Agrees handoff ⟨some holder, none, cr⟩)
    (unlent : Unlent ⟨some holder, none, cr⟩) (known : cr.isSome)
    (gpu : holder.resourceClass = .gpu) (served : holder.mode.isSome) (place : alloc.device = some dev) :
    ((SessionView.mk (some { holder with status := .running }) (some alloc) cr).setPaused
      handoff false holder none (some dev)).Agrees handoff := by
  obtain ⟨cr, rfl⟩ := isSome_iff_exists.mp known
  have free := unlent rfl cr rfl
  refine ⟨?_, ?_, ?_, ?_, ?_, ?_⟩
  · rintro _ ⟨⟩
    exact agrees.unpartitioned holder rfl
  · rintro _ ⟨⟩ _ ⟨⟩
    rw [setPaused_spec]
    exact agrees.resourceClass holder rfl cr rfl
  · rintro _ ⟨⟩ _ _ ⟨⟩
    rw [setPaused_spec]
    exact agrees.mode holder rfl gpu cr rfl
  · rintro _ ⟨⟩ cpu
    exact absurd (cpu.symm.trans gpu) nofun
  · rintro _ ⟨⟩
    refine ⟨dev, place, _, rfl, .inr ?_⟩
    simp [setPaused_spec, SessionSpec.setPaused, free, pinning,
      agrees.mode holder rfl gpu cr rfl, served]
  · exact fun _ _ _ _ _ => rfl

/-- Every change of a session's rows keeps the agreement. -/
theorem Agrees.viewed {inv : Inventory} (viewed : Viewed handoff inv id call view after)
    (unlent : ∀ query, call = .start id query → view.Unlent)
    (carries : ∀ pinned, call = .reapply id pinned → view.Carries pinned) (orderly : view.Orderly)
    (agrees : view.Agrees handoff) : after.Agrees handoff := by
  cases viewed with
  | kept => exact agrees
  | persisted partitioned pending =>
    have absent := orderly.absent
    subst absent
    refine ⟨?_, ?_, ?_, ?_, ?_, ?_⟩
    · rintro _ ⟨⟩
      exact partitioned
    all_goals simp
  | handedOff row cpu pending => exact agrees_apply_cpu row cpu (orderly.cpu _ row cpu) agrees
  | booked gpu pending served kind place =>
    exact agrees_apply rfl gpu (agrees.unpartitioned _ rfl) rfl place
      (names_desired_resident pinning gpu served kind)
  | borrowed gpu pending chosen kind place =>
    exact agrees_apply rfl gpu (agrees.unpartitioned _ rfl) rfl place (names_desired_spot kind place)
  | @reapplied _ holder pinned row up known =>
    cases gpu : holder.resourceClass with
    | cpu => exact agrees_apply_cpu row gpu (orderly.cpu _ row gpu) agrees
    | gpu => exact agrees.reapply pinning row gpu up known (carries pinned rfl)
  | ran row up =>
    refine agrees.of_patch row ?_ ?_ ?_ ?_
    · exact ⟨rfl, rfl⟩
    · exact fun _ => ⟨rfl, rfl, rfl, rfl⟩
    · exact fun _ found => found
    · exact fun gpu _ => agrees.up _ row gpu up
  | paused row running =>
    refine agrees.of_patch row ?_ patch_setPaused (fun found isFound => ?_) ?_
    · exact ⟨rfl, rfl⟩
    · split_ifs at isFound
      · exact isFound
      · cases isFound
    · exact fun _ up => absurd up nofun
  | terminated row =>
    refine agrees.of_patch row ?_ ?_ ?_ ?_
    · exact ⟨rfl, rfl⟩
    · exact fun _ => ⟨rfl, rfl, rfl, rfl⟩
    · rintro _ ⟨⟩
    · exact fun _ up => absurd up nofun
  | restarted row alive held =>
    refine agrees.of_patch row ?_ patch_setPaused ?_ fun gpu _ _ => ?_
    · exact ⟨rfl, rfl⟩
    · exact fun _ found => found
    · rcases held with held | cpu
      · exact held
      · exact absurd (cpu.symm.trans gpu) nofun
  | rebooked known alive gpu served kind place =>
    -- The patch writes the new card as the pinned one, which counts only while no borrowed one is set.
    exact agrees.rebook pinning (unlent _ rfl) known gpu served place
  | demoted row paused =>
    refine agrees.of_patch row ?_ patch_setPaused (fun found isFound => ?_) fun _ up => ?_
    · exact ⟨rfl, rfl⟩
    · exact (filter_eq_some_iff.mp isFound).1
    · simp only [paused] at up
      cases up
  | @promoted _ _ _ alloc row =>
    refine ⟨agrees.unpartitioned, agrees.resourceClass, agrees.mode, agrees.cpu, ?_, fun _ _ _ _ _ => rfl⟩
    rintro _ ⟨⟩
    exact agrees.held alloc row
  | finalized found deleting =>
    have idle : view.allocation = none := by
      refine eq_none_iff_forall_not_mem.mpr fun alloc live => ?_
      rw [orderly.undeleted live found] at deleting
      cases deleting
    refine ⟨agrees.unpartitioned, ?_, ?_, ?_, ?_, ?_⟩
    all_goals simp [idle]

end

theorem Agrees.gpuUuid {builder : Builder} {cr : SessionResource} (agrees : view.Agrees handoff)
    (orderly : view.Orderly) (perCard : builder.perCardMode) (row : view.holder = some holder)
    (up : holder.status.isUp) (found : view.resource = some cr) :
    (builder.buildPod cr.spec).gpuUuid = (view.allocation.bind Allocation.device).map handoff.uuid := by
  have sameClass := agrees.resourceClass holder row cr found
  cases isClass : holder.resourceClass with
  | cpu =>
    rw [gpuUuid_of_cpu (sameClass.trans isClass) (agrees.cpu holder row isClass cr found),
      orderly.cpu holder row isClass]
    rfl
  | gpu =>
    obtain ⟨alloc, live⟩ := isSome_iff_exists.mp
      (agrees.up holder row isClass up (by rw [found]; rfl))
    obtain ⟨dev, place, named, isNamed, names⟩ := agrees.held alloc live
    obtain rfl : cr = named := some.inj (found.symm.trans isNamed)
    have unpartitioned : cr.spec.mode ≠ some .mig := by
      rw [agrees.mode holder row isClass cr found]
      exact agrees.unpartitioned holder row
    rw [gpuUuid_of_names perCard (sameClass.trans isClass) unpartitioned names, live,
      bind_some, place, map_some]

end SessionView

variable {dep : Deployment}

namespace Deployment

variable {handoff : Handoff} {builder : Builder}

/-- A session that still names a borrowed card is resumed only with its allocation, and a handoff is repeated
only with the card that was booked. -/
def CardFollows (dep : Deployment) : DeploymentCall → Prop
  | .start id _ => (dep.view id).Unlent
  | .reapply id pinned => (dep.view id).Carries pinned
  | _ => True

instance decidableCardFollows (call : DeploymentCall) : Decidable (dep.CardFollows call) := by
  unfold Deployment.CardFollows SessionView.Unlent SessionView.Carries
  split <;> infer_instance

/-- The rows of all sessions agree. -/
structure Agreed (handoff : Handoff) (dep : Deployment) : Prop where
  orderly : ∀ id, (dep.view id).Orderly
  agrees : ∀ id, (dep.view id).Agrees handoff

theorem Agreed.step {next : Deployment} {call : DeploymentCall} (pinning : handoff.perCardMode)
    (follows : dep.CardFollows call) (taken : dep.apply handoff call = some next)
    (agreed : dep.Agreed handoff) : next.Agreed handoff := by
  refine ⟨fun id => (agreed.orderly id).viewed (apply_viewed taken), fun id => ?_⟩
  refine (agreed.agrees id).viewed pinning (apply_viewed taken) ?_ ?_ (agreed.orderly id)
  · rintro query rfl
    exact follows
  · rintro pinned rfl
    exact follows

theorem Fresh.agreed (fresh : dep.Fresh) : dep.Agreed handoff := by
  refine ⟨fun id => ?_, fun id => ?_⟩ <;> rw [fresh.view]
  · exact .blank
  · refine ⟨?_, ?_, ?_, ?_, ?_, ?_⟩ <;> simp

/-- After every completed call that leaves a session running or starting, its pod is built for the card of
its live allocation, if the calls meet the condition. -/
theorem pod_on_booked_card {first last : Deployment} {calls : List DeploymentCall}
    (pinning : handoff.perCardMode) (perCard : builder.perCardMode) (fresh : first.Fresh)
    (run : Run (apply handoff) CardFollows first calls last) :
    ∀ id holder cr, last.inventory.session id = some holder → holder.status.isUp →
      last.resources.find? id = some cr →
        (builder.buildPod cr.spec).gpuUuid = (last.bookedCard? id).map handoff.uuid := by
  have agreed : last.Agreed handoff :=
    run.invariant fresh.agreed fun _ _ _ follows taken agreed => agreed.step pinning follows taken
  intro id holder cr row up found
  exact (agreed.agrees id).gpuUuid (agreed.orderly id) perCard row up found

def twoExclusive : Deployment where
  inventory :=
    { card := fun dev => if dev < 2 then some emptyCard else none
      byUuid := fun _ => none
      session := fun _ => none
      live := .empty _ }
  resources := .empty _

/-- Session 0 takes the first card and yields it, and session 1 borrows it and runs. -/
def firstCardLent : List DeploymentCall :=
  [.persist 0 (exclusiveHolder .yield false), .reserve 0 theCard, .ran 0, .stop 0,
    .persist 1 (exclusiveHolder .cold true), .borrow 1 theCard, .ran 1]

def secondCard : Query := { theCard with devices := [1] }

def placements (dep : Deployment) : List (Option String × Option String) :=
  [0, 1].map fun id => ((dep.bookedCard? id).map pinsCards.uuid,
    (dep.resources.find? id).bind fun cr => (buildPod ⟨true, true⟩ cr.spec).gpuUuid)

/-- The resident is demoted and resumes on the second card; the borrower keeps the first as its own. -/
def cardsFollow : List DeploymentCall := firstCardLent ++ [.demote 0 1, .start 0 secondCard]

theorem cardsFollow_booked : ∃ last, Run (apply pinsCards) CardFollows twoExclusive cardsFollow last ∧
    placements last = [(some "GPU-1", some "GPU-1"), (some "GPU-0", some "GPU-0")] ∧
    ∀ id holder cr, last.inventory.session id = some holder → holder.status.isUp →
      last.resources.find? id = some cr →
        (buildPod ⟨true, true⟩ cr.spec).gpuUuid = (last.bookedCard? id).map pinsCards.uuid :=
  exists_run_imp (placements · = [(some "GPU-1", some "GPU-1"), (some "GPU-0", some "GPU-0")]) (by decide +kernel)
    fun _ run cards => ⟨cards, pod_on_booked_card rfl rfl ⟨fun _ => rfl, rfl, rfl⟩ run⟩

def borrowerMoves : List DeploymentCall := firstCardLent ++ [.stop 1, .start 1 secondCard]

/-- The ledger has the second card, and the pod is built for the first. -/
theorem borrowerMoves_astray : ∃ last,
    Run (apply pinsCards) (fun _ _ => True) twoExclusive borrowerMoves last ∧
    (last.inventory.session 1).map Holder.status = some .running ∧
    placements last = [(some "GPU-0", some "GPU-0"), (some "GPU-1", some "GPU-0")] :=
  exists_run_of_execute (by decide +kernel)

end Deployment

end GShare.Model
