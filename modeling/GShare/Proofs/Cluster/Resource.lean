import GShare.Model.Cluster.Resource

/-! # The card that a pod is sent to

With cards pinned one by one, the pod of a GPU session goes to the card that its spec names: the borrowed one,
else the pinned one.
-/

namespace GShare.Model

open Handoff SessionPod Option

/-- The spec names the card, and the pod's scheduler heeds it. -/
def SessionSpec.Names (spec : SessionSpec) (card : String) : Prop :=
  spec.borrowedGpuUuid = some card ∨
    spec.borrowedGpuUuid = none ∧ spec.pinnedGpuUuid = some card ∧ spec.mode.isSome

namespace Builder

variable {builder : Builder} {spec : SessionSpec} {card : String}

theorem gpuUuid_of_names (perCard : builder.perCardMode) (gpu : spec.resourceClass = .gpu)
    (unpartitioned : spec.mode ≠ some .mig) (names : spec.Names card) :
    (builder.buildPod spec).gpuUuid = some card := by
  rcases names with borrowed | ⟨free, pinned, hasMode⟩
  · by_cases extender : builder.hamiYieldExtender
    · simp only [buildPod, borrowed, extender, if_true]
      rfl
    · simp [buildPod, shape, gpu, borrowed, extender, gpuUuid]
  · have scheduled : (builder.shape spec).schedulerName = some "hami-scheduler" := by
      obtain ⟨mode, isMode⟩ := isSome_iff_exists.mp hasMode
      cases mode with
      | fractional => simp [shape, gpu, free, isMode]
      | exclusive => simp [shape, gpu, free, isMode, perCard]
      | mig => exact absurd isMode unpartitioned
    simp [buildPod, free, pinned, scheduled, gpuUuid]

theorem gpuUuid_of_cpu (cpu : spec.resourceClass = .cpu) (free : spec.borrowedGpuUuid = none) :
    (builder.buildPod spec).gpuUuid = none := by
  have shaped : builder.shape spec = ⟨none, none, [("gshare.io/node-type", "cpu")], none, [], [], []⟩ := by
    simp [shape, cpu]
  simp only [buildPod, free, shaped]
  split <;> simp [gpuUuid]

end Builder

variable {alloc : Allocation} {dev : DeviceId}

section Patches

variable {handoff : Handoff} {holder : Holder} {pinned : Option DeviceId} {live : Option Allocation}

theorem desired_resourceClass : (handoff.desired live holder pinned).resourceClass = holder.resourceClass := by
  unfold desired stampSpot
  split <;> rfl

theorem desired_mode (gpu : holder.resourceClass = .gpu) :
    (handoff.desired live holder pinned).mode = holder.mode := by
  unfold desired stampSpot
  split <;> simp [toSessionSpec, gpu]

theorem desired_borrowed : (handoff.desired live holder pinned).borrowedGpuUuid =
    ((live.filter (·.kind == .spot)).bind Allocation.device).map handoff.uuid := by
  unfold desired stampSpot
  split
  next absent => rw [absent]; rfl
  next dev found => rw [found]; rfl

theorem desired_pinned (pinning : handoff.perCardMode) (gpu : holder.resourceClass = .gpu) :
    (handoff.desired live holder pinned).pinnedGpuUuid = pinned.map handoff.uuid := by
  unfold desired stampSpot
  split <;> simp [toSessionSpec, pinning, gpu]

/-- A borrow is named, and so is the card that the session object carries for an allocation of one's own. -/
theorem names_desired_spot (kind : alloc.kind = .spot) (place : alloc.device = some dev) :
    (handoff.desired (some alloc) holder pinned).Names (handoff.uuid dev) := by
  refine .inl ?_
  rw [desired_borrowed, filter_some, kind, if_pos (beq_self_eq_true _), bind_some, place,
    map_some]

theorem names_desired_resident
    (pinning : handoff.perCardMode) (gpu : holder.resourceClass = .gpu) (served : holder.mode.isSome)
    (kind : alloc.kind = .resident) :
    (handoff.desired (some alloc) holder (some dev)).Names (handoff.uuid dev) := by
  refine .inr ⟨?_, ?_, ?_⟩
  · rw [desired_borrowed, filter_some, kind, if_neg (by decide), bind_none, map_none]
  · rw [desired_pinned pinning gpu, map_some]
  · rwa [desired_mode gpu]

namespace SessionResource

variable {cr : SessionResource} {paused : Bool} {graceful : Option Bool}

theorem reconcilePause_spec : cr.reconcilePause.spec = cr.spec := by
  unfold reconcilePause
  split_ifs <;> rfl

theorem reconcilePause_deleting : cr.reconcilePause.deleting = cr.deleting := by
  unfold reconcilePause
  split_ifs <;> rfl

theorem setPaused_spec : (cr.setPaused handoff paused holder graceful pinned).spec =
    cr.spec.setPaused paused holder graceful
      (if handoff.perCardMode && !paused then pinned.map handoff.uuid else none) :=
  reconcilePause_spec

theorem setPaused_deleting :
    (cr.setPaused handoff paused holder graceful pinned).deleting = cr.deleting :=
  reconcilePause_deleting

end SessionResource

end Patches

end GShare.Model
