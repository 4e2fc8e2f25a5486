import GShare.Model.Device.Inventory

/-! # The custom resource of a session

`Handoff` and `GShareSessionCRD` write the desired state of a session to its custom resource: the whole of it
when the session is admitted, and a patch of a few fields when it pauses or resumes. The operator builds the
pod from it (`BuildPod`), guards the cards that are lent (`borrowGuard`) and keeps the status.
-/

namespace GShare.Model

/-- The fields of `GShareSession.spec` that decide where the pod runs and how it pauses; an unset string is
`none`. -/
structure SessionSpec where
  resourceClass : ResourceClass
  mode : Option CardMode
  gpuMemMb : ℕ
  gpuCores : ℕ
  migProfile : Option String
  fullCard : Bool
  pinnedGpuUuid : Option String
  borrowedGpuUuid : Option String
  borrowedNode : Option String
  paused : Bool
  pauseMode : PauseMode
  preemptible : Bool
  gracefulDemote : Bool
deriving DecidableEq, Repr

/-- What a handoff reads beside the tables: the setting `PER_CARD_MODE`, and of each card its UUID, which is
never empty, and the name of its node. -/
structure Handoff where
  perCardMode : Bool
  uuid : DeviceId → String
  hostname : DeviceId → Option String

namespace Handoff

variable (handoff : Handoff)

/-- `to_session_spec`; `pinned` is the card that `reserve_slice` left on the session object. -/
def toSessionSpec (holder : Holder) (pinned : Option String) : SessionSpec :=
  let mode := if holder.resourceClass = .cpu then none else holder.mode
  { resourceClass := holder.resourceClass
    mode := mode
    gpuMemMb := if mode = some .fractional then holder.gpuMemMb.getD 0 else 0
    gpuCores := if mode = some .fractional then holder.gpuCores.getD 0 else 0
    migProfile := if mode = some .mig then some "1g.5gb" else none
    fullCard := handoff.perCardMode && mode == some .exclusive
    pinnedGpuUuid := if handoff.perCardMode && holder.resourceClass != .cpu then pinned else none
    borrowedGpuUuid := none
    borrowedNode := none
    paused := false
    pauseMode := holder.pauseMode
    preemptible := holder.preemptible
    gracefulDemote := false }

/-- `_stamp_spot`: the card that the session's live allocation borrows. -/
def stampSpot (live : Option Allocation) (spec : SessionSpec) : SessionSpec :=
  match (live.filter (·.kind == .spot)).bind Allocation.device with
  | none => spec
  | some dev =>
    { spec with borrowedGpuUuid := some (handoff.uuid dev), borrowedNode := handoff.hostname dev }

/-- The desired state that `apply_desired` sends. -/
def desired (live : Option Allocation) (holder : Holder) (pinned : Option DeviceId) : SessionSpec :=
  handoff.stampSpot live (handoff.toSessionSpec holder (pinned.map handoff.uuid))

end Handoff

namespace SessionSpec

/-- `_as_merge_patch` on a resource that exists: every key that a desired state may carry is sent, as null
where it carries none. The demotion flag is no such key and stays. -/
def mergePatch (spec desired : SessionSpec) : SessionSpec :=
  { desired with gracefulDemote := spec.gracefulDemote }

/-- `set_paused`, which names no other field than these. -/
def setPaused (spec : SessionSpec) (paused : Bool) (holder : Holder) (gracefulDemote : Option Bool)
    (pinned : Option String) : SessionSpec :=
  { spec with
    paused := paused
    pauseMode := holder.pauseMode
    preemptible := holder.preemptible
    gracefulDemote := gracefulDemote.getD spec.gracefulDemote
    pinnedGpuUuid := pinned <|> spec.pinnedGpuUuid }

end SessionSpec

inductive YieldState where
  | yielded | lent
deriving DecidableEq, Repr

/-- A custom resource, named after its session. -/
structure SessionResource where
  session : SessionId
  spec : SessionSpec
  /-- The last reported phase is `Paused`. -/
  isPaused : Bool
  boundGpuUuid : Option String
  yieldState : Option YieldState
  /-- It has a deletion timestamp. -/
  deleting : Bool
deriving DecidableEq, Repr

namespace SessionResource

def create (sess : SessionId) (spec : SessionSpec) : SessionResource :=
  ⟨sess, spec, false, none, none, false⟩

/-- The pause branch of `Reconcile` and the resume in place, when the node does as it is told. -/
def reconcilePause (cr : SessionResource) : SessionResource :=
  if cr.spec.paused then
    if cr.isPaused then
      -- A yielded pod that has to give up its hold.
      if cr.yieldState = some .yielded ∧ cr.spec.pauseMode ≠ .yield then
        { cr with yieldState := none }
      else cr
    else if cr.spec.pauseMode = .yield then
      { cr with isPaused := true, yieldState := some .yielded }
    else { cr with isPaused := true, boundGpuUuid := none }
  else if cr.yieldState = some .yielded then
    { cr with isPaused := false, yieldState := none }
  else cr

theorem reconcilePause_session (cr : SessionResource) : cr.reconcilePause.session = cr.session := by
  unfold reconcilePause
  split_ifs <;> rfl

/-- `Handoff.set_paused`, and what the operator makes of the patch. A card is pinned only with the setting,
and only by a resume. -/
def setPaused (handoff : Handoff) (cr : SessionResource) (paused : Bool) (holder : Holder)
    (gracefulDemote : Option Bool) (pinned : Option DeviceId) : SessionResource :=
  let pinned := if handoff.perCardMode && !paused then pinned.map handoff.uuid else none
  { cr with spec := cr.spec.setPaused paused holder gracefulDemote pinned }.reconcilePause

theorem setPaused_session {handoff : Handoff} {paused : Bool} {holder : Holder}
    {gracefulDemote : Option Bool} {pinned : Option DeviceId} (cr : SessionResource) :
    (cr.setPaused handoff paused holder gracefulDemote pinned).session = cr.session :=
  reconcilePause_session _

/-- `borrowGuard`: a yielded resident holds the card that the resource borrows, and nobody else borrows it. -/
def borrowGuard (resources : List SessionResource) (cr : SessionResource) : Except String Unit :=
  let card := cr.spec.borrowedGpuUuid
  let others := resources.filter (·.session != cr.session)
  if !others.any fun other => other.boundGpuUuid == card && other.yieldState.isSome then
    .error ("no yielded resident holds card " ++ card.getD "")
  else if others.any fun other => other.spec.borrowedGpuUuid == card && !other.deleting then
    .error ("card " ++ card.getD "" ++ " already lent to another spot session")
  else .ok ()

end SessionResource

/-- The settings of the operator's pod builder. -/
structure Builder where
  perCardMode : Bool
  hamiYieldExtender : Bool
deriving DecidableEq, Repr

structure SessionPod where
  schedulerName : Option String
  runtimeClassName : Option String
  nodeSelector : List (String × String)
  nodeName : Option String
  limits : List (String × ℕ)
  annotations : List (String × String)
  env : List (String × String)
deriving DecidableEq, Repr

namespace Builder

variable (builder : Builder)

/-- The pod by class, loan and mode, without annotations. -/
def shape (spec : SessionSpec) : SessionPod :=
  let bare : SessionPod := ⟨none, none, [], none, [], [], []⟩
  let nvidia : SessionPod := { bare with runtimeClassName := some "nvidia" }
  let hami : SessionPod := { nvidia with schedulerName := some "hami-scheduler" }
  let whole := [("nvidia.com/gpu", 1), ("nvidia.com/gpumem-percentage", 100), ("nvidia.com/gpucores", 100)]
  let slice := [("nvidia.com/gpu", 1), ("nvidia.com/gpumem", spec.gpuMemMb),
    ("nvidia.com/gpucores", spec.gpuCores)]
  if spec.resourceClass = .cpu then { bare with nodeSelector := [("gshare.io/node-type", "cpu")] }
  else if spec.borrowedGpuUuid.isSome then
    if builder.hamiYieldExtender then { hami with limits := if 0 < spec.gpuMemMb then slice else whole }
    else nvidia
  else
    match spec.mode with
    | some .fractional => { hami with
        nodeSelector := if builder.perCardMode then [] else [("gshare.io/gpu-mode", "fractional")]
        limits := slice }
    | some .exclusive =>
      if builder.perCardMode || spec.fullCard then { hami with limits := whole }
      else { nvidia with
        nodeSelector := [("gshare.io/gpu-mode", "exclusive")], limits := [("nvidia.com/gpu", 1)] }
    | some .mig => { nvidia with
        nodeSelector := [("gshare.io/gpu-mode", "mig")]
        limits := [("nvidia.com/mig-" ++ spec.migProfile.getD "", 1)] }
    | none => bare

/-- `BuildPod`: a borrowed card goes before a pinned one. -/
def buildPod (spec : SessionSpec) : SessionPod :=
  let pod := builder.shape spec
  match spec.borrowedGpuUuid with
  | some card =>
    if builder.hamiYieldExtender then
      { pod with annotations := [("gshare.io/preemptible", "true"), ("nvidia.com/use-gpuuuid", card)] }
    else
      { pod with
        nodeName := spec.borrowedNode
        env := [("NVIDIA_VISIBLE_DEVICES", card), ("NVIDIA_DRIVER_CAPABILITIES", "all")] }
  | none =>
    match spec.pinnedGpuUuid with
    | some card =>
      if pod.schedulerName = some "hami-scheduler" then
        { pod with annotations := [("nvidia.com/use-gpuuuid", card)] }
      else pod
    | none => pod

end Builder

/-- The card that a pod is sent to: by the scheduler's annotation, or past the device plugin. -/
def SessionPod.gpuUuid (pod : SessionPod) : Option String :=
  pod.annotations.lookup "nvidia.com/use-gpuuuid" <|> pod.env.lookup "NVIDIA_VISIBLE_DEVICES"

structure Checkpoint where
  ref : String
  node : String
deriving DecidableEq, Repr

/-- A session with a lossless pause, and the checkpoint that a node has stored of it and not cleaned up. -/
structure LosslessSession where
  paused : Bool
  /-- `status.phase` is `Paused`. -/
  isPaused : Bool
  /-- `status.checkpointRef` and `status.checkpointNode`. -/
  recorded : Option Checkpoint
  /-- The node of the pod, while there is one. -/
  pod : Option String
  stored : Option Checkpoint
deriving DecidableEq, Repr

/-- How the calls of a reconcile end. -/
structure ReconcileInput where
  /-- Those before the others below succeed. -/
  begins : Bool
  /-- `Yield` is asked for and succeeds. -/
  yields : Bool
  /-- What `Checkpoint` returns, if it succeeds. -/
  ref : Option String
  deletes : Bool
  updates : Bool
  /-- The pod has another phase than `status.phase`. -/
  changes : Bool

namespace LosslessSession

variable (sess : LosslessSession)

/-- `Cleanup` of what the status names. -/
def cleanup : LosslessSession :=
  { sess with stored := if sess.recorded = sess.stored then none else sess.stored }

def taken (input : ReconcileInput) : Option Checkpoint :=
  sess.pod.bind fun node => input.ref.map (⟨·, node⟩)

/-- `Reconcile` of a session that is not deleted, and whether it returns without an error. -/
def reconcile (input : ReconcileInput) : LosslessSession × Bool :=
  if !input.begins then (sess, false)
  else if sess.paused then
    if sess.isPaused then (sess, true)
    else if sess.pod.isSome && input.yields then
      if input.updates then ({ sess with isPaused := true }, true) else (sess, false)
    else
      let kept := { sess with stored := sess.taken input <|> sess.stored }
      if sess.pod.isSome && !input.deletes then (kept, false)
      else if !input.updates then ({ kept with pod := none }, false)
      else ({ kept with pod := none, isPaused := true, recorded := sess.taken input }, true)
  else if !sess.isPaused && !input.changes then (sess, true)
  else if input.updates then ({ sess.cleanup with isPaused := false, recorded := none }, true)
  else (sess.cleanup, false)

end LosslessSession

/-- A reconcile, a change of `spec.paused`, a pod that comes or goes, or the finalizer. -/
inductive LosslessEvent where
  | reconcile (input : ReconcileInput)
  | setPaused (paused : Bool)
  | pod (node : Option String)
  | finalize

def LosslessSession.step (sess : LosslessSession) : LosslessEvent → Option LosslessSession
  | .reconcile input => some (sess.reconcile input).1
  | .setPaused paused => some { sess with paused := paused }
  | .pod node => some { sess with pod := node }
  | .finalize => some sess.cleanup

end GShare.Model
