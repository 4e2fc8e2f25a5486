import GShare.Model.Session.CpuAdmission
import GShare.Soundness.Samples

/-! # CPU sessions fit their cluster

A creation adds no more than the CPU nodes have left, and a pause, an end or a report of the operator adds
nothing. A resume puts back whatever the session asks for, though the room it left may have been given away. As
long as a paused session is resumed only into what is left, the sessions that are up fit their nodes.
-/

namespace GShare.Soundness.CpuFit

open Accounting GShare.Model Machine CpuSession CpuHall Roster Status Option List Bool Nat

variable {hall next : CpuHall} {call : CpuCall} {cluster : ℕ} {resource : HostResource}
variable {sess : CpuSession} {status : Status} {id : SessionId}

def load (hall : CpuHall) (cluster : ℕ) (resource : HostResource) : ℕ :=
  hall.sessions.total (taken cluster resource)

/-- The CPU cores and the memory of the sessions that are up fit the CPU nodes of every cluster. -/
def Fits (hall : CpuHall) : Prop :=
  ∀ cluster, ∀ resource ∈ [HostResource.cpu, .memory], load hall cluster resource ≤ hall.total cluster resource

def ResumesIntoRoom (hall : CpuHall) : CpuCall → Prop
  | .start id _ => ∀ sess ∈ hall.sessions.find? id, sess.holder.status = .paused →
      ∀ resource ∈ [HostResource.cpu, .memory],
        load hall sess.holder.clusterId resource + sess.need resource
          ≤ hall.total sess.holder.clusterId resource
  | _ => True

instance decidableResumesIntoRoom : Decidable (ResumesIntoRoom hall call) := by
  unfold ResumesIntoRoom
  split <;> infer_instance

/-! ## What a call adds -/

theorem taken_withStatus_le (stays : status.isUp → sess.holder.status.isUp) :
    (sess.withStatus status).taken cluster resource ≤ sess.taken cluster resource := by
  unfold taken
  split_ifs with after before
  · exact le_rfl
  · simp only [takesRoom, withStatus, and_eq_true] at after before
    exact absurd ⟨after.1, stays after.2⟩ before
  · exact zero_le _
  · exact le_rfl

theorem load_setStatus_le
    (stays : ∀ sess ∈ hall.sessions.find? id, status.isUp → sess.holder.status.isUp) :
    load (hall.setStatus id status) cluster resource ≤ load hall cluster resource := by
  rw [load, setStatus]
  refine @total_revise_le _ _ (·.withStatus status) _ CpuSession.id hall.sessions id _ (fun _ => rfl)
    fun sess member same => taken_withStatus_le (stays sess (find?_eq_some_iff.mpr ⟨member, same⟩))

/-- A report of the operator brings no session up. -/
theorem reportedStatus_up {holder : Holder} {event : StatusEvent} {stale : Bool}
    (up : (reportedStatus holder event stale).isUp) : holder.status.isUp := by
  unfold reportedStatus Inventory.verdict Inventory.dropped at up
  cases status : holder.status with
  | pending | preparing | running => rfl
  | paused | terminating | terminated | error =>
    cases phase : event.phase <;> simp [status, phase, isUp, isFinal] at up

theorem isOk_forM {resources : List HostResource} {check : HostResource → Except NoCapacity Unit} :
    (resources.forM check).isOk ↔ ∀ resource ∈ resources, (check resource).isOk := by
  induction resources with
  | nil => exact iff_of_true rfl nofun
  | cons first rest ih =>
    rw [forall_mem_cons, ← ih, List.forM]
    cases check first <;> simp [bind, Except.bind, Except.isOk, Except.toBool]

/-- One resource alone rules the session out: no CPU node is there, none has as much of it after the reserve,
or as much is not left. Where the best node has nothing beyond its reserve, nodes are not compared. -/
def Short (hall : CpuHall) (sess : CpuSession) (resource : HostResource) : Prop :=
  let nodes := hall.cpuNodes sess.holder.clusterId
  let most : ℤ := (nodes.map fun node => node.capacity resource).max?.getD 0
  let total := hall.total sess.holder.clusterId resource
  sess.need resource ≠ 0 ∧ (nodes = [] ∨ most ≠ 0 ∧ most < sess.need resource ∨
    (resource = .disk → 0 < total) ∧ total < hall.used sess resource + sess.need resource)

theorem validateCapacity_isOk : (hall.validateCapacity sess).isOk ↔
      ∀ resource ∈ [HostResource.cpu, .memory, .disk], ¬Short hall sess resource := by
  unfold validateCapacity
  dsimp only
  split_ifs with nothing empty
  · refine iff_of_true rfl fun resource listed short => short.1 ?_
    exact beq_iff_eq.mp (all_eq_true.mp nothing resource listed)
  · refine iff_of_false nofun fun spared => nothing (all_eq_true.mpr fun resource listed => ?_)
    by_contra asks
    exact spared resource listed ⟨by simpa using asks, .inl empty⟩
  · trans (∀ resource ∈ [HostResource.cpu, .memory, .disk], (hall.feasible sess resource).isOk) ∧
      ∀ resource ∈ [HostResource.cpu, .memory, .disk], (hall.available sess resource).isOk
    · rw [← isOk_forM, ← isOk_forM]
      cases [HostResource.cpu, .memory, .disk].forM (hall.feasible sess) <;>
        simp [bind, Except.bind, Except.isOk, Except.toBool]
    · rw [← forall₂_and]
      refine forall₂_congr fun resource _ => ?_
      simp only [feasible, available, Short, empty]
      split_ifs <;> simp_all [Except.isOk, Except.toBool]

/-- A session that passes the check fits beside the others. -/
theorem room_of_validateCapacity (admits : (hall.validateCapacity sess).isOk)
    (column : resource ∈ [HostResource.cpu, .memory]) (asks : sess.need resource ≠ 0) :
    hall.used sess resource + sess.need resource ≤ hall.total sess.holder.clusterId resource := by
  by_contra tight
  refine validateCapacity_isOk.mp admits resource (mem_append_left [HostResource.disk] column)
    ⟨asks, .inr (.inr ⟨?_, not_le.mp tight⟩)⟩
  rintro rfl
  simp at column

theorem load_split (found : hall.sessions.find? id = some sess) :
    load hall cluster resource = sess.taken cluster resource
      + (hall.sessions.remove id).total (taken cluster resource) :=
  total_remove found _

theorem load_setStatus_split (found : hall.sessions.find? id = some sess) :
    load (hall.setStatus id status) cluster resource = (sess.withStatus status).taken cluster resource
      + (hall.sessions.remove id).total (taken cluster resource) :=
  @total_revise_split CpuSession _ (·.withStatus status) CpuSession.id hall.sessions sess id _ (fun _ => rfl) found _

theorem taken_eq_zero (down : sess.holder.status.isUp = false) : sess.taken cluster resource = 0 := by
  simp [taken, takesRoom, down]

theorem taken_cases (sess : CpuSession) (cluster : ℕ) (resource : HostResource) :
    sess.taken cluster resource = 0 ∨
    sess.holder.clusterId = cluster ∧ sess.taken cluster resource = sess.need resource := by
  unfold taken
  split_ifs with room
  · simp only [takesRoom, and_eq_true, beq_iff_eq] at room
    exact .inr ⟨room.1.1.1, rfl⟩
  · exact .inl rfl

/-- A created session adds nothing, or what it asks for beside the others. -/
theorem create_fits {admitted : Bool} (taken : hall.create sess admitted = some next)
    (fits : Fits hall) : Fits next := by
  unfold create at taken
  split_ifs at taken with isNew
  obtain ⟨sessions, inserted, rfl⟩ := map_eq_some_iff.mp taken
  have found : sessions.find? sess.id = some sess := find?_insert inserted
  intro cluster resource column
  have before := fits cluster resource column
  have others : (sessions.remove sess.id).total (CpuSession.taken cluster resource)
      = load hall cluster resource := by
    have whole := total_insert inserted (CpuSession.taken cluster resource)
    have split := total_remove found (CpuSession.taken cluster resource)
    rw [load]
    omega
  dsimp only
  split_ifs with passes
  · refine (load_split found).trans_le ?_
    rw [others]
    obtain ⟨admits, -⟩ := and_eq_true_iff.mp passes
    rcases taken_cases sess cluster resource with none | ⟨rfl, all⟩
    · rw [none, zero_add]
      exact before
    · by_cases asks : sess.need resource = 0
      · rw [all, asks, zero_add]
        exact before
      · have room := room_of_validateCapacity admits column asks
        rw [used, others] at room
        rw [all, add_comm]
        exact room
  · refine (load_setStatus_split found).trans_le ?_
    rw [others, taken_eq_zero rfl, zero_add]
    exact before

theorem fits_step (meets : ResumesIntoRoom hall call) (taken : hall.step call = some next) (fits : Fits hall) :
    Fits next := by
  have lowered {id : SessionId} {status : Status}
      (stays : ∀ sess ∈ hall.sessions.find? id, status.isUp → sess.holder.status.isUp) :
      Fits (hall.setStatus id status) := fun cluster resource column =>
    (load_setStatus_le stays).trans (fits cluster resource column)
  cases call with
  | create sess admitted => exact create_fits taken fits
  | stop id accepted =>
    obtain ⟨sess, found, taken⟩ := bind_eq_some_iff.mp taken
    have down {status : Status} (ended : status.isUp = false) : Fits (hall.setStatus id status) :=
      lowered fun _ _ up => by cases ended.symm.trans up
    cases status : sess.holder.status with
    | pending | preparing =>
      simp only [status, Option.some.injEq] at taken
      exact taken ▸ down rfl
    | running =>
      simp only [status] at taken
      split_ifs at taken
      cases taken
      exact down rfl
    | paused | terminating | terminated | error => simp [status] at taken
  | start id solvent =>
    obtain ⟨sess, found, taken⟩ := bind_eq_some_iff.mp taken
    split_ifs at taken with allowed
    cases taken
    by_cases paused : sess.holder.status = .paused
    · intro cluster resource column
      have before := fits cluster resource column
      have split : load hall cluster resource = _ := load_split found
      rw [load_setStatus_split found]
      rw [taken_eq_zero (by rw [paused]; rfl), zero_add] at split
      rw [← split]
      rcases taken_cases (sess.withStatus .running) cluster resource with none | ⟨rfl, all⟩
      · rw [none, zero_add]
        exact before
      · rw [all, add_comm]
        exact meets sess found paused resource column
    · refine lowered fun other isOther _ => ?_
      cases some.inj (found.symm.trans isOther)
      obtain ⟨-, -, -, moves⟩ := allowed
      cases status : sess.holder.status <;> simp_all [assertTransition, allowedTransitions, isUp]
  | terminate id =>
    obtain ⟨sess, found, rfl⟩ := map_eq_some_iff.mp taken
    exact lowered fun _ _ up => by cases up
  | report id event stale =>
    obtain ⟨sess, found, rfl⟩ := map_eq_some_iff.mp taken
    refine lowered fun other isOther up => ?_
    cases some.inj (found.symm.trans isOther)
    exact reportedStatus_up up

/-- In every sequence of creations, pauses, resumes, terminations and reports in which a paused session is
resumed only into what is left: the CPU cores and the memory of the CPU sessions that are up fit the ready CPU
nodes of their cluster. -/
theorem cpu_sessions_fit {first : CpuHall} {calls : List CpuCall} (fits : Fits first)
    (run : Run step ResumesIntoRoom first calls hall) :
    ∀ cluster, ∀ resource ∈ [HostResource.cpu, .memory], load hall cluster resource ≤ hall.total cluster resource :=
  run.invariant fits fun _ _ _ meets taken fits => fits_step meets taken fits

def oneNode : CpuHall where
  nodes := [⟨0, 0, true, some 8, some 32, some 100, none⟩]
  isCpu _ := true
  sessions := .empty _

def sixCores (id : SessionId) : CpuSession where
  id := id
  holder := { Samples.exclusiveHolder .cold false with resourceClass := .cpu, mode := none }
  cpu := some 6
  memGb := some 16
  diskGb := none
  deleted := false

def runsAndPauses (id : SessionId) : List CpuCall :=
  [.create (sixCores id) true, .report id (Samples.reportOf .running) false, .stop id true]

/-- A session that is resumed into the room that it left fits. -/
theorem cpu_sessions_fit_resumed :
    ∃ last, Run step ResumesIntoRoom oneNode (runsAndPauses 1 ++ [.start 1 true]) last ∧
      load last 0 .cpu = 6 ∧ last.total 0 .cpu = 8 ∧
      ∀ cluster, ∀ resource ∈ [HostResource.cpu, .memory],
        load last cluster resource ≤ last.total cluster resource :=
  exists_run_imp (fun last => load last 0 .cpu = 6 ∧ last.total 0 .cpu = 8) (by decide +kernel)
    fun _ run loads => ⟨loads.1, loads.2, cpu_sessions_fit (fun _ _ _ => Nat.zero_le _) run⟩

/-- While the first session is paused, a second one takes its room; both run after the resume. -/
theorem cpu_sessions_overflow : ∃ last, Run step (fun _ _ => True) oneNode
        (runsAndPauses 1 ++ [.create (sixCores 2) true, .start 1 true]) last ∧
      load last 0 .cpu = 12 ∧ last.total 0 .cpu = 8 :=
  exists_run_of_execute (by decide +kernel)

/-- The session has its cores, its memory and its disk on one CPU node, after the reserves. -/
def OnOneNode (hall : CpuHall) (sess : CpuSession) : Prop :=
  ∃ node ∈ hall.cpuNodes sess.holder.clusterId,
    ∀ resource ∈ [HostResource.cpu, .memory, .disk], (sess.need resource : ℤ) ≤ node.capacity resource

/-- The session with another request. -/
def asking (sess : CpuSession) (request : HostResource → ℕ) : CpuSession :=
  { sess with cpu := some (request .cpu), memGb := some (request .memory), diskGb := some (request .disk) }

/-- The most of a resource that the check lets the session ask for: what the best node has after its reserve,
as far as that much is left. Where the best node has nothing beyond its reserve, all that is left. -/
def mostAdmitted (hall : CpuHall) (sess : CpuSession) (resource : HostResource) : ℕ :=
  let nodes := hall.cpuNodes sess.holder.clusterId
  let most : ℤ := (nodes.map fun node => node.capacity resource).max?.getD 0
  let left := hall.total sess.holder.clusterId resource - hall.used sess resource
  if most = 0 then left else min most.toNat left

/-- Every CPU node of the cluster reports its cores, its memory and its disk. -/
def ReportsAll (hall : CpuHall) (cluster : ℕ) : Prop :=
  ∀ node ∈ hall.cpuNodes cluster, ∀ resource ∈ [HostResource.cpu, .memory, .disk], node.reported resource ≠ 0

theorem need_asking {request : HostResource → ℕ} : (asking sess request).need resource = request resource := by
  cases resource <;> rfl

theorem not_short_iff {node : Node} {request : HostResource → ℕ} (reports : ReportsAll hall sess.holder.clusterId)
    (member : node ∈ hall.cpuNodes sess.holder.clusterId) :
    ¬Short hall (asking sess request) resource ↔ request resource ≤ mostAdmitted hall sess resource := by
  have inhabited := ne_nil_of_mem member
  have disk : 0 < hall.total sess.holder.clusterId .disk :=
    (pos_of_ne_zero (reports node member .disk (by simp))).trans_le
      (single_le_sum (by simp) _ (mem_map_of_mem member))
  have compared : resource = .disk → 0 < hall.total sess.holder.clusterId resource := fun isDisk => isDisk ▸ disk
  have same : hall.used (asking sess request) resource = hall.used sess resource := rfl
  unfold Short mostAdmitted
  dsimp only
  rw [need_asking, same]
  dsimp only [asking]
  rw [or_iff_right inhabited, and_iff_right compared]
  split_ifs <;> omega

/-- Whatever an admitted session asks for, it finds on one node, exactly if one node has the most of each
resource that is admitted. -/
theorem admitted_on_one_node_iff (hall : CpuHall) (sess : CpuSession)
    (reports : ReportsAll hall sess.holder.clusterId) :
    (∀ request, (hall.validateCapacity (asking sess request)).isOk → OnOneNode hall (asking sess request)) ↔
      ∃ node ∈ hall.cpuNodes sess.holder.clusterId, ∀ resource ∈ [HostResource.cpu, .memory, .disk],
        (mostAdmitted hall sess resource : ℤ) ≤ node.capacity resource := by
  constructor
  · intro onOne
    -- A request for nothing is admitted, so there is a node; the largest request is admitted too.
    obtain ⟨node, member, -⟩ := onOne 0 rfl
    have largest : (hall.validateCapacity (asking sess (mostAdmitted hall sess))).isOk :=
      validateCapacity_isOk.mpr fun resource _ => (not_short_iff reports member).mpr le_rfl
    obtain ⟨node, member, has⟩ := onOne _ largest
    refine ⟨node, member, fun resource listed => ?_⟩
    have fits := has resource listed
    rwa [need_asking] at fits
  · rintro ⟨node, member, most⟩ request admits
    refine ⟨node, member, fun resource listed => le_trans ?_ (most resource listed)⟩
    rw [need_asking]
    exact cast_le.mpr ((not_short_iff reports member).mp (validateCapacity_isOk.mp admits resource listed))

def twoNodes : CpuHall :=
  { oneNode with nodes := oneNode.nodes ++ [⟨1, 0, true, some 4, some 16, some 50, none⟩] }

/-- The larger of two nodes is the better one in everything. -/
theorem admitted_on_larger_node : (twoNodes.validateCapacity (asking (sixCores 1) fun _ => 4)).isOk ∧
    OnOneNode twoNodes (asking (sixCores 1) fun _ => 4) := by
  have admits : (twoNodes.validateCapacity (asking (sixCores 1) fun _ => 4)).isOk := by decide +kernel
  have reports : ReportsAll twoNodes 0 := by unfold ReportsAll; decide
  have larger : ∃ node ∈ twoNodes.cpuNodes 0, ∀ resource ∈ [HostResource.cpu, .memory, .disk],
      (mostAdmitted twoNodes (sixCores 1) resource : ℤ) ≤ node.capacity resource :=
    ⟨⟨0, 0, true, some 8, some 32, some 100, none⟩, by decide, by decide +kernel⟩
  exact ⟨admits, (admitted_on_one_node_iff twoNodes (sixCores 1) reports).mpr larger _ admits⟩

/-- One node has the cores, the other the memory. -/
theorem admitted_on_no_node : ∃ hall : CpuHall,
    (∀ node ∈ hall.nodes, ∀ resource ∈ [HostResource.cpu, .memory, .disk], node.reported resource ≠ 0) ∧
      (hall.validateCapacity (sixCores 1)).isOk ∧ ¬OnOneNode hall (sixCores 1) :=
  ⟨⟨[⟨0, 0, true, some 8, some 4, some 100, none⟩, ⟨1, 0, true, some 4, some 32, some 100, none⟩], fun _ => true,
    .empty _⟩, by decide, by decide +kernel, by unfold OnOneNode; decide +kernel⟩

end GShare.Soundness.CpuFit
