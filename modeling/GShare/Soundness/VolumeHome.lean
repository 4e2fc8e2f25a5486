import GShare.Proofs.Session.Volumes
import GShare.Soundness.Samples

/-! # One cluster for the data of a volume

The check of the volumes and the insertion of the mounts are two transactions, and a volume that has never
been mounted constrains nothing. Two calls that both pass the check before either inserts can therefore mount
the same new volume on two clusters. From the first mount on the checks keep later calls to its cluster, so
it is enough that, when the first mount is inserted, whoever else has passed the check goes to the same
cluster.
-/

namespace GShare.Soundness.VolumeHome

open GShare.Model Accounting Machine MountTables MountCall Samples

variable {tables next : MountTables} {volume : VolumeId} {call after bystander : MountCall}

def OneHome (volume : VolumeId) (tables : MountTables) : Prop :=
  ∀ cluster ∈ tables.clustersOf volume, ∀ other ∈ tables.clustersOf volume, cluster = other

/-- A call past its check goes to where the volume is. -/
def GoesHome (volume : VolumeId) (tables : MountTables) (call : MountCall) : Prop :=
  ∀ home ∈ call.boundFor volume, ∀ cluster ∈ tables.clustersOf volume, cluster = home

/-- A call that is about to mount a volume for the first time goes to the same cluster as every other call
past its check that mounts the volume. -/
def FirstAgrees (volume : VolumeId) (pool : Pool MountTables MountCall) :
    Action MountCall MountInput Empty → Prop
  | .advance index _ => ∀ call ∈ pool.calls[index]?, ∀ home ∈ call.boundFor volume,
    pool.store.clustersOf volume = ∅ → ∀ other ∈ pool.calls, ∀ cluster ∈ other.boundFor volume, cluster = home
  | .enter _ | .outside _ => True

instance decidableFirstAgrees (pool : Pool MountTables MountCall) (action : Action MountCall MountInput Empty) :
    Decidable (FirstAgrees volume pool action) := by
  unfold FirstAgrees
  split <;> infer_instance

/-- A call that mounts the volume leaves it on its own cluster. -/
theorem clustersOf_persisted {req : MountRequest} {home cluster : ClusterId} {id : SessionId}
    (inserted : tables.persist id req.volumes home = some next)
    (goes : GoesHome volume tables (.checked req home)) (mounts : volume ∈ req.volumes)
    (member : cluster ∈ next.clustersOf volume) : cluster = home := by
  rw [clustersOf_persist inserted, if_pos mounts, Finset.mem_insert] at member
  rcases member with new | before
  · exact new
  · exact goes home (boundFor_checked.mpr ⟨mounts, rfl⟩) cluster before

section

variable (step : MountStep tables call next after)

include step

theorem oneHome_step (one : OneHome volume tables)
    (goes : GoesHome volume tables call) : OneHome volume next := by
  cases step with
  | moved | checked => exact one
  | @persisted req home id _ inserted =>
    by_cases mounts : volume ∈ req.volumes
    · intro cluster member other among
      rw [clustersOf_persisted inserted goes mounts member, clustersOf_persisted inserted goes mounts among]
    · unfold OneHome
      rwa [clustersOf_persist inserted, if_neg mounts]

theorem goesHome_step (one : OneHome volume tables) : GoesHome volume next after := by
  cases step with
  | moved unbound =>
    intro home bound
    rw [unbound] at bound
    cases bound
  | checked passed =>
    intro home bound cluster member
    obtain ⟨mounts, rfl⟩ := boundFor_checked.mp bound
    rcases checkCluster_eq_ok_iff.mp passed volume mounts with unmounted | there
    · rw [unmounted] at member
      cases member
    · exact one cluster member _ there
  | persisted => exact nofun

/-- Another call keeps its way: if the volume is mounted already, both go where it is. -/
theorem goesHome_others (goes : GoesHome volume tables call) (others : GoesHome volume tables bystander)
    (agrees : ∀ home ∈ call.boundFor volume, tables.clustersOf volume = ∅ →
      ∀ cluster ∈ bystander.boundFor volume, cluster = home) : GoesHome volume next bystander := by
  cases step with
  | moved | checked => exact others
  | @persisted req home id _ inserted =>
    by_cases mounts : volume ∈ req.volumes
    · intro target bound cluster member
      rw [clustersOf_persisted inserted goes mounts member]
      have here : home ∈ (checked req home).boundFor volume :=
        boundFor_checked.mpr ⟨mounts, rfl⟩
      -- Only the first mount needs the condition: later ones were checked against it.
      rcases (tables.clustersOf volume).eq_empty_or_nonempty with unmounted | ⟨known, mounted⟩
      · exact (agrees home here unmounted target bound).symm
      · exact (goes home here known mounted).symm.trans (others target bound known mounted)
    · unfold GoesHome
      rwa [clustersOf_persist inserted, if_neg mounts]

end

theorem keeps_oneHome : mountProgram.Keeps (FirstAgrees volume) (OneHome volume)
    fun tables _ call => GoesHome volume tables call where
  enter := by
    rintro pool call - ⟨req, rfl⟩ -
    exact nofun
  own pool index input call store after _ _ taken one goes :=
    have step := mountStep_of_next taken
    ⟨oneHome_step step one goes, goesHome_step step one⟩
  others pool index input call store after other bystander agrees found taken _ goes _ among others :=
    goesHome_others (mountStep_of_next taken) goes others fun home bound unmounted =>
      agrees call found home bound unmounted bystander (List.mem_of_getElem? among)
  outside _ change := change.elim

/-- Of a volume that had not been mounted before, all sessions are in one cluster, however the calls that
create them interleave, as long as the first mount agrees with the calls that have already been checked. -/
theorem mounted_on_one_cluster {first last : Pool MountTables MountCall}
    {actions : List (Action MountCall MountInput Empty)} (fresh : first.calls = [])
    (new : ∀ row ∈ first.store.sessions.rows, volume ∉ row.volumes)
    (run : Run mountProgram.step (FirstAgrees volume) first actions last) :
    ∀ row ∈ last.store.sessions.rows, ∀ other ∈ last.store.sessions.rows,
      volume ∈ row.volumes → volume ∈ other.volumes → row.clusterId = other.clusterId := by
  have initial : OneHome volume first.store := by
    intro cluster member
    obtain ⟨row, among, mounts, -⟩ := mem_clustersOf.mp member
    exact absurd mounts (new row among)
  have one := (keeps_oneHome.run_idle run fresh initial).store
  intro row member other among mounts mounted
  exact one _ (mem_clustersOf.mpr ⟨row, member, mounts, rfl⟩) _
    (mem_clustersOf.mpr ⟨other, among, mounted, rfl⟩)

def mountsNew (cluster : Option ClusterId) : MountRequest where
  request := sliceRequest 12288 50 "A"
  cluster := cluster
  volumes := [7]

/-- The next transaction of a call, with two clusters connected. -/
def transaction (index : ℕ) : Action MountCall MountInput Empty :=
  .advance index ⟨fleetOf [sharedCard] sharedCard_reports (fun _ => "A") (fun _ => none)
    (.empty _), [0, 1], true, index⟩

/-- No session yet. -/
def noMounts : Pool MountTables MountCall := ⟨⟨.empty _⟩, []⟩

/-- One call leaves the choice of the cluster to the scheduler, and the call that asks for the other cluster
reads after the volume is mounted. -/
def oneAfterTheOther : List (Action MountCall MountInput Empty) :=
  [.enter (.requested (mountsNew none)), .enter (.requested (mountsNew (some 1))),
    .enter (.requested (mountsNew (some 0)))] ++
    [0, 0, 0, 1, 1, 2, 2, 2].map transaction

/-- The call for the other cluster is refused. -/
theorem mounted_on_one_cluster_in_turn :
    ∃ last, Run mountProgram.step (FirstAgrees 7) noMounts oneAfterTheOther last ∧
      last.store.sessions.rows = [⟨2, 0, [7]⟩, ⟨0, 0, [7]⟩] ∧
      ∀ row ∈ last.store.sessions.rows, ∀ other ∈ last.store.sessions.rows,
        7 ∈ row.volumes → 7 ∈ other.volumes → row.clusterId = other.clusterId :=
  exists_run_imp (fun last => last.store.sessions.rows = [⟨2, 0, [7]⟩, ⟨0, 0, [7]⟩]) (by decide +kernel)
    fun _ run rows => ⟨rows, mounted_on_one_cluster rfl (by simp [noMounts, Roster.empty]) run⟩

/-- Two calls that name different clusters, of which both pass the check before either inserts. -/
def bothChecked : List (Action MountCall MountInput Empty) :=
  [.enter (.requested (mountsNew (some 0))), .enter (.requested (mountsNew (some 1)))] ++
    [0, 0, 1, 1, 0, 1].map transaction

/-- The volume ends up mounted on both clusters. -/
theorem mounted_on_two_clusters :
    ∃ last, Run mountProgram.step (fun _ _ => True) noMounts bothChecked last ∧
      last.store.sessions.rows = [⟨1, 1, [7]⟩, ⟨0, 0, [7]⟩] :=
  exists_run_of_execute (by decide +kernel)

end GShare.Soundness.VolumeHome
