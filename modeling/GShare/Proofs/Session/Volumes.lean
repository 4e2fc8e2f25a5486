import GShare.Model.Session.Volumes

/-! # What the checks of the volumes admit

A cluster passes the check if every volume of the request has been mounted there or nowhere. Of the
transactions of a call only the last writes, and only the one before it lets the call near the last.
-/

namespace GShare.Model

open Accounting

variable {allowed : Option (Finset ClusterId)}

namespace MountTables

variable {tables next : MountTables} {volume : VolumeId} {volumes : List VolumeId} {cluster : ClusterId}

theorem mem_clustersOf : cluster ∈ tables.clustersOf volume ↔
    ∃ row ∈ tables.sessions.rows, volume ∈ row.volumes ∧ row.clusterId = cluster := by
  simp [clustersOf, and_assoc]

/-- The constraint so far lets the cluster through. -/
def Allows (allowed : Option (Finset ClusterId)) (cluster : ClusterId) : Prop :=
  ∀ clusters ∈ allowed, cluster ∈ clusters

theorem allows_narrow : Allows (tables.narrow allowed volume) cluster ↔
    Allows allowed cluster ∧ (tables.clustersOf volume = ∅ ∨ cluster ∈ tables.clustersOf volume) := by
  unfold narrow
  split_ifs with unmounted
  · simp [unmounted]
  · cases allowed <;> simp [Allows, unmounted]

theorem allows_foldl :
    Allows (volumes.foldl tables.narrow allowed) cluster ↔ Allows allowed cluster ∧
      ∀ volume ∈ volumes, tables.clustersOf volume = ∅ ∨ cluster ∈ tables.clustersOf volume := by
  induction volumes generalizing allowed with
  | nil => simp
  | cons volume rest ih => simp [ih, allows_narrow, and_assoc]

theorem checkCluster_eq_ok_iff : tables.checkCluster volumes cluster = .ok () ↔
    ∀ volume ∈ volumes, tables.clustersOf volume = ∅ ∨ cluster ∈ tables.clustersOf volume := by
  have allows : Allows (tables.clustersHoldingVolumes volumes) cluster ↔
      ∀ volume ∈ volumes, tables.clustersOf volume = ∅ ∨ cluster ∈ tables.clustersOf volume :=
    allows_foldl.trans (and_iff_right nofun)
  rw [← allows, checkCluster]
  cases tables.clustersHoldingVolumes volumes with
  | none => simp [Allows]
  | some pinned => by_cases among : cluster ∈ pinned <;> simp [Allows, among]

theorem clustersOf_persist {id : SessionId} (inserted : tables.persist id volumes cluster = some next) :
    next.clustersOf volume =
      if volume ∈ volumes then insert cluster (tables.clustersOf volume) else tables.clustersOf volume := by
  obtain ⟨sessions, placed, rfl⟩ := Option.map_eq_some_iff.mp inserted
  ext other
  rw [mem_clustersOf]
  simp only [(Roster.insert_eq_some placed).2, List.exists_mem_cons_iff]
  split_ifs with mounts
  · simp [mounts, mem_clustersOf, eq_comm]
  · simp [mounts, mem_clustersOf]

end MountTables

def MountCall.boundFor (volume : VolumeId) : MountCall → Option ClusterId
  | .checked req cluster => if volume ∈ req.volumes then some cluster else none
  | .requested _ | .located .. | .refused _ | .created _ => none

theorem MountCall.boundFor_checked {volume : VolumeId} {req : MountRequest} {cluster home : ClusterId} :
    home ∈ (MountCall.checked req cluster).boundFor volume ↔ volume ∈ req.volumes ∧ cluster = home := by
  simp [boundFor]

inductive MountStep (tables : MountTables) : MountCall → MountTables → MountCall → Prop
  | moved {call after : MountCall} (unbound : ∀ volume, after.boundFor volume = none) :
      MountStep tables call tables after
  | checked {req : MountRequest} {cluster : ClusterId}
      (passed : tables.checkCluster req.volumes cluster = .ok ()) :
      MountStep tables (.located req cluster) tables (.checked req cluster)
  | persisted {req : MountRequest} {cluster : ClusterId} {id : SessionId} {next : MountTables}
      (inserted : tables.persist id req.volumes cluster = some next) :
      MountStep tables (.checked req cluster) next (.created id)

theorem mountStep_of_next {tables next : MountTables} {call after : MountCall} {input : MountInput}
    (taken : mountNext tables call input = some (next, after)) : MountStep tables call next after := by
  cases call with
  | requested req =>
    simp only [mountNext] at taken
    split at taken
    · cases taken
      exact .moved fun _ => rfl
    · split at taken <;> cases taken <;> exact .moved fun _ => rfl
  | located req cluster =>
    simp only [mountNext] at taken
    split_ifs at taken
    · split at taken
      · next passed =>
        cases taken
        exact .checked passed
      · cases taken
        exact .moved fun _ => rfl
    · cases taken
      exact .moved fun _ => rfl
  | checked req cluster =>
    simp only [mountNext] at taken
    split_ifs at taken
    · obtain ⟨tables, inserted, rfl, rfl⟩ := by
        simpa only [Option.map_eq_some_iff, Prod.mk.injEq] using taken
      exact .persisted inserted
    · cases taken
      exact .moved fun _ => rfl
  | refused | created => cases taken

end GShare.Model
