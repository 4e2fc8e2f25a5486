import GShare.Model.Cluster.Removal

/-! # A node that is being removed

The reports leave a node alone that is being removed. The sweep of the silent nodes and the health events do not
look at that status. The node stays what it is as long as neither of them meets it.
-/

namespace GShare.Model

open Machine Option List NodeTable ClusterNode

namespace NodeTable

variable {table next : NodeTable} {id : ℕ}

/-- The node is being removed, or gone: no row of it has another status, and no card is attached to it. -/
structure Removed (id : ℕ) (table : NodeTable) : Prop where
  known : id < table.nextId
  parked : ∀ node ∈ table.nodes, node.id = id → node.status = .decommissioning
  bare : ∀ dev ∈ table.devices, dev.nodeId ≠ id

/-- No sweep finds the node silent in a cluster with an operator, and no health event cordons it. -/
def Spared (id : ℕ) (table : NodeTable) : NodeEvent → Prop
  | .health node cordon => node = id → cordon = false
  | .sweep now => ∀ node ∈ table.nodes, node.id = id →
      node.clusterId ∈ table.aliveClusters (now - nodeStale * second) →
        node.lastSeenAt.any (now - nodeStale * second ≤ ·)
  | _ => True

instance : DecidablePred (Spared id table) := fun event => by
  unfold Spared
  split <;> infer_instance

section

variable (removed : Removed id table)

include removed

/-- New rows for the nodes that keep their ids and leave the node alone. -/
theorem Removed.map {change : ClusterNode → ClusterNode}
    (same : ∀ node ∈ table.nodes, (change node).id = node.id)
    (parked : ∀ node ∈ table.nodes, node.id = id → node.status = .decommissioning →
      (change node).status = .decommissioning) : Removed id { table with nodes := table.nodes.map change } where
  known := removed.known
  parked node member isId := by
    obtain ⟨before, old, rfl⟩ := mem_map.mp member
    rw [same before old] at isId
    exact parked before old isId (removed.parked before old isId)
  bare := removed.bare

theorem Removed.setStatus {other : ℕ} {status : NodeStatus} (apart : other = id → status = .decommissioning) :
    Removed id { table with nodes := table.setStatus other status } := by
  refine removed.map (fun node _ => ?_) fun node _ isId parked => ?_
  · split_ifs <;> rfl
  · split_ifs with here
    · exact apart (here.symm.trans isId)
    · exact parked

variable {now : ℤ} {cluster : ℕ}

/-- A report leaves the node alone, and is about another row if it goes on. -/
theorem Removed.report {hostname : String} {ready : Option Bool}
    {row : Option ℕ} (taken : table.report cluster hostname ready now = some (next, row)) :
    Removed id next ∧ ∀ node ∈ row, node ≠ id := by
  unfold NodeTable.report at taken
  split_ifs at taken
  · split at taken
    · cases taken
      refine ⟨⟨removed.known.trans (Nat.lt_succ_self _), fun node member isId => ?_, removed.bare⟩, ?_⟩
      · rcases mem_append.mp member with old | new
        · exact removed.parked node old isId
        · have fresh : node.id = table.nextId := by
            rw [mem_singleton.mp new, newNode]
            split_ifs <;> rfl
          exact absurd (fresh.symm.trans isId) removed.known.ne'
      · rintro node ⟨⟩
        exact removed.known.ne'
    next node found =>
      have member : node ∈ table.nodes := (mem_filter.mp (found ▸ mem_singleton_self node)).1
      split_ifs at taken with parked
      · cases taken
        exact ⟨removed, fun _ none => by cases none⟩
      · cases taken
        refine ⟨removed.map (fun node _ => (Site.reportedAs_same ..).1) fun node _ _ parked => ?_, ?_⟩
        · simp only [Site.reportedAs, ClusterNode.reported, parked, if_true]
          split_ifs <;> exact parked
        · rintro _ ⟨⟩ isId
          exact parked (removed.parked node member isId)
    · cases taken
  · cases taken
    exact ⟨removed, fun _ none => by cases none⟩

theorem Removed.attach {node : ℕ} {uuid : String} (apart : node ≠ id) :
    Removed id (table.attach cluster uuid node) := by
  refine ⟨removed.known, removed.parked, fun dev member => ?_⟩
  dsimp only [NodeTable.attach] at member
  split_ifs at member
  · obtain ⟨before, old, rfl⟩ := mem_map.mp member
    split_ifs
    · exact apart
    · exact removed.bare before old
  · rcases mem_append.mp member with old | new
    · exact removed.bare dev old
    · rw [mem_singleton.mp new]
      exact apart

theorem Removed.sweep (spared : Spared id table (.sweep now)) : Removed id (table.sweep now) := by
  refine removed.map (fun node _ => ?_) fun node member isId parked => ?_
  · unfold staleSweep
    split_ifs <;> rfl
  · split_ifs with alive
    · obtain ⟨seen, isSeen, recent⟩ :=
        (Option.any_eq_true ..).mp (spared node member isId (List.contains_iff_mem.mp alive))
      have heard : ¬node.lastSeenAt.all (· < now - nodeStale * second) := by
        simpa [isSeen] using recent
      simp [staleSweep, parked, heard]
    · exact parked

end

theorem deleteNode_eq_some {live : ℕ} (taken : table.deleteNode id live = some next) :
    next = { table with
      nodes := table.setStatus id .decommissioning, devices := table.devices.filter (·.nodeId != id) } := by
  unfold deleteNode at taken
  split at taken
  · cases taken
  · split_ifs at taken
    exact (some.inj taken).symm

theorem Removed.step (removed : Removed id table) {event : NodeEvent} (spared : Spared id table event)
    (taken : table.step event = some next) : Removed id next := by
  cases event with
  | reportNode cluster hostname ready now =>
    obtain ⟨⟨_, _⟩, reported, rfl⟩ := map_eq_some_iff.mp taken
    exact (removed.report reported).1
  | reportDevice cluster hostname uuid ready now =>
    obtain ⟨⟨_, row⟩, reported, rfl⟩ := map_eq_some_iff.mp taken
    obtain ⟨removed, apart⟩ := removed.report reported
    cases row with
    | none => exact removed
    | some node => exact removed.attach (apart node rfl)
  | health node cordon =>
    cases taken
    cases cordon with
    | false => exact removed
    | true => exact removed.setStatus fun here => absurd (spared here) Bool.true_eq_false.mp
  | sweep now =>
    cases taken
    exact removed.sweep spared
  | decommissioned cluster hostname =>
    simp only [NodeTable.step, nodeDecommissioned] at taken
    split_ifs at taken
    cases taken
    exact ⟨removed.known, fun node member => removed.parked node (mem_filter.mp member).1, removed.bare⟩
  | delete node live =>
    obtain rfl := deleteNode_eq_some taken
    have parked : Removed id { table with nodes := table.setStatus node .decommissioning } :=
      removed.setStatus fun _ => rfl
    exact ⟨parked.known, parked.parked, fun dev member => removed.bare dev (mem_filter.mp member).1⟩

/-- A node that `delete_node` has marked keeps its status and has no cards until its row is deleted. -/
theorem removed_stays {first marked last : NodeTable} {live : ℕ} {events : List NodeEvent}
    (known : id < first.nextId) (deleted : first.deleteNode id live = some marked)
    (run : Run step (Spared id) marked events last) :
    (∀ node ∈ last.nodes, node.id = id → node.status = .decommissioning) ∧
      ∀ dev ∈ last.devices, dev.nodeId ≠ id := by
  have begun : Removed id marked := by
    obtain rfl := deleteNode_eq_some deleted
    refine ⟨known, fun node member isId => ?_, fun dev member => ?_⟩
    · obtain ⟨before, -, rfl⟩ := mem_map.mp member
      split_ifs at isId ⊢ with here
      · rfl
      · exact absurd isId here
    · simpa using (mem_filter.mp member).2
  have removed : Removed id last := run.invariant begun fun _ _ _ spared taken before => before.step spared taken
  exact ⟨removed.parked, removed.bare⟩

end NodeTable

/-- A cluster with a node that was last heard from at the start, and one that is in use. -/
def silentNodes : NodeTable :=
  ⟨[0], [⟨0, 0, "gpu-1", .offline, some 0⟩, ⟨1, 0, "gpu-2", .ready, some (900 * second)⟩], [⟨"GPU-a", 0, 0⟩], 2⟩

/-- The same, once the node is marked. -/
def leavingNode : NodeTable := { silentNodes with nodes := silentNodes.setStatus 0 .decommissioning, devices := [] }

theorem removed_stays_reported : ∃ last, Run step (Spared 0) leavingNode
        [.reportDevice 0 "gpu-1" "GPU-a" none (900 * second), .reportNode 0 "gpu-1" none (900 * second)] last ∧
      ∀ dev ∈ last.devices, dev.nodeId ≠ 0 :=
  exists_run_imp (fun _ => True) (by decide +kernel) fun _ run _ =>
    (removed_stays (by decide) (show silentNodes.deleteNode 0 0 = some leavingNode by decide +kernel) run).2

/-- The sweep takes the node for one that went silent, and the next report brings it back with its card. -/
theorem removed_node_returns : silentNodes.deleteNode 0 0 = some leavingNode ∧
      ∃ last, Run step (fun _ _ => True) leavingNode
          [.sweep (1000 * second), .reportDevice 0 "gpu-1" "GPU-a" none (1001 * second)] last ∧
        (last.nodes.map fun node => (node.id, node.status)) = [(0, .ready), (1, .ready)] ∧
        last.devices = [⟨"GPU-a", 0, 0⟩] :=
  ⟨by decide +kernel, exists_run_of_execute (by decide +kernel)⟩

end GShare.Model
