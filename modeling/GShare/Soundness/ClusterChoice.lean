import GShare.Proofs.Device.Fleet
import GShare.Soundness.Samples

/-! # Choosing a cluster

`_resolve_cluster` counts the cards of each cluster with its own idea of room: the stored counters, a
hundred cores, no look at pool changes, loans, host capacity or instance sizes. It leads the request to the
cluster with the most counted memory, which is one that can place it only if some matching card there is
available as well.
-/

namespace GShare.Model

open Option List

namespace Fleet

structure FirstMost (clusters : List ClusterId) (score : ClusterId → ℕ) (cluster : ClusterId) : Prop where
  member : cluster ∈ clusters
  most : ∀ other ∈ clusters, score other ≤ score cluster
  first : ∀ other ∈ clusters, score cluster ≤ score other → clusters.idxOf cluster ≤ clusters.idxOf other

variable (fleet : Fleet) (req : Request) (clusters : List ClusterId)

/-- The clusters with a counted card, and those with a matching one. -/
def withCounted : List ClusterId :=
  clusters.filter fun cluster => !(fleet.counted req cluster).isEmpty

def withMatching : List ClusterId :=
  clusters.filter fun cluster => !(fleet.matching (req.inCluster cluster)).isEmpty

/-- The cluster has the most free memory on counted cards or, where no card is counted, the most matching
cards. -/
inductive Leads (cluster : ClusterId) : Prop
  | fitting (most : FirstMost (fleet.withCounted req clusters) (fleet.fitFree req) cluster)
  | matching (nothing : fleet.withCounted req clusters = [])
      (most : FirstMost (fleet.withMatching req clusters)
        (fun cluster => (fleet.matching (req.inCluster cluster)).length) cluster)

variable {fleet req clusters} {cluster : ClusterId}

theorem argmax_eq_some_iff {score : ClusterId → ℕ} :
    clusters.argmax score = some cluster ↔ FirstMost clusters score cluster := by
  rw [List.argmax_eq_some_iff]
  exact ⟨fun ⟨member, most, first⟩ => ⟨member, most, first⟩,
    fun ⟨member, most, first⟩ => ⟨member, most, first⟩⟩

theorem resolveCluster_eq_some_iff (gpu : req.holder.resourceClass = .gpu)
    (several : 2 ≤ clusters.length) (known : fleet.withMatching req clusters ≠ []) :
    fleet.resolveCluster req clusters = some cluster ↔ fleet.Leads req clusters cluster := by
  obtain ⟨first, second, rest, rfl⟩ : ∃ first second rest, clusters = first :: second :: rest := by
    match clusters, several with
    | first :: second :: rest, _ => exact ⟨first, second, rest, rfl⟩
  have chosen : fleet.resolveCluster req (first :: second :: rest) =
      ((fleet.withCounted req (first :: second :: rest)).argmax (fleet.fitFree req)
        <|> (fleet.withMatching req (first :: second :: rest)).argmax
          (fun cluster => (fleet.matching (req.inCluster cluster)).length)
        <|> some first) := by
    simp only [resolveCluster, gpu, reduceCtorEq, if_false]
    rfl
  rw [chosen, orElse_eq_some, orElse_eq_some, argmax_eq_some_iff, argmax_eq_some_iff,
    argmax_eq_none, argmax_eq_none]
  constructor
  · rintro (most | ⟨nothing, most | ⟨unmatched, -⟩⟩)
    · exact .fitting most
    · exact .matching nothing most
    · exact absurd unmatched known
  · rintro (most | ⟨nothing, most⟩)
    · exact .inl most
    · exact .inr ⟨nothing, .inl most⟩

end Fleet

end GShare.Model

namespace GShare.Soundness.ClusterChoice

open GShare.Model Samples Fleet

/-- When some cluster can place the request at once, the chosen one can exactly when a matching card of the
leading cluster is available and the counters of the cards there fit. -/
theorem chosen_places_iff {fleet : Fleet} {req : Request} {clusters : List ClusterId} {id : SessionId}
    (gpu : req.holder.resourceClass = .gpu) (several : 2 ≤ clusters.length)
    (fresh : fleet.inventory.live.find? id = none) (possible : ∃ cluster ∈ clusters, ∃ next,
      fleet.reserveSlice id (req.inCluster cluster) = some (next, true)) :
    (∃ cluster, fleet.resolveCluster req clusters = some cluster ∧ ∃ next,
        fleet.reserveSlice id (req.inCluster cluster) = some (next, true)) ↔
      ∃ cluster, fleet.Leads req clusters cluster ∧
        fleet.inventory.Countable (req.inCluster cluster).holder
          (fleet.query (req.inCluster cluster)) ∧
        ∃ candidate ∈ fleet.matching (req.inCluster cluster), fleet.Available req candidate := by
  obtain ⟨somewhere, member, placed⟩ := possible
  obtain ⟨-, named, candidate, matched, -⟩ := (reserveSlice_placed_iff fresh).mp placed
  have known : fleet.withMatching req clusters ≠ [] :=
    List.ne_nil_of_mem (List.mem_filter.mpr ⟨member, by simpa using List.ne_nil_of_mem matched⟩)
  have room : ∀ cluster, (∃ next, fleet.reserveSlice id (req.inCluster cluster) = some (next, true)) ↔
      fleet.inventory.Countable (req.inCluster cluster).holder (fleet.query (req.inCluster cluster)) ∧
        ∃ candidate ∈ fleet.matching (req.inCluster cluster), fleet.Available req candidate := by
    intro cluster
    rw [reserveSlice_placed_iff fresh, HasRoom]
    exact and_congr_right fun _ => and_iff_right named
  simp only [resolveCluster_eq_some_iff gpu several known, room]

def twoCards (state : ModeState) : List Card :=
  [{ sharedCard with modeState := state }, { sharedCard with clusterId := 1 }]

theorem twoCards_report (state : ModeState) : ∀ card ∈ twoCards state, 0 < card.totalCores := by
  simp [twoCards, sharedCard, emptyCard]

/-- Those cards, open to everyone. -/
def twoClusters (state : ModeState) : Fleet :=
  fleetOf (twoCards state) (twoCards_report state) (fun _ => "A") (fun _ => none) (.empty _)

def halfCard : Request := requestOf (fractionalHolder 12288 50) "A" (by decide)

/-- The older cluster leads and places the request. -/
theorem chosen_places_oldest :
    ∃ cluster, (twoClusters .ready).resolveCluster halfCard [0, 1] = some cluster ∧ ∃ next,
      (twoClusters .ready).reserveSlice 0 (halfCard.inCluster cluster) = some (next, true) := by
  have placed : ∃ next,
      (twoClusters .ready).reserveSlice 0 (halfCard.inCluster 0) = some (next, true) := ⟨_, rfl⟩
  obtain ⟨countable, -, available⟩ := (reserveSlice_placed_iff rfl).mp placed
  refine (chosen_places_iff rfl le_rfl rfl ⟨0, by decide, placed⟩).mpr ⟨0, .fitting ?_, countable, available⟩
  exact argmax_eq_some_iff.mp (by decide +kernel)

/-- The card of the older cluster is being drained; it is counted all the same, and the request is led
there although the other cluster has a free card. -/
theorem chosen_drains : (twoClusters .draining).resolveCluster halfCard [0, 1] = some 0 ∧
      ((twoClusters .draining).reserveSlice 0 (halfCard.inCluster 0)).map Prod.snd = some false ∧
      ((twoClusters .draining).reserveSlice 0 (halfCard.inCluster 1)).map Prod.snd = some true := by
  decide +kernel

end GShare.Soundness.ClusterChoice
