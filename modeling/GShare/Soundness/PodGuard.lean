import GShare.Machine.Run
import GShare.Model.Cluster.PodGuard

/-! # One pod for a lent card

The guard condenses a pod to one card. That is all the pod claims if it is plain: it names one card, in its
regular containers, none of which goes through the device plugin. The guard knows the other pods only by the
sessions that borrow.
-/

namespace GShare.Model

open Machine List GuardedPods Container EnvVar

/-- The pod shows the guard everything that it claims. -/
structure Pod.Plain (pod : Pod) : Prop where
  noInit : ∀ container ∈ pod.initContainers, container.claims = []
  unmixed : pod.claims ≠ [] → ∀ container ∈ pod.containers, container.requestsGpu = false
  noList : ∀ container ∈ pod.containers, ∀ var ∈ container.env, var.isVisibleDevices →
    ',' ∉ var.value.toList
  single : ∀ one ∈ pod.claims, ∀ other ∈ pod.claims, one = other

/-- Two pods claim no card together. -/
def Pod.Apart (one other : Pod) : Prop := ∀ uuid ∈ one.claims, uuid ∉ other.claims

/-- A pod that is admitted is plain, and a card that it shares with a live pod is borrowed by a session that is
not its owner. -/
def GuardedPods.Orderly (state : GuardedPods) : PodEvent → Prop
  | .arrive pod => pod.Plain ∧ ∀ live ∈ state.pods, ∀ uuid ∈ live.claims, uuid ∈ pod.claims →
      ∃ record ∈ state.sessions, record.borrows pod.controllerSessionName uuid
  | _ => True

section Values

variable {text : List Char} {value : String}

theorem mem_of_mem_trimSpace {char : Char} (member : char ∈ trimSpace text) : char ∈ text := by
  rw [trimSpace, mem_reverse] at member
  exact (dropWhile_sublist _).mem (mem_reverse.mp ((dropWhile_sublist _).mem member))

theorem cardsNamed_eq (single : ',' ∉ value.toList) : cardsNamed value = (pinnedCard? value).toList := by
  have whole : value.toList.splitOn ',' = [value.toList] := by
    refine splitOnP_eq_singleton fun char member => ?_
    exact beq_eq_false_iff_ne.mpr (ne_of_mem_of_not_mem member single)
  have kept : (trimSpace value.toList).takeWhile (· != ',') = trimSpace value.toList := by
    refine takeWhile_eq_self_iff.mpr fun char member => ?_
    exact bne_iff_ne.mpr (ne_of_mem_of_not_mem (mem_of_mem_trimSpace member) single)
  simp only [cardsNamed, pinnedCard?, whole, kept, map_singleton]
  by_cases names : namesCard (trimSpace value.toList)
  · simp [names]
  · simp [names]

end Values

namespace Pod

variable {pod : Pod} {uuid : String}

theorem Plain.mem_claims_iff (plain : pod.Plain) :
    uuid ∈ pod.claims ↔ ∃ container ∈ pod.containers, container.requestsGpu = false ∧
      ∃ var ∈ container.env, var.pinned? = some uuid := by
  simp only [claims, mem_flatMap, mem_append]
  constructor
  · rintro ⟨container, isInit | here, claimed⟩
    · rw [plain.noInit container isInit] at claimed
      cases claimed
    · rw [Container.claims] at claimed
      split_ifs at claimed with asks
      · cases claimed
      obtain ⟨var, member, named⟩ := mem_flatMap.mp claimed
      obtain ⟨member, visible⟩ := mem_filter.mp member
      rw [cardsNamed_eq (plain.noList container here var member visible), Option.mem_toList] at named
      refine ⟨container, here, by simpa using asks, var, member, ?_⟩
      rwa [pinned?, if_pos visible]
  · rintro ⟨container, here, asksNot, var, member, pinned⟩
    rw [pinned?] at pinned
    split_ifs at pinned with visible
    refine ⟨container, .inr here, ?_⟩
    rw [Container.claims, asksNot, if_neg Bool.false_ne_true]
    refine mem_flatMap.mpr ⟨var, mem_filter.mpr ⟨member, visible⟩, ?_⟩
    rw [cardsNamed_eq (plain.noList container here var member visible), pinned]
    exact mem_singleton_self uuid

/-- The guard reads the card that a plain pod claims. -/
theorem Plain.bypassGpuUuid_eq (plain : pod.Plain) (claimed : uuid ∈ pod.claims) :
    pod.bypassGpuUuid = some uuid := by
  have asksNot := plain.unmixed (ne_nil_of_mem claimed)
  have none : ¬pod.containers.any requestsGpu := by
    rw [any_eq_true]
    rintro ⟨container, here, asks⟩
    exact Bool.false_ne_true ((asksNot container here).symm.trans asks)
  obtain ⟨container, here, -, var, member, pinned⟩ := plain.mem_claims_iff.mp claimed
  rw [bypassGpuUuid, if_neg none]
  cases found : pod.containers.findSome? fun container => container.env.findSome? pinned? with
  | none =>
    have missing := findSome?_eq_none_iff.mp (findSome?_eq_none_iff.mp found container here) var member
    cases missing.symm.trans pinned
  | some first =>
    obtain ⟨_, here, inner⟩ := exists_of_findSome?_eq_some found
    obtain ⟨_, member, pinned⟩ := exists_of_findSome?_eq_some inner
    have also := plain.mem_claims_iff.mpr ⟨_, here, asksNot _ here, _, member, pinned⟩
    rw [plain.single first also uuid claimed]

end Pod

namespace GuardedPods

variable {state next : GuardedPods} {pod : Pod} {uuid : String}

theorem arrive_checked (plain : pod.Plain) (admitted : state.step (.arrive pod) = some next)
    (claimed : uuid ∈ pod.claims) : (∃ record ∈ state.sessions, record.lends uuid) ∧
      ¬∃ record ∈ state.sessions, record.borrows pod.controllerSessionName uuid := by
  simp only [step, podLendGuard, plain.bypassGpuUuid_eq claimed] at admitted
  by_cases lends : state.sessions.any (·.lends uuid)
  · by_cases borrows : state.sessions.any (·.borrows pod.controllerSessionName uuid)
    · simp [lends, borrows] at admitted
    · exact ⟨any_eq_true.mp lends, fun found => borrows (any_eq_true.mpr found)⟩
  · simp [lends] at admitted

theorem apart_step (state : GuardedPods) (event : PodEvent) (next : GuardedPods) (orderly : state.Orderly event)
    (taken : state.step event = some next) (apart : state.pods.Pairwise Pod.Apart) :
    next.pods.Pairwise Pod.Apart := by
  cases event with
  | resources sessions =>
    cases taken
    exact apart
  | gone index =>
    cases taken
    exact apart.sublist (eraseIdx_sublist _ _)
  | arrive pod =>
    have checked := fun uuid => @arrive_checked _ _ _ uuid orderly.1 taken
    have grown : next.pods = state.pods ++ [pod] := by
      simp only [step] at taken
      split at taken
      · cases taken
        rfl
      · cases taken
    rw [grown]
    refine pairwise_append.mpr ⟨apart, pairwise_singleton _ _, fun live member other isPod => ?_⟩
    cases mem_singleton.mp isPod
    exact fun uuid claims also => (checked uuid also).2 (orderly.2 live member uuid claims also)

/-- Every card that an admitted pod claims past the device plugin is one that a yielded resident holds, and no
two live pods claim the same card. -/
theorem admits_no_stray_claim {sessions : List LendRecord} {events : List PodEvent}
    (run : Run step Orderly ⟨sessions, []⟩ events state) : state.pods.Pairwise Pod.Apart ∧
      ∀ pod next, state.Orderly (.arrive pod) → state.step (.arrive pod) = some next → ∀ uuid ∈ pod.claims,
        ∃ record ∈ state.sessions, record.lends uuid :=
  ⟨run.invariant List.Pairwise.nil apart_step,
    fun _ _ orderly admitted _ claimed => (arrive_checked orderly.1 admitted claimed).1⟩

end GuardedPods

def pinningPod (sess value : String) : Pod where
  containers := [⟨[⟨"NVIDIA_VISIBLE_DEVICES", value⟩], false, false⟩]
  initContainers := []
  ownerReferences := [⟨"GShareSession", sess⟩]

def lentCard : List LendRecord :=
  [⟨"resident", "", "GPU-a", "Yielded", false⟩, ⟨"spot", "GPU-a", "", "", false⟩]

theorem pinningPod_plain (sess : String) : (pinningPod sess "GPU-a").Plain where
  noInit _ member := by cases member
  unmixed _ container member := by
    cases mem_singleton.mp member
    rfl
  noList container member var isVar _ := by
    cases mem_singleton.mp member
    cases mem_singleton.mp isVar
    decide +kernel
  single one isOne other isOther := by
    have claims : (pinningPod sess "GPU-a").claims = ["GPU-a"] := by
      have named : cardsNamed "GPU-a" = ["GPU-a"] := by decide +kernel
      simp [Pod.claims, pinningPod, claims, requestsGpu, isVisibleDevices, named]
    rw [claims, mem_singleton] at isOne isOther
    exact isOne.trans isOther.symm

theorem admits_no_stray_claim_lent :
    ∃ state, Run step Orderly ⟨lentCard, []⟩ [.arrive (pinningPod "spot" "GPU-a")] state ∧
      state.pods.Pairwise Pod.Apart := by
  have taken : step ⟨lentCard, []⟩ (.arrive (pinningPod "spot" "GPU-a")) =
      some ⟨lentCard, [pinningPod "spot" "GPU-a"]⟩ := by
    have admitted : podLendGuard lentCard (pinningPod "spot" "GPU-a") = .ok () := by decide +kernel
    rw [step, admitted]
    rfl
  have run : Run step Orderly ⟨lentCard, []⟩ [.arrive (pinningPod "spot" "GPU-a")] _ :=
    .cons ⟨pinningPod_plain "spot", fun _ member => by cases member⟩ taken (.nil _)
  exact ⟨_, run, (admits_no_stray_claim run).1⟩

/-- A container with a card of its own shields one that pins a card nobody yielded. -/
theorem admits_sidecar_claim :
    let pod : Pod := ⟨[⟨[], true, false⟩, ⟨[⟨"NVIDIA_VISIBLE_DEVICES", "GPU-a"⟩], false, false⟩], [], []⟩
    pod.claims = ["GPU-a"] ∧ podLendGuard [] pod = .ok () := by
  decide +kernel

end GShare.Model
