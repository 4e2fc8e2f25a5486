import GShare.Proofs.Device.Choice
import GShare.Soundness.Samples

/-! # The card that a request gets

An exclusive request gets an empty card whole. A fractional one gets the instance of a partitioned card that has
exactly its size, else the shared card that is left with the least room, or with the most when load is spread,
else the smallest instance that it fits in; and something whenever one of the cards has room for it.
-/

namespace GShare.Model

open Card Option List Soundness.Samples

namespace Card

/-- A slice of this size is free. -/
def HasRoom (card : Card) (mem cores : ℕ) : Prop :=
  card.usedMemMb + mem ≤ card.totalMemMb ∧ card.usedCores + cores ≤ card.totalCores

/-- The instance is the smallest of a quarter, a half and the whole of the card that has the memory, with its
share of the cores, or more if more are asked for. -/
def Rounds (card : Card) (mem cores size share : ℕ) : Prop :=
  ∃ parts ∈ [4, 2, 1], size = card.totalMemMb / parts ∧ share = max cores (100 / parts) ∧ mem ≤ size ∧
    ∀ finer ∈ [4, 2, 1], parts < finer → card.totalMemMb / finer < mem

variable {card : Card} {mem cores size share : ℕ}

theorem fits_iff (reports : 0 < card.totalCores) : card.fits mem cores ↔ card.HasRoom mem cores := by
  have within := card.noOvercommit
  simp only [fits, Bool.and_eq_true, decide_eq_true_eq]
  simp only [HasRoom, freeMem, shareableCores, if_neg reports.ne']
  omega

theorem migRounded_iff (asks : 0 < mem) :
    card.migRounded mem cores = some (size, share) ↔ card.Rounds mem cores size share := by
  simp only [migRounded, Rounds, findSome?_cons, findSome?_nil, mem_cons, not_mem_nil, or_false,
    exists_eq_or_imp, forall_eq_or_imp]
  generalize card.totalMemMb = total
  by_cases quarter : mem ≤ total / 4
  · simp [quarter]
    omega
  · by_cases half : mem ≤ total / 2
    · simp [quarter, half]
      omega
    · by_cases whole : mem ≤ total
      · simp [quarter, half, whole]
        omega
      · simp [quarter, half, whole]
        omega

end Card

/-- What a fractional target on a card is: there is room for it, it covers the request, and the card is the
one to prefer. -/
structure Preferred (cards : List Candidate) (mem cores : ℕ) (spread : Bool) (target : Target) (card : Card) :
    Prop where
  member : (target.device, card) ∈ cards
  room : card.HasRoom target.mem target.cores
  covers : mem ≤ target.mem ∧ cores ≤ target.cores
  shared : card.mode ≠ some .mig → target.mem = mem ∧ target.cores = cores ∧
    ∀ found ∈ cards, found.2.mode ≠ some .mig → found.2.HasRoom mem cores →
      if spread then found.2.freeAfter mem cores ≤ card.freeAfter mem cores
      else card.freeAfter mem cores ≤ found.2.freeAfter mem cores
  partitioned : card.mode = some .mig → card.Rounds mem cores target.mem target.cores
  aligned : (∃ found ∈ cards, found.2.mode ≠ some .mig ∧ found.2.HasRoom mem cores) →
    (card.mode = some .mig ↔ ∃ found ∈ cards, found.2.mode = some .mig ∧
      ∃ share, found.2.Rounds mem cores mem share ∧ found.2.HasRoom mem share)

variable {cards : List Candidate} {mem cores : ℕ} {spread : Bool} {target : Target}

theorem pickDevice_best {found other : Candidate} (picked : pickDevice cards mem cores spread = some found)
    (member : other ∈ cards) (fits : other.2.fits mem cores) :
    if spread then other.2.freeAfter mem cores ≤ found.2.freeAfter mem cores
    else found.2.freeAfter mem cores ≤ other.2.freeAfter mem cores := by
  unfold pickDevice at picked
  split_ifs at picked ⊢
  · exact le_of_mem_argmax (f := fun found : Candidate => found.2.freeAfter mem cores)
      (mem_filter.mpr ⟨member, fits⟩) picked
  · exact le_of_mem_argmin (f := fun found : Candidate => found.2.freeAfter mem cores)
      (mem_filter.mpr ⟨member, fits⟩) picked

section Fractional

variable (sized : ∀ found ∈ cards, 0 < found.2.totalCores) (asks : 0 < mem)

include sized asks

theorem preferred_of_instance {aligned : Bool}
    (picked : pickInstance (cards.filter fun (_, card) => card.mode = some .mig) mem cores aligned = some target)
    (forced : aligned = false → ∀ found ∈ cards, found.2.mode ≠ some .mig → ¬found.2.HasRoom mem cores) :
    ∃ card, Preferred cards mem cores spread target card := by
  obtain ⟨card, listed, rounded, free, exact_⟩ := pickInstance_eq_some picked
  obtain ⟨member, mig⟩ : (target.device, card) ∈ cards ∧ card.mode = some .mig := by simpa using listed
  rw [migRounded_iff asks] at rounded
  have room := (fits_iff (sized _ member)).mp free
  obtain ⟨parts, -, -, share, least, -⟩ := id rounded
  refine ⟨card, member, room, ⟨least, share ▸ le_max_left _ _⟩, fun shared => absurd mig shared, fun _ => rounded,
    fun ⟨found, isFound, shared, fits⟩ => iff_of_true mig ?_⟩
  cases aligned with
  | false => exact absurd fits (forced rfl found isFound shared)
  | true =>
    have same := exact_ rfl
    exact ⟨_, member, mig, target.cores, by simpa [same] using rounded, by simpa [same] using room⟩

theorem preferred_of_shared {found : Candidate}
    (unaligned : pickInstance (cards.filter fun (_, card) => card.mode = some .mig) mem cores true = none)
    (picked : pickDevice (cards.filter fun (_, card) => card.mode ≠ some .mig) mem cores spread = some found) :
    Preferred cards mem cores spread ⟨found.1, mem, cores⟩ found.2 := by
  obtain ⟨listed, fits⟩ := pickDevice_eq_some picked
  obtain ⟨member, shared⟩ : found ∈ cards ∧ found.2.mode ≠ some .mig := by simpa using listed
  refine ⟨member, (fits_iff (sized _ member)).mp fits, ⟨le_rfl, le_rfl⟩, fun _ => ⟨rfl, rfl, ?_⟩,
    fun mig => absurd mig shared, fun _ => iff_of_false shared ?_⟩
  · intro other isOther apart room
    exact pickDevice_best picked (by simpa using ⟨isOther, apart⟩) ((fits_iff (sized _ isOther)).mpr room)
  · rintro ⟨other, isOther, mig, share, rounds, room⟩
    have full := pickInstance_eq_none unaligned (by simpa using ⟨isOther, mig⟩) ((migRounded_iff asks).mpr rounds)
      fun _ => rfl
    rw [(fits_iff (sized _ isOther)).mpr room] at full
    cases full

end Fractional

/-- The target of a request: an exclusive one is an empty card whole, a fractional one the preferred slice, and
there is none only if no card has room. -/
theorem reserveTarget_optimal (sized : ∀ found ∈ cards, 0 < found.2.totalMemMb ∧ 0 < found.2.totalCores)
    (asks : 0 < mem) :
    (∀ target ∈ reserveTarget cards mem cores true spread, ∃ card, (target.device, card) ∈ cards ∧
      card.usedMemMb = 0 ∧ card.usedCores = 0 ∧ target.mem = card.totalMemMb ∧ target.cores = card.totalCores) ∧
    (reserveTarget cards mem cores true spread = none →
      ∀ found ∈ cards, ¬(found.2.usedMemMb = 0 ∧ found.2.usedCores = 0)) ∧
    (∀ target ∈ reserveTarget cards mem cores false spread, ∃ card, Preferred cards mem cores spread target card) ∧
    (reserveTarget cards mem cores false spread = none → ∀ found ∈ cards,
      (found.2.mode ≠ some .mig → ¬found.2.HasRoom mem cores) ∧
      (found.2.mode = some .mig → ∀ size share, found.2.Rounds mem cores size share →
        ¬found.2.HasRoom size share)) := by
  have reports (found : Candidate) (member : found ∈ cards) := (sized found member).2
  refine ⟨fun target chosen => ?_, fun refused found member => ?_, fun target chosen => ?_,
    fun refused found member => ?_⟩
  · obtain ⟨⟨place, card⟩, first, rfl⟩ := map_eq_some_iff.mp chosen
    have empty : card.usedMemMb = 0 ∧ card.usedCores = 0 := by simpa using find?_some first
    exact ⟨card, mem_of_find?_eq_some first, empty.1, empty.2, rfl, rfl⟩
  · simpa using find?_eq_none.mp (map_eq_none_iff.mp refused) found member
  · simp only [mem_def, reserveTarget, Bool.false_eq_true, if_false, orElse_eq_some] at chosen
    rcases chosen with exact_ | ⟨unaligned, core | ⟨crowded, rounded⟩⟩
    · exact preferred_of_instance reports asks exact_ nofun
    · obtain ⟨found, picked, rfl⟩ := map_eq_some_iff.mp core
      exact ⟨found.2, preferred_of_shared reports asks unaligned picked⟩
    · refine preferred_of_instance reports asks rounded fun _ found member shared room => ?_
      have full := pickDevice_eq_none.mp (map_eq_none_iff.mp crowded) found (by simpa using ⟨member, shared⟩)
      rw [(fits_iff (reports found member)).mpr room] at full
      cases full
  · have nothing : found.2.slice mem cores false = none := by
      by_contra given
      have target : (reserveTarget cards mem cores false spread).isSome :=
        reserveTarget_isSome member (isSome_iff_ne_none.mpr given)
      rw [refused] at target
      cases target
    constructor
    · intro shared room
      rw [slice_shared shared, if_pos ((fits_iff (reports found member)).mpr room)] at nothing
      cases nothing
    · intro mig size share rounds room
      rw [slice_mig mig, (migRounded_iff asks).mpr rounds, filter_some,
        if_pos ((fits_iff (reports found member)).mpr room)] at nothing
      cases nothing

def twoKinds : List Candidate := [(0, sharedCard), (1, { emptyCard with mode := some .mig })]

/-- A quarter of the partitioned card goes before the shared one. -/
theorem reserveTarget_optimal_quarter :
    reserveTarget twoKinds 6144 20 false false = some ⟨1, 6144, 25⟩ ∧
      ∃ card, Preferred twoKinds 6144 20 false ⟨1, 6144, 25⟩ card := by
  have chosen : reserveTarget twoKinds 6144 20 false false = some ⟨1, 6144, 25⟩ := by decide +kernel
  exact ⟨chosen, (reserveTarget_optimal (by decide) (by decide)).2.2.1 _ chosen⟩

end GShare.Model
