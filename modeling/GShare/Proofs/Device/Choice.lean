import GShare.Model.Device.Card

/-! # The choice among cards

What one card gives to a request, and that a tier of cards serves it exactly when one of its cards does:
the preferences among cards decide where a slice goes, not whether there is one.
-/

namespace GShare.Model

open Card Option List Bool

variable {card : Card} {mem cores : ℕ} {exclusive : Bool}

namespace Card

/-- What a card gives to a request: an empty card whole to an exclusive session, else the smallest
instance of a partitioned card or the exact size on a shared one, as far as that is free. -/
def slice (card : Card) (mem cores : ℕ) (exclusive : Bool) : Option (ℕ × ℕ) :=
  if exclusive then
    if card.usedMemMb = 0 ∧ card.usedCores = 0 then some (card.totalMemMb, card.totalCores) else none
  else if card.mode = some .mig then
    (card.migRounded mem cores).filter fun (size, share) => card.fits size share
  else if card.fits mem cores then some (mem, cores) else none

theorem slice_exclusive : card.slice mem cores true
      = if card.usedMemMb = 0 ∧ card.usedCores = 0 then some (card.totalMemMb, card.totalCores) else none := rfl

theorem slice_mig (partitioned : card.mode = some .mig) :
    card.slice mem cores false = (card.migRounded mem cores).filter fun (size, share) => card.fits size share := by
  simp [slice, partitioned]

theorem slice_shared (shared : card.mode ≠ some .mig) :
    card.slice mem cores false = if card.fits mem cores then some (mem, cores) else none := by
  simp [slice, shared]

end Card

variable {found : Candidate}

section Choice

variable {cards : List Candidate} {spread aligned : Bool} {target : Target}

theorem pickDevice_eq_some (picked : pickDevice cards mem cores spread = some found) :
    found ∈ cards ∧ found.2.fits mem cores := by
  unfold pickDevice at picked
  split_ifs at picked
  · exact mem_filter.mp (argmax_mem picked)
  · exact mem_filter.mp (argmin_mem picked)

theorem pickDevice_eq_none :
    pickDevice cards mem cores spread = none ↔ ∀ found ∈ cards, found.2.fits mem cores = false := by
  have nothing : cards.filter (fun candidate => candidate.2.fits mem cores) = [] ↔
      ∀ found ∈ cards, found.2.fits mem cores = false := by
    simp [filter_eq_nil_iff]
  unfold pickDevice
  split_ifs
  · exact argmax_eq_none.trans nothing
  · exact argmin_eq_none.trans nothing

theorem pickInstance_eq_some (picked : pickInstance cards mem cores aligned = some target) :
    ∃ card, (target.device, card) ∈ cards ∧ card.migRounded mem cores = some (target.mem, target.cores) ∧
      card.fits target.mem target.cores ∧ (aligned → target.mem = mem) := by
  obtain ⟨⟨place, card⟩, member, rounded⟩ := exists_of_findSome?_eq_some picked
  obtain ⟨⟨size, share⟩, isRounded, taken⟩ := bind_eq_some_iff.mp rounded
  dsimp only at taken
  split_ifs at taken with free
  cases taken
  exact ⟨card, (mem_insertionSort _).mp member, isRounded, free⟩

theorem pickInstance_eq_none (refused : pickInstance cards mem cores aligned = none) (member : found ∈ cards)
    {size share : ℕ} (rounded : found.2.migRounded mem cores = some (size, share))
    (exact_ : aligned → size = mem) : found.2.fits size share = false := by
  have absent := findSome?_eq_none_iff.mp refused found ((mem_insertionSort _).mpr member)
  simp only [rounded, bind_some, ite_eq_right_iff, reduceCtorEq, imp_false] at absent
  exact eq_false_of_not_eq_true fun free => absent ⟨free, exact_⟩

theorem slice_of_reserveTarget (chosen : reserveTarget cards mem cores exclusive spread = some target) :
    ∃ card, (target.device, card) ∈ cards ∧ card.slice mem cores exclusive = some (target.mem, target.cores) := by
  unfold reserveTarget at chosen
  cases exclusive with
  | true =>
    obtain ⟨⟨place, card⟩, found, rfl⟩ := map_eq_some_iff.mp chosen
    have empty : card.usedMemMb = 0 ∧ card.usedCores = 0 := by simpa using find?_some found
    exact ⟨card, mem_of_find?_eq_some found, by rw [slice_exclusive, if_pos empty]⟩
  | false =>
    have instances : ∀ aligned, pickInstance (cards.filter fun found => found.2.mode = some .mig) mem
        cores aligned = some target → ∃ card, (target.device, card) ∈ cards ∧
          card.slice mem cores false = some (target.mem, target.cores) := by
      intro aligned picked
      obtain ⟨card, member, rounded, free, -⟩ := pickInstance_eq_some picked
      obtain ⟨member, partitioned⟩ := mem_filter.mp member
      refine ⟨card, member, ?_⟩
      rw [slice_mig (by simpa using partitioned), rounded, filter_some, if_pos free]
    simp only [false_eq_true, if_false, orElse_eq_some] at chosen
    rcases chosen with exact | ⟨-, core | ⟨-, rounded⟩⟩
    · exact instances true exact
    · obtain ⟨⟨place, card⟩, picked, rfl⟩ := map_eq_some_iff.mp core
      obtain ⟨member, free⟩ := pickDevice_eq_some picked
      obtain ⟨member, shared⟩ := mem_filter.mp member
      refine ⟨card, member, ?_⟩
      rw [slice_shared (by simpa using shared), if_pos free]
    · exact instances false rounded

theorem reserveTarget_isSome (member : found ∈ cards) (given : (found.2.slice mem cores exclusive).isSome) :
    (reserveTarget cards mem cores exclusive spread).isSome := by
  obtain ⟨place, card⟩ := found
  rw [← ne_none_iff_isSome] at given ⊢
  intro refused
  apply given
  unfold reserveTarget at refused
  cases exclusive with
  | true =>
    have used := find?_eq_none.mp (map_eq_none_iff.mp refused) _ member
    rw [slice_exclusive, if_neg (by simpa using used)]
  | false =>
    simp only [false_eq_true, if_false, orElse_eq_none, map_eq_none_iff] at refused
    obtain ⟨-, shared, instances⟩ := refused
    by_cases partitioned : card.mode = some .mig
    · rw [slice_mig partitioned, filter_eq_none_iff]
      rintro ⟨size, share⟩ rounded
      have listed : (place, card) ∈ cards.filter fun found => found.2.mode = some .mig :=
        mem_filter.mpr ⟨member, by simpa using partitioned⟩
      simpa using pickInstance_eq_none instances listed rounded nofun
    · have listed : (place, card) ∈ cards.filter fun found => found.2.mode ≠ some .mig :=
        mem_filter.mpr ⟨member, by simpa using partitioned⟩
      rw [slice_shared partitioned, if_neg]
      simpa using pickDevice_eq_none.mp shared _ listed

end Choice

namespace Card

theorem setUsed_of_slice {size share : ℕ} (reports : 0 < card.totalCores)
    (given : card.slice mem cores exclusive = some (size, share)) :
    (card.setUsed (card.usedMemMb + size) (card.usedCores + share)).isSome := by
  have free : ∀ {size share}, card.fits size share →
      card.usedMemMb + size ≤ card.totalMemMb ∧ card.usedCores + share ≤ card.totalCores := by
    intro size share free
    have within := card.noOvercommit
    simp only [fits, and_eq_true, decide_eq_true_eq] at free
    simp only [freeMem, shareableCores, if_neg reports.ne'] at free
    omega
  suffices room : card.usedMemMb + size ≤ card.totalMemMb ∧ card.usedCores + share ≤ card.totalCores by
    rw [setUsed, dif_pos room, isSome_some]
  cases exclusive with
  | true =>
    rw [slice_exclusive] at given
    split_ifs at given with empty
    cases given
    omega
  | false =>
    by_cases partitioned : card.mode = some .mig
    · rw [slice_mig partitioned, filter_eq_some_iff] at given
      exact free given.2
    · rw [slice_shared partitioned] at given
      split_ifs at given with fitting
      cases given
      exact free fitting

end Card

end GShare.Model
