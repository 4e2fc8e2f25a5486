import GShare.Model.Session.Lifecycle

/-! # The yields that a node gives up

When the yields of a node hold more of its memory than its budget, they are demoted in order until the rest
fits. The loop stops at the first point where it does, so the demoted yields are the shortest such prefix.
-/

namespace GShare.Soundness.RamPressure

open GShare.Model YieldItem List

instance : Std.Total Precedes := ⟨fun _ _ => by unfold Precedes; omega⟩

instance : IsTrans YieldItem Precedes := ⟨fun _ _ _ => by unfold Precedes; omega⟩

/-- Items that are in order already keep it. -/
structure StableOrder (items ordered : List YieldItem) : Prop where
  perm : ordered.Perm items
  sorted : ordered.Pairwise Precedes
  stable : ∀ part : List YieldItem, part.Sublist items → part.Pairwise Precedes → part.Sublist ordered

/-- What the items behind a shorter prefix hold exceeds the budget. -/
def Minimal (budget : ℤ) (demoted kept : List YieldItem) : Prop :=
  ∀ front back, demoted = front ++ back → back ≠ [] → budget < ((back ++ kept).map vram).sum

theorem stableOrder_insertionSort (items : List YieldItem) : StableOrder items (items.insertionSort Precedes) where
  perm := perm_insertionSort _ items
  sorted := pairwise_insertionSort _ items
  stable _ among ordered := sublist_insertionSort ordered among

theorem victims_spec {budget : ℤ} (nonneg : 0 ≤ budget) (ordered : List YieldItem) :
    ∃ demoted kept, ordered = demoted ++ kept ∧
      victims budget (ordered.map vram).sum ordered = demoted.map session ∧ (kept.map vram).sum ≤ budget ∧
      Minimal budget demoted kept := by
  induction ordered with
  | nil => exact ⟨[], [], rfl, rfl, nonneg, fun _ _ split apart => absurd (append_eq_nil_iff.mp split.symm).2 apart⟩
  | cons item rest ih =>
    by_cases fits : ((item :: rest).map vram).sum ≤ budget
    · refine ⟨[], item :: rest, rfl, if_pos fits, fits, fun _ _ split apart => ?_⟩
      exact absurd (append_eq_nil_iff.mp split.symm).2 apart
    · obtain ⟨demoted, kept, rfl, chosen, within, minimal⟩ := ih
      have left : ((item :: (demoted ++ kept)).map vram).sum - item.vram =
          ((demoted ++ kept).map vram).sum := by
        simp
      refine ⟨item :: demoted, kept, rfl, ?_, within, fun front back split apart => ?_⟩
      · rw [victims, if_neg fits, left, chosen, map_cons]
      · cases front with
        | nil =>
          cases split
          exact not_le.mp fits
        | cons first front =>
          cases split
          exact minimal front back rfl apart

/-- Nothing is demoted exactly when nothing has to be; otherwise the shortest prefix, in the stable order by
priority and age, without which the rest fits the budget. -/
theorem victims_minimal_prefix (items : List YieldItem) (budget : ℤ) :
    (selectRamPressureVictims items budget = [] ↔ budget ≤ 0 ∨ (items.map vram).sum ≤ budget) ∧
      (0 < budget → budget < (items.map vram).sum → ∃ demoted kept, StableOrder items (demoted ++ kept) ∧
        selectRamPressureVictims items budget = demoted.map session ∧ (kept.map vram).sum ≤ budget ∧
        Minimal budget demoted kept ∧ ∀ victim ∈ demoted, ∀ item ∈ kept, victim.priority ≤ item.priority) := by
  have order := stableOrder_insertionSort items
  have total : ((items.insertionSort Precedes).map vram).sum = (items.map vram).sum := (order.perm.map vram).sum_eq
  by_cases spared : budget ≤ 0 ∨ (items.map vram).sum ≤ budget
  · have nobody : selectRamPressureVictims items budget = [] := if_pos spared
    exact ⟨by simp [nobody, spared], fun positive exceeds => by omega⟩
  · obtain ⟨demoted, kept, split, chosen, within, minimal⟩ :=
      victims_spec (show 0 ≤ budget by omega) (items.insertionSort Precedes)
    have selected : selectRamPressureVictims items budget = demoted.map session := by
      rw [selectRamPressureVictims, committed, if_neg spared, ← total, chosen]
    rw [split] at order total
    have somebody : demoted ≠ [] := by
      rintro rfl
      rw [nil_append] at total
      omega
    refine ⟨by simp [selected, somebody, spared], fun _ _ => ⟨demoted, kept, order, selected, within, minimal, ?_⟩⟩
    intro victim among item left
    rcases (pairwise_append.mp order.sorted).2.2 victim among item left with lower | ⟨same, -⟩
    · exact lower.le
    · exact same.le

end GShare.Soundness.RamPressure
