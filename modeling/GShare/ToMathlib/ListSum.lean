import Mathlib.Algebra.BigOperators.Group.List.Basic
import Mathlib.Algebra.Ring.Int.Defs

/-! # Sums and counts over a part of a list -/

namespace List

variable {α : Type*}
variable {items : List α}

/-- What is left out of a sum does not matter where it is zero. -/
theorem sum_map_filter_of_zero {keep : α → Bool} {value : α → ℤ}
    (zero : ∀ item ∈ items, keep item = false → value item = 0) :
    ((items.filter keep).map value).sum = (items.map value).sum := by
  induction items with
  | nil => rfl
  | cons item rest ih =>
    have later := ih fun other member => zero other (mem_cons_of_mem _ member)
    cases kept : keep item with
    | true => rw [filter_cons_of_pos kept, map_cons, sum_cons, later, map_cons, sum_cons]
    | false =>
      rw [filter_cons_of_neg (by simp [kept]), later, map_cons, sum_cons, zero item mem_cons_self kept, zero_add]

theorem sum_map_difference (value other : α → ℤ) (items : List α) :
    (items.map fun item => value item - other item).sum = (items.map value).sum - (items.map other).sum := by
  induction items with
  | nil => rfl
  | cons item rest ih =>
    simp only [map_cons, sum_cons, ih]
    omega

theorem sum_map_single [DecidableEq α] {item : α} (member : item ∈ items) (nodup : items.Nodup)
    (amount : ℤ) : (items.map fun other => if other = item then amount else 0).sum = amount := by
  induction items with
  | nil => cases member
  | cons head rest ih =>
    obtain ⟨absent, nodupRest⟩ := nodup_cons.mp nodup
    rw [map_cons, sum_cons]
    by_cases same : head = item
    · have nothing : (rest.map fun other => if other = item then amount else 0) = rest.map fun _ => 0 := by
        refine map_congr_left fun other among => if_neg ?_
        rintro rfl
        exact absent (same ▸ among)
      rw [if_pos same, nothing]
      simp
    · rw [if_neg same, zero_add]
      exact ih ((mem_cons.mp member).resolve_left (Ne.symm same)) nodupRest

theorem countP_set_add {check : α → Bool} {index : ℕ} {old new : α} (found : items[index]? = some old) :
    (items.set index new).countP check + (if check old then 1 else 0) =
      items.countP check + if check new then 1 else 0 := by
  obtain ⟨bound, rfl⟩ := getElem?_eq_some_iff.mp found
  have among : check items[index] → 0 < items.countP check := fun checked =>
    countP_pos_iff.mpr ⟨_, getElem_mem bound, checked⟩
  rw [countP_set bound]
  by_cases before : check items[index]
  · have := among before
    rw [if_pos before]
    omega
  · rw [if_neg before]
    omega

end List
