import Mathlib.Data.Countable.Basic
import Mathlib.Logic.Equiv.List
import Mathlib.Logic.Relation

/-! # Texts, and relations between optional values -/

/-- There are countably many texts. -/
instance countableString : Countable String := by
  have letters : Function.Injective fun text : String => text.toList.map Char.toNat := by
    intro left right same
    exact String.toList_inj.mp (List.map_injective_iff.mpr (fun _ _ => Char.toNat_inj.mp) same)
  exact letters.countable

namespace Option.Rel

variable {α : Type*} {related : α → α → Prop} {first second third : Option α}

theorem refl_of (refl : ∀ value, related value value) (value : Option α) : Option.Rel related value value := by
  cases value with
  | none => exact .none
  | some value => exact .some (refl value)

theorem trans_of (trans : ∀ {a b c}, related a b → related b c → related a c)
    (left : Option.Rel related first second) (right : Option.Rel related second third) :
    Option.Rel related first third := by
  cases left with
  | none => exact right
  | some left =>
    cases right with
    | some right => exact .some (trans left right)

theorem map_of {change : α → α} (follows : ∀ value, related value (change value)) (value : Option α) :
    Option.Rel related value (value.map change) := by
  cases value with
  | none => exact .none
  | some value => exact .some (follows value)

theorem exists_before {after : α} (traced : Option.Rel related first second) (isAfter : after ∈ second) :
    ∃ before ∈ first, related before after := by
  cases traced with
  | none => cases isAfter
  | some follows =>
    cases isAfter
    exact ⟨_, rfl, follows⟩

theorem exists_after {before : α} (traced : Option.Rel related first second) (isBefore : before ∈ first) :
    ∃ after ∈ second, related before after := by
  cases traced with
  | none => cases isBefore
  | some follows =>
    cases isBefore
    exact ⟨_, rfl, follows⟩

end Option.Rel
