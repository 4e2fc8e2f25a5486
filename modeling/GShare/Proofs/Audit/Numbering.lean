import GShare.Model.Audit.Log
import GShare.ToMathlib.Basic

/-! # A hash that keeps everything

What is hashed is text, so there are countably many values of it and they can be numbered. The number,
written as a text of that length, is a digest from which nothing is lost.
-/

namespace GShare.Model.Audit

def Json.code : Json → ℕ × String
  | .null => (0, "")
  | .text value => (1, value)
  | .other canonical => (2, canonical)

instance : Countable Json := by
  have coded : Function.Injective Json.code := by
    intro left right same
    cases left <;> cases right <;> simp_all [Json.code]
  exact coded.countable

instance : Countable Payload := by
  have coded : Function.Injective fun payload : Payload => (payload.id, payload.actor, payload.action,
      payload.target, payload.result, payload.detail.fields, payload.createdAt.wall,
      payload.createdAt.offset) := by
    rintro ⟨_, _, _, _, _, ⟨_, _⟩, ⟨_, _⟩⟩ ⟨_, _, _, _, _, ⟨_, _⟩, ⟨_, _⟩⟩ same
    simp_all
  exact coded.countable

/-- A number for everything that can be hashed. -/
noncomputable def number (previous : String) (payload : Payload) : ℕ :=
  (exists_injective_nat (String × Payload)).choose (previous, payload)

theorem number_injective {previous other : String} {payload change : Payload}
    (same : number previous payload = number other change) : previous = other ∧ payload = change :=
  Prod.mk.inj ((exists_injective_nat (String × Payload)).choose_spec same)

/-- A text as long as the number says, and longer than the marker. -/
def numeral (count : ℕ) : String := String.ofList (List.replicate (count + 8) 'h')

theorem length_numeral (count : ℕ) : (numeral count).length = count + 8 := by
  simp [numeral]

theorem numeral_injective {count other : ℕ} (same : numeral count = numeral other) : count = other := by
  have lengths := congrArg String.length same
  rw [length_numeral, length_numeral] at lengths
  omega

theorem numeral_ne {count : ℕ} {text : String} (short : text.length < 8) : numeral count ≠ text := by
  intro same
  rw [← same, length_numeral] at short
  omega

/-- The hasher that numbers what it is given. -/
noncomputable def numbering : Hasher where
  digest previous payload := numeral (number previous payload)
  ne_genesis _ _ := numeral_ne (by decide)
  ne_empty _ _ := numeral_ne (by decide)

theorem numbering_injective : numbering.Injective :=
  fun same => number_injective (numeral_injective same)

end GShare.Model.Audit
