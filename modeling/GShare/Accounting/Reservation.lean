import Mathlib.Algebra.BigOperators.Group.Finset.Piecewise
import Mathlib.Algebra.Order.BigOperators.Group.Finset
import Mathlib.Algebra.Order.Group.Int

/-! # A reservation shared by several holders

One account keeps a single reserved amount for all holders together, while each holder's own open hold
is known only from its history. A hold raises both. Spending lowers the reserved amount by what is
spent and the holder's own hold by as much as it has. Closing gives a holder's open hold back. The two
sides of the comparison between the reserved amount and the sum of the open holds are kept under
different conditions, so they are stated apart.
-/

namespace Accounting

open Finset Function

/-- The account-wide reserved amount and every holder's open hold. -/
structure Book (Holder : Type*) where
  reserved : ℤ
  holds : Holder → ℤ

variable {amount : ℤ}

namespace Book

variable {Holder : Type*} [DecidableEq Holder]

section

variable (book : Book Holder) (holder : Holder)

/-- A holder with nothing open reserves `amount`. -/
def hold (amount : ℤ) : Book Holder where
  reserved := book.reserved + amount
  holds := update book.holds holder (book.holds holder + amount)

/-- A holder spends: the reserved amount and its own hold fall, neither below zero. -/
def spend (amount : ℤ) : Book Holder where
  reserved := max 0 (book.reserved - amount)
  holds := update book.holds holder (max 0 (book.holds holder - amount))

/-- A holder closes: its open hold is given back as far as the reserved amount reaches. -/
def close : Book Holder where
  reserved := book.reserved - min (book.holds holder) book.reserved
  holds := update book.holds holder 0

end

structure Sound (book : Book Holder) : Prop where
  reserved : 0 ≤ book.reserved
  holds : ∀ holder, 0 ≤ book.holds holder

/-- The sum of the open holds of the given holders. -/
def total (book : Book Holder) (holders : Finset Holder) : ℤ := ∑ holder ∈ holders, book.holds holder

section Sound

variable {book : Book Holder} (sound : book.Sound) (holder : Holder)
include sound

theorem Sound.hold (nonneg : 0 ≤ amount) : (book.hold holder amount).Sound where
  reserved := add_nonneg sound.reserved nonneg
  holds other := by
    by_cases same : other = holder
    · subst same
      simpa [Book.hold] using add_nonneg (sound.holds other) nonneg
    · simpa [Book.hold, same] using sound.holds other

theorem Sound.spend (amount : ℤ) : (book.spend holder amount).Sound where
  reserved := le_max_left _ _
  holds other := by
    by_cases same : other = holder
    · subst same
      simp [Book.spend]
    · simpa [Book.spend, same] using sound.holds other

theorem Sound.close : (book.close holder).Sound where
  reserved := by
    simp only [Book.close]
    omega
  holds other := by
    by_cases same : other = holder
    · subst same
      simp [Book.close]
    · simpa [Book.close, same] using sound.holds other

end Sound

section Totals

variable (book : Book Holder) {holders : Finset Holder} {holder : Holder}

section

variable (member : holder ∈ holders)

include member

private theorem total_update (value reserved : ℤ) :
    total ⟨reserved, update book.holds holder value⟩ holders
      = book.total holders - book.holds holder + value := by
  unfold total
  rw [sum_update_of_mem member]
  have split := sum_sdiff (f := book.holds) (singleton_subset_iff.mpr member)
  rw [sum_singleton] at split
  omega

theorem total_hold (amount : ℤ) :
    (book.hold holder amount).total holders = book.total holders + amount := by
  rw [hold, total_update book member]
  omega

theorem total_spend (amount : ℤ) : (book.spend holder amount).total holders
      = book.total holders - book.holds holder + max 0 (book.holds holder - amount) :=
  total_update book member _ _

theorem total_close :
    (book.close holder).total holders = book.total holders - book.holds holder := by
  rw [close, total_update book member, add_zero]

end

variable {book}

variable (sound : book.Sound) (member : holder ∈ holders)

include sound member

omit [DecidableEq Holder] in
theorem Sound.holds_le_total : book.holds holder ≤ book.total holders :=
  single_le_sum (fun other _ => sound.holds other) member

/-- Spending never leaves more reserved than the open holds add up to. -/
theorem Sound.reserved_spend_le (amount : ℤ)
    (within : book.reserved ≤ book.total holders) :
    (book.spend holder amount).reserved ≤ (book.spend holder amount).total holders := by
  have part := sound.holds_le_total member
  rw [total_spend book member]
  simp only [Book.spend]
  omega

/-- Closing takes the holder's share out of both sides. -/
theorem Sound.reserved_close_le (within : book.reserved ≤ book.total holders) :
    (book.close holder).reserved ≤ (book.close holder).total holders := by
  have part := sound.holds_le_total member
  rw [total_close book member]
  simp only [Book.close]
  omega

/-- Spending keeps the open holds covered when the holder stays within its own hold, and also when
nobody else has anything open. -/
theorem Sound.total_spend_le (within : amount ≤ book.holds holder ∨ ∀ other, other ≠ holder → book.holds other = 0)
    (covered : book.total holders ≤ book.reserved) :
    (book.spend holder amount).total holders ≤ (book.spend holder amount).reserved := by
  rw [total_spend book member]
  simp only [Book.spend]
  rcases within with own | alone
  · omega
  · have only : book.total holders = book.holds holder :=
      sum_eq_single_of_mem holder member fun other _ ne => alone other ne
    have own := sound.holds holder
    omega

theorem Sound.total_close_le (covered : book.total holders ≤ book.reserved) :
    (book.close holder).total holders ≤ (book.close holder).reserved := by
  have part := sound.holds_le_total member
  rw [total_close book member]
  simp only [Book.close]
  omega

end Totals

end Book

end Accounting
