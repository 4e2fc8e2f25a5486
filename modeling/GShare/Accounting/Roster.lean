import Mathlib.Algebra.BigOperators.Group.List.Basic
import Mathlib.Algebra.Order.BigOperators.Group.List
import Mathlib.Algebra.Order.Ring.Nat
import Mathlib.Data.List.Nodup

/-! # Tables with a unique key

A roster is a finite table of rows no two of which share a key, as a unique index keeps it. A row is
inserted only where its key is free, removed by its key, and revised in place without a change of its
key. `total` adds up a weight over the rows: it grows by the weight of what is inserted and falls by the
weight of what is removed.
-/

namespace Accounting

open Option List Nat Function

variable {Row Key : Type*}
variable {change : Row → Row} {weight left right : Row → ℕ} {rows : List Row}

/-- Rows of which no two have the same key. -/
structure Roster (key : Row → Key) where
  rows : List Row
  unique : (rows.map key).Nodup

namespace Roster

variable {key : Row → Key} {roster next : Roster key} {row other : Row} {wanted gone : Key}

def empty (key : Row → Key) : Roster key := ⟨[], nodup_nil⟩

def total (roster : Roster key) (weight : Row → ℕ) : ℕ := (roster.rows.map weight).sum

theorem total_congr (same : ∀ row ∈ roster.rows, left row = right row) :
    roster.total left = roster.total right := by
  rw [total, total, map_congr_left same]

theorem eq_of_key (member : row ∈ roster.rows) (among : other ∈ roster.rows)
    (same : key row = key other) : row = other :=
  inj_on_of_nodup_map roster.unique member among same

theorem total_eq_zero (light : ∀ row ∈ roster.rows, weight row = 0) :
    roster.total weight = 0 := by
  refine sum_eq_zero fun value member => ?_
  obtain ⟨row, among, rfl⟩ := mem_map.mp member
  exact light row among

theorem le_total (member : row ∈ roster.rows) (weight : Row → ℕ) :
    weight row ≤ roster.total weight :=
  single_le_sum (fun _ _ => zero_le _) _ (mem_map_of_mem member)

/-- A table whose rows with a weight are all among those of another does not weigh more. -/
theorem total_le_of_mem (kept : ∀ row ∈ next.rows, weight row ≠ 0 → row ∈ roster.rows) :
    next.total weight ≤ roster.total weight := by
  have heavy : ∀ rows : List Row,
      (rows.map weight).sum = ((rows.filter (weight · ≠ 0)).map weight).sum := by
    intro rows
    induction rows with
    | nil => rfl
    | cons head rest ih => by_cases light : weight head = 0 <;> simp [light, ih]
  have distinct : (next.rows.filter (weight · ≠ 0)).Nodup := (next.unique.of_map key).filter _
  have among : next.rows.filter (weight · ≠ 0) ⊆ roster.rows := by
    intro row member
    obtain ⟨member, weighs⟩ := mem_filter.mp member
    exact kept row member (by simpa using weighs)
  obtain ⟨same, reordered, below⟩ := subperm_of_subset distinct among
  calc
    next.total weight = ((next.rows.filter (weight · ≠ 0)).map weight).sum := heavy next.rows
    _ = (same.map weight).sum := (reordered.map weight).sum_eq.symm
    _ ≤ roster.total weight := (below.map weight).sum_le_sum fun _ _ => zero_le _

variable [DecidableEq Key]

def find? (roster : Roster key) (wanted : Key) : Option Row := roster.rows.find? (key · == wanted)

/-- Take out the row with a key. -/
def remove (roster : Roster key) (gone : Key) : Roster key where
  rows := roster.rows.filter (key · != gone)
  unique := roster.unique.sublist (filter_sublist.map key)

/-- Put in a row whose key is free. -/
def insert (roster : Roster key) (row : Row) : Option (Roster key) :=
  if absent : key row ∈ roster.rows.map key then none
  else some ⟨row :: roster.rows, nodup_cons.mpr ⟨absent, roster.unique⟩⟩

theorem map_key_change (keeps : ∀ row, key (change row) = key row) :
    (rows.map fun row => if key row = wanted then change row else row).map key = rows.map key := by
  rw [List.map_map]
  refine map_congr_left fun row _ => ?_
  simp only [comp_apply]
  split_ifs
  · exact keeps row
  · rfl

def revise (roster : Roster key) (wanted : Key) (change : Row → Row)
    (keeps : ∀ row, key (change row) = key row) : Roster key where
  rows := roster.rows.map fun row => if key row = wanted then change row else row
  unique := by
    rw [map_key_change keeps]
    exact roster.unique

variable {keeps : ∀ row, key (change row) = key row}

theorem map_key_revise :
    (roster.revise wanted change keeps).rows.map key = roster.rows.map key :=
  map_key_change keeps

theorem find?_eq_some_iff : roster.find? wanted = some row ↔ row ∈ roster.rows ∧ key row = wanted := by
  constructor
  · intro found
    exact ⟨mem_of_find?_eq_some found, by simpa using find?_some found⟩
  · rintro ⟨member, rfl⟩
    cases found : roster.find? (key row) with
    | none => simpa using find?_eq_none.mp found row member
    | some first =>
      have same : key first = key row := by simpa using find?_some found
      rw [eq_of_key (mem_of_find?_eq_some found) member same]

theorem find?_eq_none_iff : roster.find? wanted = none ↔ ∀ row ∈ roster.rows, key row ≠ wanted := by
  simp [find?]

theorem mem_remove : row ∈ (roster.remove gone).rows ↔ row ∈ roster.rows ∧ key row ≠ gone := by
  simp [remove]

theorem find?_remove :
    (roster.remove gone).find? wanted = if wanted = gone then none else roster.find? wanted := by
  split_ifs with same
  · exact find?_eq_none_iff.mpr fun row member => same ▸ (mem_remove.mp member).2
  · ext row
    simp only [find?_eq_some_iff, mem_remove]
    exact ⟨fun found => ⟨found.1.1, found.2⟩, fun found => ⟨⟨found.1, found.2 ▸ same⟩, found.2⟩⟩

theorem insert_isSome (free : roster.find? (key row) = none) : (roster.insert row).isSome := by
  have absent : key row ∉ roster.rows.map key := by
    intro present
    obtain ⟨other, member, same⟩ := mem_map.mp present
    exact find?_eq_none_iff.mp free other member same
  rw [insert, dif_neg absent, isSome_some]

theorem find?_revise {other : Key} :
    (roster.revise wanted change keeps).find? other =
      (roster.find? other).map fun row => if key row = wanted then change row else row := by
  have same : ((key · == other) ∘ fun row => if key row = wanted then change row else row)
      = (key · == other) := by
    funext row
    simp only [comp_apply]
    split_ifs
    · rw [keeps]
    · rfl
  rw [find?, revise, find?_map, same]
  rfl

theorem find?_revise_self (keeps : ∀ row, key (change row) = key row) :
    (roster.revise wanted change keeps).find? wanted = (roster.find? wanted).map change := by
  rw [find?_revise]
  cases found : roster.find? wanted with
  | none => rfl
  | some row => rw [map_some, if_pos (find?_eq_some_iff.mp found).2, map_some]

theorem find?_revise_of_ne (keeps : ∀ row, key (change row) = key row) {other : Key}
    (apart : other ≠ wanted) : (roster.revise wanted change keeps).find? other = roster.find? other := by
  rw [find?_revise]
  cases found : roster.find? other with
  | none => rfl
  | some row =>
    obtain ⟨-, rfl⟩ := find?_eq_some_iff.mp found
    rw [map_some, if_neg apart]

theorem mem_revise : other ∈ (roster.revise wanted change keeps).rows ↔
      other ∈ roster.rows ∧ key other ≠ wanted ∨ ∃ row ∈ roster.rows, key row = wanted ∧ change row = other := by
  simp only [revise, List.mem_map]
  constructor
  · rintro ⟨row, member, rfl⟩
    by_cases same : key row = wanted
    · exact .inr ⟨row, member, same, by rw [if_pos same]⟩
    · exact .inl (by rw [if_neg same]; exact ⟨member, same⟩)
  · rintro (⟨member, differs⟩ | ⟨row, member, same, rfl⟩)
    · exact ⟨other, member, if_neg differs⟩
    · exact ⟨row, member, if_pos same⟩

section

variable (inserted : roster.insert row = some next)

include inserted

theorem insert_eq_some : roster.find? (key row) = none ∧ next.rows = row :: roster.rows := by
  unfold insert at inserted
  split_ifs at inserted with absent
  cases inserted
  refine ⟨find?_eq_none_iff.mpr fun other member same => absent ?_, rfl⟩
  exact mem_map.mpr ⟨other, member, same⟩

theorem find?_insert : next.find? (key row) = some row := by
  refine find?_eq_some_iff.mpr ⟨?_, rfl⟩
  rw [(insert_eq_some inserted).2]
  exact mem_cons_self

theorem find?_insert_of_ne (differs : wanted ≠ key row) :
    next.find? wanted = roster.find? wanted := by
  have another : (key row == wanted) = false := by simpa using differs.symm
  rw [find?, (insert_eq_some inserted).2, find?_cons, another]
  rfl

theorem total_insert (weight : Row → ℕ) : next.total weight = weight row + roster.total weight := by
  rw [total, (insert_eq_some inserted).2, map_cons, sum_cons]
  rfl

end

private theorem sum_filter_of_nodup (unique : (rows.map key).Nodup) (weight : Row → ℕ) (member : row ∈ rows) :
    (rows.map weight).sum = weight row + ((rows.filter (key · != key row)).map weight).sum := by
  induction rows with
  | nil => cases member
  | cons head rest ih =>
    obtain ⟨fresh, unique⟩ := nodup_cons.mp unique
    rcases mem_cons.mp member with rfl | later
    · have others : rest.filter (key · != key row) = rest := by
        rw [filter_eq_self]
        intro other among
        simpa using fun same : key other = key row => fresh (same ▸ mem_map_of_mem among)
      simp [others]
    · have differs : key head ≠ key row := fun same => fresh (same ▸ mem_map_of_mem later)
      have split := ih unique later
      simp only [map_cons, sum_cons, filter_cons, bne_iff_ne, ne_eq, differs,
        not_false_eq_true, ↓reduceIte, split]
      omega

theorem total_remove (found : roster.find? gone = some row) (weight : Row → ℕ) :
    roster.total weight = weight row + (roster.remove gone).total weight := by
  obtain ⟨member, rfl⟩ := find?_eq_some_iff.mp found
  exact sum_filter_of_nodup roster.unique weight member

/-- When every row with a weight has one with the same key and at least that weight in another table, the
other table weighs at least as much. -/
theorem total_le_of_keys {Other : Type*} {otherKey : Other → Key} {others : Roster otherKey}
    {bound : Other → ℕ} (matched : ∀ row ∈ roster.rows, weight row ≠ 0 →
      ∃ other ∈ others.rows, otherKey other = key row ∧ weight row ≤ bound other) :
    roster.total weight ≤ others.total bound := by
  obtain ⟨rows, unique⟩ := roster
  simp only [total] at matched ⊢
  induction rows generalizing others with
  | nil => exact zero_le _
  | cons head rest ih =>
    obtain ⟨fresh, unique⟩ := nodup_cons.mp unique
    have later : ∀ row ∈ rest, weight row ≠ 0 →
        ∃ other ∈ others.rows, otherKey other = key row ∧ weight row ≤ bound other :=
      fun row member => matched row (mem_cons_of_mem _ member)
    rw [map_cons, sum_cons]
    by_cases light : weight head = 0
    · rw [light, zero_add]
      exact ih unique later
    · obtain ⟨other, among, same, below⟩ := matched head mem_cons_self light
      have split : others.total bound = bound other + (others.remove (key head)).total bound :=
        total_remove (find?_eq_some_iff.mpr ⟨among, same⟩) bound
      have remaining : (rest.map weight).sum ≤ (others.remove (key head)).total bound := by
        refine ih unique fun row member heavy => ?_
        obtain ⟨another, among, same, below⟩ := later row member heavy
        refine ⟨another, mem_remove.mpr ⟨among, ?_⟩, same, below⟩
        rw [same]
        exact fun repeated => fresh (repeated ▸ mem_map_of_mem member)
      simp only [total] at split remaining ⊢
      omega

theorem total_revise (same : ∀ row ∈ roster.rows, key row = wanted → weight (change row) = weight row) :
    (roster.revise wanted change keeps).total weight = roster.total weight := by
  simp only [total, revise, List.map_map]
  congr 1
  refine map_congr_left fun row member => ?_
  simp only [comp_apply]
  split_ifs with chosen
  · exact same row member chosen
  · rfl

theorem total_remove_le : (roster.remove wanted).total weight ≤ roster.total weight :=
  (filter_sublist.map weight).sum_le_sum fun _ _ => zero_le _

theorem total_revise_le (below : ∀ row ∈ roster.rows, key row = wanted → weight (change row) ≤ weight row) :
    (roster.revise wanted change keeps).total weight ≤ roster.total weight := by
  simp only [total, revise, List.map_map]
  refine sum_le_sum fun row member => ?_
  simp only [comp_apply]
  split_ifs with chosen
  · exact below row member chosen
  · exact le_rfl

theorem remove_revise :
    ((roster.revise wanted change keeps).remove wanted).rows = (roster.remove wanted).rows := by
  simp only [remove, revise]
  induction roster.rows with
  | nil => rfl
  | cons head rest ih =>
    by_cases chosen : key head = wanted
    · simp [chosen, keeps, ih]
    · simp [chosen, ih]

theorem total_revise_split (found : roster.find? wanted = some row) (weight : Row → ℕ) :
    (roster.revise wanted change keeps).total weight
      = weight (change row) + (roster.remove wanted).total weight := by
  obtain ⟨member, same⟩ := find?_eq_some_iff.mp found
  have changed : (roster.revise wanted change keeps).find? wanted = some (change row) :=
    find?_eq_some_iff.mpr ⟨mem_revise.mpr (.inr ⟨row, member, same, rfl⟩), (keeps row).trans same⟩
  rw [total_remove changed weight]
  simp only [total, remove_revise]

theorem total_eq_of_only (found : roster.find? wanted = some row)
    (others : ∀ other ∈ roster.rows, key other ≠ wanted → weight other = 0) : roster.total weight = weight row := by
  rw [total_remove found weight, add_eq_left]
  refine total_eq_zero fun other member => ?_
  obtain ⟨member, differs⟩ := mem_remove.mp member
  exact others other member differs

end Roster

end Accounting
