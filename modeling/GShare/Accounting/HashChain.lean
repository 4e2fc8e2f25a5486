import Mathlib.Data.List.Infix

/-! # Hash chains

Every row of a chain stores a digest computed from it and names the digest stored by the row before
it; the first row names a given start. A chain is extended at its end by a row that names its tip, and it
may lose rows at either end. Rows that are taken out elsewhere are missed: when no two rows store the
same digest, what is left of a chain is a chain only if it is one block of it.
-/

namespace Accounting

open List

variable {Row Digest : Type*}

/-- What a row names, what it stores and what is computed from it. -/
structure HashChain (Row Digest : Type*) where
  previous : Row → Digest
  stored : Row → Digest
  computed : Row → Digest

namespace HashChain

variable (chain : HashChain Row Digest) {start : Digest} {row : Row} {rows front back kept : List Row}

def Linked : Digest → List Row → Prop
  | _, [] => True
  | start, row :: rest =>
      chain.previous row = start ∧ chain.computed row = chain.stored row ∧ Linked (chain.stored row) rest

/-- What the next row has to name. -/
def tip : Digest → List Row → Digest
  | start, [] => start
  | _, row :: rest => tip (chain.stored row) rest

variable {chain}

theorem tip_eq_getLast : chain.tip start rows = (rows.getLast?.map chain.stored).getD start := by
  induction rows generalizing start with
  | nil => rfl
  | cons row rest ih =>
    rw [tip, ih, getLast?_cons]
    cases rest.getLast? <;> rfl

theorem linked_append :
    chain.Linked start (front ++ back) ↔ chain.Linked start front ∧ chain.Linked (chain.tip start front) back := by
  induction front generalizing start with
  | nil => exact ⟨fun linked => ⟨trivial, linked⟩, fun both => both.2⟩
  | cons row rest ih =>
    simp only [cons_append, Linked, tip, ih]
    tauto

namespace Linked

/-- A row past the first names what some row stores. -/
theorem previous_of_tail {head : Row} (linked : chain.Linked start (head :: rows)) (later : row ∈ rows) :
    ∃ before ∈ head :: rows, chain.previous row = chain.stored before := by
  induction rows generalizing start head with
  | nil => cases later
  | cons next rest ih =>
    rcases mem_cons.mp later with rfl | later
    · exact ⟨head, mem_cons_self, linked.2.2.1⟩
    · obtain ⟨before, among, names⟩ := ih linked.2.2 later
      exact ⟨before, mem_cons_of_mem _ among, names⟩

section

variable (linked : chain.Linked start rows)

include linked

theorem computed_eq (member : row ∈ rows) : chain.computed row = chain.stored row := by
  induction rows generalizing start with
  | nil => cases member
  | cons head rest ih =>
    rcases mem_cons.mp member with rfl | later
    · exact linked.2.1
    · exact ih linked.2.2 later

/-- Two chains from one start, one within the other: the shorter is the beginning of the longer. -/
theorem prefix_of_sublist (remains : chain.Linked start kept)
    (within : kept.Sublist rows) (distinct : (start :: rows.map chain.stored).Nodup) : kept <+: rows := by
  induction rows generalizing start kept with
  | nil => rw [sublist_nil.mp within]
  | cons head rest ih =>
    obtain ⟨fresh, distinct⟩ := nodup_cons.mp distinct
    cases within with
    | cons _ later =>
      cases kept with
      | nil => exact nil_prefix
      | cons first others =>
        -- the first row that is kept is not the head, so it names a stored digest and not the start
        obtain ⟨before, among, names⟩ := linked.previous_of_tail (later.subset mem_cons_self)
        rw [remains.1] at names
        exact absurd (names ▸ mem_map_of_mem among) fresh
    | cons_cons _ later =>
      exact cons_prefix_cons.mpr ⟨rfl, ih linked.2.2 remains.2.2 later distinct⟩

/-- Rows of a chain that are a chain on their own are one block of it. -/
theorem infix_of_sublist {other : Digest} (remains : chain.Linked other kept) (within : kept.Sublist rows)
    (distinct : (rows.map chain.stored).Nodup) : kept <:+: rows := by
  induction rows generalizing start with
  | nil => rw [sublist_nil.mp within]
  | cons head rest ih =>
    cases within with
    | cons _ later =>
      exact (ih linked.2.2 later (nodup_cons.mp distinct).2).trans (suffix_cons head rest).isInfix
    | cons_cons _ later =>
      have front := linked.2.2.prefix_of_sublist remains.2.2 later distinct
      exact (cons_prefix_cons.mpr ⟨rfl, front⟩).isInfix

theorem of_block (block : kept <:+: rows) :
    chain.Linked ((kept.head?.map chain.previous).getD start) kept := by
  obtain ⟨front, back, rfl⟩ := block
  have middle := (linked_append.mp (linked_append.mp linked).1).2
  cases kept with
  | nil => trivial
  | cons head rest =>
    have names := middle.1
    rw [← names] at middle
    exact middle

end

end Linked

end HashChain

end Accounting
