import Mathlib.Data.List.Basic

/-! # Objects that a unit of work has loaded

A unit of work keeps one object for each row it has loaded. Whoever asks for the row again, under a lock
too, gets that object as it was loaded, whatever the row says by then. A flush writes the columns in
which the object differs from what was loaded, and only these.
-/

namespace Machine

variable {Row Column Key : Type*}

section

variable [DecidableEq Column] (loaded changed : Row) (column : Row → Column)

/-- A column after the flush of an object that was `loaded` and has `changed` since. -/
def flushedColumn (current : Row) : Column :=
  if column changed = column loaded then column current else column changed

/-- The flush of a fresh object stores it. -/
@[simp] theorem flushedColumn_fresh : flushedColumn loaded changed column loaded = column changed := by
  unfold flushedColumn
  split_ifs with same
  · exact same.symm
  · rfl

end

variable (find : Key → Option Row) (loaded : List (Key × Row))

/-- Every loaded object still says what its row says. -/
def Fresh : Prop := ∀ pair ∈ loaded, find pair.1 = some pair.2

instance [DecidableEq Row] : Decidable (Fresh find loaded) :=
  inferInstanceAs (Decidable (∀ pair ∈ loaded, _))

variable {find loaded}

theorem Fresh.nil : Fresh find ([] : List (Key × Row)) := List.forall_mem_nil _

theorem Fresh.find_eq [BEq Key] [LawfulBEq Key] {key : Key} {object : Row} (fresh : Fresh find loaded)
    (isLoaded : loaded.lookup key = some object) : find key = some object := by
  obtain ⟨front, back, rfl, -⟩ := List.lookup_eq_some_iff.mp isLoaded
  exact fresh (key, object) (by simp)

/-- Who asks for a row gets it as it is. -/
theorem Fresh.lookup_getD [BEq Key] [LawfulBEq Key] {key : Key} {row : Row} (fresh : Fresh find loaded)
    (found : find key = some row) : (loaded.lookup key).getD row = row := by
  cases isLoaded : loaded.lookup key with
  | none => rfl
  | some object => exact Option.some.inj ((fresh.find_eq isLoaded).symm.trans found)

end Machine
