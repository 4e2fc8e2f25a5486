import GShare.Machine.Run
import Mathlib.Logic.Relation
import Mathlib.Order.Lattice

/-! # Transactions that lock rows

A transaction issues statements one after the other. What a statement locks is decided when it is issued,
from tables that may have changed since the last one; it takes its locks in order, waits where another
transaction holds one, and keeps them to the end. Where every lock that is asked for is above all those
the transaction already holds, no cycle of waiting transactions is ever reached.
-/

namespace Machine

open List Relation

/-- A transaction under way: what it holds, what its present statement still has to lock, and the statements
to come. -/
structure Transaction (Call Tables Lock : Type*) where
  call : Call
  held : List Lock
  wanted : List Lock
  later : List (Tables → List Lock)

inductive LockStep (Call Tables : Type*) where
  | enter (call : Call) (tables : Tables)
  | ask (index : ℕ) (tables : Tables)
  | acquire (index : ℕ)
  | leave (index : ℕ)

variable {Call Tables Lock : Type*}
variable {held rest : List Lock} {lock : Lock} {call : Call} {later : List (Tables → List Lock)}
variable {index : ℕ} {statement : Tables → List Lock}

/-- Whether another transaction holds a lock. -/
def heldElsewhere [DecidableEq Lock] (pool : List (Transaction Call Tables Lock)) (index : ℕ) (lock : Lock) :
    Bool :=
  (pool.eraseIdx index).any fun other => lock ∈ other.held

/-- The transactions after one step. `plan` gives the statements of a call from what it reads at first. -/
def lockStep [DecidableEq Lock] (plan : Call → Tables → List (Tables → List Lock))
    (pool : List (Transaction Call Tables Lock)) :
    LockStep Call Tables → Option (List (Transaction Call Tables Lock))
  | .enter call tables => some (pool ++ [⟨call, [], [], plan call tables⟩])
  | .ask index tables =>
      match pool[index]? with
      | some ⟨call, held, [], statement :: later⟩ =>
          some (pool.set index ⟨call, held, statement tables, later⟩)
      | _ => none
  | .acquire index =>
      match pool[index]? with
      | some ⟨call, held, lock :: wanted, later⟩ =>
          if heldElsewhere pool index lock then none
          else some (pool.set index ⟨call, lock :: held, wanted, later⟩)
      | _ => none
  | .leave index =>
      match pool[index]? with
      | some transaction => some (pool.set index ⟨transaction.call, [], [], []⟩)
      | none => none

/-- One transaction waits for another: its next lock is there, and it does not hold it itself. -/
def WaitsFor (pool : List (Transaction Call Tables Lock)) (index other : ℕ) : Prop :=
  ∃ waiting holding lock rest, pool[index]? = some waiting ∧ pool[other]? = some holding ∧
    waiting.wanted = lock :: rest ∧ lock ∉ waiting.held ∧ lock ∈ holding.held

/-- A cycle of transactions each of which waits for the next. -/
def Deadlocked (pool : List (Transaction Call Tables Lock)) : Prop :=
  ∃ index, TransGen (WaitsFor pool) index index

/-- The locks that a statement asks for come in order, and what is not held yet is above what is. -/
structure Upward [LinearOrder Lock] (held asked : List Lock) : Prop where
  sorted : asked.Pairwise (· ≤ ·)
  above : ∀ lock ∈ asked, lock ∉ held → ∀ earlier ∈ held, earlier < lock

/-- Statements whose locks come in order, each at or above those of the statements before it. -/
structure Rising [LinearOrder Lock] (later : List (Tables → List Lock)) : Prop where
  sorted : ∀ statement ∈ later, ∀ tables, (statement tables).Pairwise (· ≤ ·)
  rising : later.Pairwise fun first second =>
    ∀ tables others, ∀ low ∈ first tables, ∀ high ∈ second others, low ≤ high

/-- A transaction whose coming statements rise from where it is. -/
structure Transaction.Along [LinearOrder Lock] (transaction : Transaction Call Tables Lock) : Prop where
  rising : Rising transaction.later
  above : ∀ statement ∈ transaction.later, ∀ tables, ∀ high ∈ statement tables,
    ∀ low ∈ transaction.held ++ transaction.wanted, low ≤ high

/-- Whatever replaces a transaction, the others are as they were. -/
theorem forall_set {pool : List (Transaction Call Tables Lock)} {holds : Transaction Call Tables Lock → Prop}
    {changed : Transaction Call Tables Lock} (all : ∀ transaction ∈ pool, holds transaction)
    (new : holds changed) : ∀ transaction ∈ pool.set index changed, holds transaction := by
  intro transaction member
  rcases mem_or_eq_of_mem_set member with old | rfl
  · exact all transaction old
  · exact new

section Ordered

variable [LinearOrder Lock] {plan : Call → Tables → List (Tables → List Lock)} {rises : Call → Prop}
variable {pool next : List (Transaction Call Tables Lock)} {step : LockStep Call Tables}

/-- A statement that is issued asks upward, where the call is not known to rise. -/
def AsksUpward (rises : Call → Prop) (pool : List (Transaction Call Tables Lock)) :
    LockStep Call Tables → Prop
  | .ask index tables => ∀ call held statement later,
      pool[index]? = some ⟨call, held, [], statement :: later⟩ → ¬ rises call →
        Upward held (statement tables)
  | .enter _ _ | .acquire _ | .leave _ => True

theorem Upward.nil {asked : List Lock} (sorted : asked.Pairwise (· ≤ ·)) : Upward [] asked :=
  ⟨sorted, fun _ _ _ _ member => (not_mem_nil member).elim⟩

theorem Upward.acquire (upward : Upward held (lock :: rest)) : Upward (lock :: held) rest := by
  obtain ⟨first, sorted⟩ := pairwise_cons.mp upward.sorted
  refine ⟨sorted, fun later among fresh earlier member => ?_⟩
  obtain ⟨differs, free⟩ := not_or.mp (fun same => fresh (mem_cons.mpr same))
  rcases mem_cons.mp member with rfl | before
  · exact lt_of_le_of_ne (first later among) (Ne.symm differs)
  · exact upward.above later (mem_cons_of_mem _ among) free earlier before

theorem Transaction.Along.ask (along : Transaction.Along ⟨call, held, [], statement :: later⟩) (tables : Tables) :
    Upward held (statement tables) ∧ Transaction.Along ⟨call, held, statement tables, later⟩ := by
  obtain ⟨first, rest⟩ := pairwise_cons.mp along.rising.rising
  refine ⟨⟨along.rising.sorted _ mem_cons_self _, fun high asked fresh low member => ?_⟩,
    ⟨fun other among => along.rising.sorted other (mem_cons_of_mem _ among), rest⟩,
    fun other among others high asked low member => ?_⟩
  · refine lt_of_le_of_ne (along.above statement mem_cons_self tables high asked low ?_) ?_
    · simpa using member
    · rintro rfl
      exact fresh member
  · rcases mem_append.mp member with before | now
    · refine along.above other (mem_cons_of_mem _ among) others high asked low ?_
      simpa using before
    · exact first other among tables others low now high asked

theorem Transaction.Along.acquire {wanted : List Lock}
    (along : Transaction.Along ⟨call, held, lock :: wanted, later⟩) :
    Transaction.Along ⟨call, lock :: held, wanted, later⟩ := by
  refine ⟨along.rising, fun other among others high asked low member => ?_⟩
  refine along.above other among others high asked low ?_
  simp only [cons_append, mem_cons, mem_append] at member ⊢
  tauto

theorem Transaction.Along.of_rising
    (rising : Rising later) : Transaction.Along ⟨call, ([] : List Lock), [], later⟩ :=
  ⟨rising, fun _ _ _ _ _ _ member => (not_mem_nil member).elim⟩

theorem Rising.nil : Rising ([] : List (Tables → List Lock)) :=
  ⟨fun _ member => (not_mem_nil member).elim, .nil⟩

theorem Rising.single (sorted : ∀ tables, (statement tables).Pairwise (· ≤ ·)) : Rising [statement] := by
  refine ⟨fun other member => ?_, pairwise_singleton _ _⟩
  obtain rfl := mem_singleton.mp member
  exact sorted

theorem Rising.pair {first second : Tables → List Lock}
    (sorted : ∀ tables, (first tables).Pairwise (· ≤ ·)) (then_ : ∀ tables, (second tables).Pairwise (· ≤ ·))
    (rising : ∀ tables others, ∀ low ∈ first tables, ∀ high ∈ second others, low ≤ high) :
    Rising [first, second] := by
  refine ⟨fun other member => ?_, pairwise_pair.mpr rising⟩
  rcases mem_cons.mp member with rfl | member
  · exact sorted
  · obtain rfl := mem_singleton.mp member
    exact then_

/-- The locks of a transaction are in order, and it goes on rising if its call is known to. -/
structure Transaction.Orderly (rises : Call → Prop) (transaction : Transaction Call Tables Lock) : Prop where
  upward : Upward transaction.held transaction.wanted
  along : rises transaction.call → transaction.Along

theorem orderly_step (rising : ∀ call tables, rises call → Rising (plan call tables))
    (asks : AsksUpward rises pool step) (taken : lockStep plan pool step = some next)
    (orderly : ∀ transaction ∈ pool, transaction.Orderly rises) :
    ∀ transaction ∈ next, transaction.Orderly rises := by
  cases step with
  | enter call tables =>
    cases taken
    intro transaction member
    rcases mem_append.mp member with old | new
    · exact orderly transaction old
    · obtain rfl := mem_singleton.mp new
      exact ⟨.nil .nil, fun known => .of_rising (rising call tables known)⟩
  | ask index tables =>
    simp only [lockStep] at taken
    split at taken
    next call held statement later found =>
      cases taken
      obtain ⟨-, along⟩ := orderly _ (mem_of_getElem? found)
      refine forall_set orderly ⟨?_, fun known => ((along known).ask tables).2⟩
      by_cases known : rises call
      · exact ((along known).ask tables).1
      · exact asks call held statement later found known
    next => cases taken
  | acquire index =>
    simp only [lockStep] at taken
    split at taken
    next call held lock wanted later found =>
      split_ifs at taken
      cases taken
      obtain ⟨upward, along⟩ := orderly _ (mem_of_getElem? found)
      exact forall_set orderly ⟨upward.acquire, fun known => (along known).acquire⟩
    next => cases taken
  | leave index =>
    simp only [lockStep] at taken
    split at taken
    · cases taken
      exact forall_set orderly ⟨.nil .nil, fun _ => .of_rising .nil⟩
    · cases taken

theorem awaited_lt (ordered : ∀ transaction ∈ pool, Upward transaction.held transaction.wanted)
    {other : ℕ} (waits : TransGen (WaitsFor pool) index other)
    {waiting final : Transaction Call Tables Lock} {last : Lock} {tail : List Lock}
    (first : pool[index]? = some waiting) (asks : waiting.wanted = lock :: rest)
    (end_ : pool[other]? = some final) (wants : final.wanted = last :: tail) (free : last ∉ final.held) :
    lock < last := by
  induction waits generalizing final last tail with
  | single edge =>
    obtain ⟨from_, holding, awaited, _, at_first, at_end, next, -, holds⟩ := edge
    cases first.symm.trans at_first
    cases end_.symm.trans at_end
    rw [asks] at next
    cases next
    exact (ordered final (mem_of_getElem? end_)).above last (wants ▸ mem_cons_self) free _ holds
  | tail _ edge ih =>
    obtain ⟨middle, holding, awaited, _, at_middle, at_end, next, missing, holds⟩ := edge
    cases end_.symm.trans at_end
    have below := ih at_middle next missing
    exact below.trans ((ordered final (mem_of_getElem? end_)).above last
      (wants ▸ mem_cons_self) free _ holds)

/-- Transactions whose locks are in order do not wait in a circle. -/
theorem not_deadlocked (ordered : ∀ transaction ∈ pool, Upward transaction.held transaction.wanted) :
    ¬ Deadlocked pool := by
  rintro ⟨index, cycle⟩
  obtain ⟨waiting, lock, rest, found, asks, free⟩ : ∃ waiting lock rest,
      pool[index]? = some waiting ∧ waiting.wanted = lock :: rest ∧ lock ∉ waiting.held := by
    obtain ⟨_, edge, -⟩ := TransGen.head'_iff.mp cycle
    obtain ⟨waiting, _, lock, rest, found, -, asks, free, -⟩ := edge
    exact ⟨waiting, lock, rest, found, asks, free⟩
  exact lt_irrefl lock (awaited_lt ordered cycle found asks found asks free)

/-- No run whose statements ask upward, or belong to calls that rise, reaches a deadlock. -/
theorem Run.not_deadlocked (rising : ∀ call tables, rises call → Rising (plan call tables))
    {steps : List (LockStep Call Tables)} (run : Run (lockStep plan) (AsksUpward rises) [] steps pool) :
    ¬ Deadlocked pool := by
  have orderly : ∀ transaction ∈ pool, transaction.Orderly rises :=
    run.invariant (fun _ member => (not_mem_nil member).elim)
      fun _ _ _ asks taken orderly => orderly_step rising asks taken orderly
  exact Machine.not_deadlocked fun transaction member => (orderly transaction member).upward

end Ordered

end Machine
