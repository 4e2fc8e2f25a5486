import GShare.Machine.Run

/-! # Interleaved calls over a shared store

A call in progress is a control point with what the call has read so far; one of its atomic steps
reads and writes the shared store and moves the control point. A pool holds the store and any
number of calls, each known by its place, so that a store can say who holds a lock. New calls enter
at any time, every call may take its next step at any time, and the outside may change the store on
its own. `Program.Keeps.run` is the rely-guarantee rule: an assertion on the store and one on each
call survive every interleaving when the call that steps re-establishes its own assertion and breaks
nobody else's.
-/

namespace Machine

open List

/-- The atomic steps of calls over a store, with the choices the environment makes. -/
structure Program (Store Call Input Outside : Type*) where
  /-- Where a new call may stand. -/
  entry : Call → Prop
  /-- The next atomic step of the call at a place; `none` when it has none to take. -/
  next : ℕ → Store → Call → Input → Option (Store × Call)
  /-- A change of the store made by nobody in the pool. -/
  outside : Store → Outside → Option Store

/-- The store and every call made so far, finished ones included. -/
structure Pool (Store Call : Type*) where
  store : Store
  calls : List Call

inductive Action (Call Input Outside : Type*) where
  | enter (call : Call)
  | advance (index : ℕ) (input : Input)
  | outside (change : Outside)

variable {Store Call Input Outside : Type*}
variable {index : ℕ} {ok : Pool Store Call → Action Call Input Outside → Prop} {calls : List Call}
variable {found : Call} {onStore : Store → Prop} {onCall : Store → ℕ → Call → Prop}
variable {action : Action Call Input Outside} {program : Program Store Call Input Outside}

namespace Program

/-- The pool after one move, when that move is possible. -/
def step (program : Program Store Call Input Outside) [DecidablePred program.entry]
    (pool : Pool Store Call) : Action Call Input Outside → Option (Pool Store Call)
  | .enter call =>
      if program.entry call then some { pool with calls := pool.calls ++ [call] } else none
  | .advance index input =>
      pool.calls[index]?.bind fun call =>
        (program.next index pool.store call input).map fun (store, after) =>
          { store := store, calls := pool.calls.set index after }
  | .outside change =>
      (program.outside pool.store change).map fun store => { pool with store := store }

variable (program : Program Store Call Input Outside) [DecidablePred program.entry]
variable {pool next : Pool Store Call}

theorem step_enter {call : Call} (taken : program.step pool (.enter call) = some next) :
    program.entry call ∧ next = { pool with calls := pool.calls ++ [call] } := by
  simp only [step] at taken
  split_ifs at taken with enters
  exact ⟨enters, (Option.some.inj taken).symm⟩

theorem step_advance {input : Input} (taken : program.step pool (.advance index input) = some next) :
    ∃ call store after, pool.calls[index]? = some call ∧
      program.next index pool.store call input = some (store, after) ∧
      next = { store := store, calls := pool.calls.set index after } := by
  simp only [step, Option.bind_eq_some_iff, Option.map_eq_some_iff] at taken
  obtain ⟨call, at_index, ⟨store, after⟩, stepped, rfl⟩ := taken
  exact ⟨call, store, after, at_index, stepped, rfl⟩

theorem step_outside {change : Outside} (taken : program.step pool (.outside change) = some next) :
    ∃ store, program.outside pool.store change = some store ∧ next = { pool with store := store } := by
  simp only [step, Option.map_eq_some_iff] at taken
  obtain ⟨store, changed, rfl⟩ := taken
  exact ⟨store, changed, rfl⟩

end Program

theorem getElem?_enter {entered : Call} (member : (calls ++ [entered])[index]? = some found) :
    calls[index]? = some found ∨ index = calls.length ∧ found = entered := by
  rw [getElem?_append] at member
  split_ifs at member with earlier
  · exact .inl member
  · have bound := (List.getElem?_eq_some_iff.mp member).1
    simp only [length_singleton] at bound
    exact .inr ⟨by omega, mem_singleton.mp (mem_of_getElem? member)⟩

/-- Who is where after a call has moved. -/
theorem getElem?_advance {after : Call} {other : ℕ} (member : (calls.set index after)[other]? = some found) :
    other = index ∧ found = after ∨ other ≠ index ∧ calls[other]? = some found := by
  by_cases same : other = index
  · subst same
    have length := (List.getElem?_eq_some_iff.mp member).1
    rw [length_set] at length
    rw [getElem?_set_self length] at member
    exact .inl ⟨rfl, (Option.some.inj member).symm⟩
  · rw [getElem?_set_ne (Ne.symm same)] at member
    exact .inr ⟨same, member⟩

structure Pool.Holds (onStore : Store → Prop) (onCall : Store → ℕ → Call → Prop)
    (pool : Pool Store Call) : Prop where
  store : onStore pool.store
  calls : ∀ (index : ℕ) call, pool.calls[index]? = some call → onCall pool.store index call

/-- The proof obligations of the rely-guarantee rule under a side condition on the moves. -/
structure Program.Keeps (program : Program Store Call Input Outside)
    [DecidablePred program.entry] (ok : Pool Store Call → Action Call Input Outside → Prop)
    (onStore : Store → Prop) (onCall : Store → ℕ → Call → Prop) : Prop where
  enter : ∀ pool call, ok pool (.enter call) → program.entry call → onStore pool.store →
    onCall pool.store pool.calls.length call
  own : ∀ pool (index : ℕ) input call store after, ok pool (.advance index input) →
    pool.calls[index]? = some call → program.next index pool.store call input = some (store, after) →
    onStore pool.store → onCall pool.store index call → onStore store ∧ onCall store index after
  others : ∀ pool (index : ℕ) input call store after (other : ℕ) bystander,
    ok pool (.advance index input) → pool.calls[index]? = some call →
    program.next index pool.store call input = some (store, after) →
    onStore pool.store → onCall pool.store index call →
    other ≠ index → pool.calls[other]? = some bystander → onCall pool.store other bystander →
    onCall store other bystander
  outside : ∀ pool change store, ok pool (.outside change) →
    program.outside pool.store change = some store → onStore pool.store →
    onStore store ∧ ∀ index call, onCall pool.store index call → onCall store index call

theorem Program.Keeps.step [DecidablePred program.entry]
    (keeps : program.Keeps ok onStore onCall) {pool next : Pool Store Call} (meets : ok pool action)
    (taken : program.step pool action = some next) (holds : pool.Holds onStore onCall) :
    next.Holds onStore onCall := by
  cases action with
  | enter call =>
    obtain ⟨enters, rfl⟩ := program.step_enter taken
    refine ⟨holds.store, fun index found member => ?_⟩
    rcases getElem?_enter member with earlier | ⟨rfl, rfl⟩
    · exact holds.calls index found earlier
    · exact keeps.enter pool found meets enters holds.store
  | advance index input =>
    obtain ⟨call, store, after, at_index, stepped, rfl⟩ := program.step_advance taken
    have own := holds.calls index call at_index
    obtain ⟨storeHolds, afterHolds⟩ :=
      keeps.own pool index input call store after meets at_index stepped holds.store own
    refine ⟨storeHolds, fun other found member => ?_⟩
    rcases getElem?_advance member with ⟨rfl, rfl⟩ | ⟨differs, earlier⟩
    · exact afterHolds
    · exact keeps.others pool index input call store after other found meets at_index stepped
        holds.store own differs earlier (holds.calls other found earlier)
  | outside change =>
    obtain ⟨store, changed, rfl⟩ := program.step_outside taken
    obtain ⟨storeHolds, callsHold⟩ := keeps.outside pool change store meets changed holds.store
    exact ⟨storeHolds, fun index call member => callsHold index call (holds.calls index call member)⟩

section

variable [DecidablePred program.entry] (keeps : program.Keeps ok onStore onCall) {first last : Pool Store Call}
variable {actions : List (Action Call Input Outside)}

include keeps

/-- The assertions hold in every pool that a run reaches. -/
theorem Program.Keeps.run (run : Run program.step ok first actions last)
    (initial : first.Holds onStore onCall) : last.Holds onStore onCall :=
  run.invariant initial fun _ _ _ meets taken holds => keeps.step meets taken holds

theorem Program.Keeps.run_idle (run : Run program.step ok first actions last) (idle : first.calls = [])
    (initial : onStore first.store) : last.Holds onStore onCall :=
  keeps.run run ⟨initial, by simp [idle]⟩

end

end Machine
