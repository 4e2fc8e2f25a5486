import GShare.Machine.Calls

/-! # Calls that take turns

The calls of a program one after the other: a call begins when none is in progress and takes all its
steps before the next one begins. The outside may change the store at any time. An assertion on the idle
store then needs no rely condition: `Program.KeepsTurns.run` asks that the call in progress restores it
by the time it is finished.
-/

namespace Machine

open Option

variable {Store Call Input Outside : Type*}

structure Turn (Store Call : Type*) where
  store : Store
  current : Option Call

inductive Move (Call Input Outside : Type*) where
  | enter (call : Call)
  | proceed (input : Input)
  | outside (change : Outside)

def Program.turn (program : Program Store Call Input Outside) [DecidablePred program.entry]
    (finished : Call → Bool) (turn : Turn Store Call) :
    Move Call Input Outside → Option (Turn Store Call)
  | .enter call =>
      if turn.current.isNone ∧ program.entry call then some { turn with current := some call } else none
  | .proceed input =>
      turn.current.bind fun call =>
        (program.next 0 turn.store call input).map fun (store, after) =>
          { store := store, current := if finished after then none else some after }
  | .outside change =>
      (program.outside turn.store change).map fun store => { turn with store := store }

def Turn.Holds (onIdle : Store → Prop) (onCall : Store → Call → Prop) (turn : Turn Store Call) : Prop :=
  match turn.current with
  | none => onIdle turn.store
  | some call => onCall turn.store call

/-- The proof obligations for calls that take turns. -/
structure Program.KeepsTurns (program : Program Store Call Input Outside) (finished : Call → Bool)
    (ok : Turn Store Call → Move Call Input Outside → Prop)
    (onIdle : Store → Prop) (onCall : Store → Call → Prop) : Prop where
  enter : ∀ store call, program.entry call → onIdle store → onCall store call
  own : ∀ store call input next after, ok ⟨store, some call⟩ (.proceed input) →
    program.next 0 store call input = some (next, after) → onCall store call →
    if finished after then onIdle next else onCall next after
  outside : ∀ store change next, program.outside store change = some next →
    (onIdle store → onIdle next) ∧ ∀ call, onCall store call → onCall next call

variable {program : Program Store Call Input Outside} {finished : Call → Bool}
variable {ok : Turn Store Call → Move Call Input Outside → Prop} {onIdle : Store → Prop}
variable {onCall : Store → Call → Prop}

theorem Program.KeepsTurns.step [DecidablePred program.entry]
    (keeps : program.KeepsTurns finished ok onIdle onCall)
    {turn next : Turn Store Call} {move : Move Call Input Outside} (meets : ok turn move)
    (taken : program.turn finished turn move = some next) (holds : turn.Holds onIdle onCall) :
    next.Holds onIdle onCall := by
  obtain ⟨store, current⟩ := turn
  cases move with
  | enter call =>
    simp only [turn] at taken
    split_ifs at taken with free
    cases taken
    obtain ⟨idle, enters⟩ := free
    obtain rfl := isNone_iff_eq_none.mp idle
    exact keeps.enter store call enters holds
  | proceed input =>
    simp only [turn, bind_eq_some_iff, map_eq_some_iff] at taken
    obtain ⟨call, rfl, ⟨after, onward⟩, stepped, rfl⟩ := taken
    have kept := keeps.own store call input after onward meets stepped holds
    simp only [Turn.Holds]
    cases ends : finished onward with
    | true | false => simpa [ends] using kept
  | outside change =>
    simp only [turn, map_eq_some_iff] at taken
    obtain ⟨after, changed, rfl⟩ := taken
    obtain ⟨idle, busy⟩ := keeps.outside store change after changed
    cases current with
    | none => exact idle holds
    | some call => exact busy call holds

/-- The assertions hold whenever a run of calls that take turns stops. -/
theorem Program.KeepsTurns.run [DecidablePred program.entry]
    (keeps : program.KeepsTurns finished ok onIdle onCall)
    {first last : Turn Store Call} {moves : List (Move Call Input Outside)}
    (run : Run (program.turn finished) ok first moves last) (initial : first.Holds onIdle onCall) :
    last.Holds onIdle onCall :=
  run.invariant initial fun _ _ _ meets taken holds => keeps.step meets taken holds

end Machine
