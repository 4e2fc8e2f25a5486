import Mathlib.Data.List.Basic

/-! # Runs of a labelled transition function

A run is a finite sequence of labels executed from a state, each of whose steps meets a side
condition on the state it starts from. Properties of every state reached are proved with
`Run.invariant`; properties that hold for good from some moment on use it with that moment's state
as the start.
-/

namespace Machine

open Option

variable {State Label : Type*}
variable {holds : State → Prop}

/-- A run of `step` from the first state to the second, every step of which meets `ok`. -/
inductive Run (step : State → Label → Option State) (ok : State → Label → Prop) :
    State → List Label → State → Prop
  | nil (state : State) : Run step ok state [] state
  | cons {first second last : State} {label : Label} {labels : List Label}
      (meets : ok first label) (taken : step first label = some second)
      (rest : Run step ok second labels last) : Run step ok first (label :: labels) last

namespace Run

variable {step : State → Label → Option State} {ok : State → Label → Prop}
variable {first second last : State} {labels front back : List Label}

/-- A run goes on where another ended. -/
theorem append (run : Run step ok first front second) (rest : Run step ok second back last) :
    Run step ok first (front ++ back) last := by
  induction run with
  | nil => exact rest
  | cons meets taken _ ih => exact .cons meets taken (ih rest)

section

variable (run : Run step ok first labels last)

include run

/-- What every step that meets the condition preserves holds at the end of a run. -/
theorem invariant (initial : holds first)
    (preserved : ∀ state label next, ok state label → step state label = some next →
      holds state → holds next) : holds last := by
  induction run with
  | nil => exact initial
  | cons meets taken _ ih => exact ih (preserved _ _ _ meets taken initial)

theorem mono {weaker : State → Label → Prop}
    (implies : ∀ state label, ok state label → weaker state label) : Run step weaker first labels last := by
  induction run with
  | nil => exact .nil _
  | cons meets taken _ ih => exact .cons (implies _ _ meets) taken ih

theorem both {also : State → Label → Prop} (other : Run step also first labels last) :
    Run step (fun state label => ok state label ∧ also state label) first labels last := by
  induction run with
  | nil => exact .nil _
  | cons meets taken _ ih =>
    cases other with
    | cons meetsAlso takenAlso rest =>
      cases taken.symm.trans takenAlso
      exact .cons ⟨meets, meetsAlso⟩ taken (ih rest)

/-- A run under other labels, of a function that takes the same steps. -/
theorem relabel {Other : Type*} {name : Label → Other} {other : State → Other → Option State}
    {weaker : State → Other → Prop} (same : ∀ state label, ok state label →
      weaker state (name label) ∧ other state (name label) = step state label) :
    Run other weaker first (labels.map name) last := by
  induction run with
  | nil => exact .nil _
  | cons meets taken _ ih => exact .cons (same _ _ meets).1 ((same _ _ meets).2.trans taken) ih

end

end Run

/-- Take the labels one after the other, as far as each is possible and meets the condition. -/
def execute (step : State → Label → Option State) (ok : State → Label → Prop)
    [∀ state label, Decidable (ok state label)] : State → List Label → Option State
  | state, [] => some state
  | state, label :: labels =>
    if ok state label then (step state label).bind fun next => execute step ok next labels else none

theorem run_of_execute {step : State → Label → Option State} {ok : State → Label → Prop}
    [∀ state label, Decidable (ok state label)] {first last : State} {labels : List Label}
    (executed : execute step ok first labels = some last) : Run step ok first labels last := by
  induction labels generalizing first with
  | nil =>
    cases executed
    exact .nil _
  | cons label labels ih =>
    simp only [execute] at executed
    split_ifs at executed with meets
    obtain ⟨next, taken, rest⟩ := bind_eq_some_iff.mp executed
    exact .cons meets taken (ih rest)

section Evaluation

variable {step : State → Label → Option State} {ok : State → Label → Prop}
variable [∀ state label, Decidable (ok state label)] {first : State} {labels : List Label}

theorem exists_run_of_execute {seen : State → Prop} [DecidablePred seen]
    (evaluated : (execute step ok first labels).any (fun last => decide (seen last))) :
    ∃ last, Run step ok first labels last ∧ seen last := by
  obtain ⟨last, executed, isSeen⟩ := (any_eq_true ..).mp evaluated
  exact ⟨last, run_of_execute executed, of_decide_eq_true isSeen⟩

/-- What follows, for a run, from what evaluation finds at its end. -/
theorem exists_run_imp (seen : State → Prop) [DecidablePred seen]
    (evaluated : (execute step ok first labels).any (fun last => decide (seen last)))
    (implies : ∀ last, Run step ok first labels last → seen last → holds last) :
    ∃ last, Run step ok first labels last ∧ holds last := by
  obtain ⟨last, run, isSeen⟩ := exists_run_of_execute evaluated
  exact ⟨last, run, implies last run isSeen⟩

theorem exists_step_of_execute {label : Label} {seen : State → State → Prop}
    [∀ state next, Decidable (seen state next)]
    (evaluated : (execute step ok first labels).any (fun state =>
      (step state label).any fun next => decide (seen state next))) :
    ∃ state next, Run step ok first labels state ∧ step state label = some next ∧ seen state next := by
  obtain ⟨state, executed, evaluated⟩ := (any_eq_true ..).mp evaluated
  obtain ⟨next, taken, isSeen⟩ := (any_eq_true ..).mp evaluated
  exact ⟨state, next, run_of_execute executed, taken, of_decide_eq_true isSeen⟩

theorem exists_runs_of_execute {later : List Label} {seen : State → State → Prop}
    [∀ state next, Decidable (seen state next)]
    (evaluated : (execute step ok first labels).any (fun middle =>
      (execute step ok middle later).any fun last => decide (seen middle last))) :
    ∃ middle last, Run step ok first labels middle ∧ Run step ok middle later last ∧ seen middle last := by
  obtain ⟨middle, executed, evaluated⟩ := (any_eq_true ..).mp evaluated
  obtain ⟨last, run, isSeen⟩ := exists_run_of_execute evaluated
  exact ⟨middle, last, run_of_execute executed, run, isSeen⟩

theorem exists_step_imp {label : Label} {follows : State → State → Prop} (seen : State → State → Prop)
    [∀ state next, Decidable (seen state next)]
    (evaluated : (execute step ok first labels).any (fun state =>
      (step state label).any fun next => decide (seen state next)))
    (implies : ∀ state next, Run step ok first labels state → step state label = some next →
      seen state next → follows state next) :
    ∃ state next, Run step ok first labels state ∧ step state label = some next ∧ follows state next := by
  obtain ⟨state, next, run, taken, isSeen⟩ := exists_step_of_execute evaluated
  exact ⟨state, next, run, taken, implies state next run taken isSeen⟩

end Evaluation

end Machine
