import GShare.Model.Cluster.Cordon

/-! # The mirror of the cordon

One annotation tells the cordons of the operator from those that were placed by hand. It does so as long as a
node that is unschedulable without it was cordoned by hand, and one that is unschedulable with it was not.
-/

namespace GShare.Model

open Machine KubeNode CordonState

namespace KubeNode

/-- The node is unschedulable, and not on the operator's account. -/
def held (node : KubeNode) : Bool := node.unschedulable && !node.ours

variable (wanted : List String) (node : KubeNode)

theorem mirrorCordon_name : (node.mirrorCordon wanted).name = node.name := by
  dsimp only [mirrorCordon]
  split_ifs <;> rfl

theorem mirrorCordon_held : (node.mirrorCordon wanted).held = node.held := by
  obtain ⟨name, unschedulable, ours⟩ := node
  simp only [mirrorCordon, held]
  cases wanted.contains name <;> cases unschedulable <;> cases ours <;> rfl

theorem mirrorCordon_unschedulable :
    (node.mirrorCordon wanted).unschedulable = (wanted.contains node.name || node.held) := by
  obtain ⟨name, unschedulable, ours⟩ := node
  simp only [mirrorCordon, held]
  cases wanted.contains name <;> cases unschedulable <;> cases ours <;> rfl

end KubeNode

namespace CordonState

variable {state next : CordonState} {event : CordonEvent}

/-- A health cordon finds the node unschedulable or marked already, and a cordon by hand finds it without the
mark. -/
def Marked (state : CordonState) : CordonEvent → Prop
  | .health => state.node.unschedulable ∨ state.node.ours
  | .manual cordon => cordon → state.node.ours = false
  | .console .. | .tick => True

instance : DecidablePred state.Marked := fun event => by
  unfold Marked
  split <;> infer_instance

theorem held_step (marked : state.Marked event) (taken : state.step event = some next)
    (told : state.node.held = state.byHand) : next.node.held = next.byHand := by
  cases event with
  | console id cordon =>
    cases taken
    exact told
  | health =>
    cases taken
    simp only [held, cordon] at told ⊢
    rcases marked with already | ours
    · rwa [already] at told
    · rw [ours] at told ⊢
      simpa using told
  | manual cordon =>
    cases taken
    cases cordon with
    | false => rfl
    | true =>
      have unmarked : state.node.ours = false := marked rfl
      simp [held, unmarked]
  | tick =>
    cases taken
    exact (state.node.mirrorCordon_held _).trans told

/-- After every tick the node is unschedulable exactly if the ledger has it cordoned or the last manual action
was a cordon. -/
theorem unschedulable_iff {first : CordonState} {events : List CordonEvent}
    (fresh : first.node.unschedulable = false ∧ first.byHand = false)
    (run : Run step Marked first events state) (ticked : state.step .tick = some next) :
    next.node.unschedulable ↔ next.inLedger ∨ next.byHand := by
  have told : state.node.held = state.byHand :=
    run.invariant (by simp [held, fresh]) fun _ _ _ marked taken => held_step marked taken
  cases ticked
  rw [inLedger, mirrorCordon_unschedulable, mirrorCordon_name, told, Bool.or_eq_true,
    List.contains_iff_mem]

end CordonState

def readyNode : CordonState :=
  ⟨[⟨0, 0, "gpu-1", .ready, none⟩], 0, ⟨"gpu-1", false, false⟩, false⟩

theorem unschedulable_iff_lifted : ∃ state, Run step Marked readyNode
      [.console 0 true, .tick, .health, .console 0 false] state ∧
      ∀ next, state.step .tick = some next →
        (next.node.unschedulable ↔ next.inLedger ∨ next.byHand) :=
  exists_run_imp (fun _ => True) (by decide +kernel) fun _ run _ _ ticked =>
    unschedulable_iff ⟨rfl, rfl⟩ run ticked

/-- The console does not lift what the health controller placed, and it lifts what was placed by hand. -/
theorem cordon_outlives_cause :
    (∃ state, Run step (fun _ _ => True) readyNode [.health, .console 0 false, .tick] state ∧
      state.node.unschedulable ∧ ¬state.inLedger ∧ state.byHand = false) ∧
    ∃ state, Run step (fun _ _ => True) readyNode
        [.console 0 true, .tick, .manual true, .console 0 false, .tick] state ∧
      state.node.unschedulable = false ∧ state.byHand :=
  ⟨exists_run_of_execute (by decide +kernel), exists_run_of_execute (by decide +kernel)⟩

end GShare.Model
