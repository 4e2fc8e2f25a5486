import GShare.Model.Session.Lifecycle

/-! # What a step of an operation can do

A pass of the enforcer looks at the session and returns, resumes it, or goes on to demote a session that
it has read as paused with a yield. Every other step is one of an admission, of a call or of a demotion.
-/

namespace GShare.Model.Operation

variable {world next : World} {env : Env} {operation after : Operation} {pass : EnforcerPass}

inductive Begins : Operation → Prop
  | start : Begins (.call (.start .called))
  | stop (reason : Reason) : Begins (.call (.stop reason false .called))
  | restart : Begins (.call .restart)
  | terminate (reason : Reason) : Begins (.call (.terminate reason .called))
  | callback (event : StatusEvent) : Begins (.call (.callback event))
  | cancel : Begins (.call .cancel)
  | tick : Begins (.call (.tick .called))
  | promote : Begins (.call (.promote .called))
  | enforce (pass : EnforcerPass) : Begins (.enforce pass .called)

theorem begins_of_isEntry (enters : operation.isEntry) : operation.Begins := by
  cases operation with
  | create point => cases enters
  | call service =>
    cases service with
    | start point => cases point <;> first | exact .start | cases enters
    | stop reason restarting point =>
      cases restarting <;> cases point <;> first | exact .stop reason | cases enters
    | terminate reason point => cases point <;> first | exact .terminate reason | cases enters
    | tick point => cases point <;> first | exact .tick | cases enters
    | promote point => cases point <;> first | exact .promote | cases enters
    | restart => exact .restart
    | callback event => exact .callback event
    | cancel => exact .cancel
    | returned => cases enters
  | enforce pass point => cases point <;> first | exact .enforce pass | cases enters

theorem finished_cases (ends : operation.finished) :
    operation = .create .created ∨ operation = .call .returned := by
  cases operation with
  | create point => cases point <;> first | exact .inl rfl | cases ends
  | call service => cases service <;> first | exact .inr rfl | cases ends
  | enforce pass point => cases ends

theorem look_cases (looked : look world env pass = (next, after)) :
    (∃ idle, next = { world with yieldIdle := idle }) ∧ (after = done ∨ after = .call (.start .called)) ∨
    next = world ∧ after = .enforce pass .chosen ∧ world.row.status = .paused ∧
      world.row.pauseMode = .yield := by
  cases pass with
  | credit =>
    simp only [look] at looked
    split_ifs at looked with moved solvent yields <;> cases looked
    · exact .inl ⟨⟨_, rfl⟩, .inl rfl⟩
    · exact .inl ⟨⟨_, rfl⟩, .inr rfl⟩
    · exact .inr ⟨rfl, rfl, not_not.mp moved, yields.1⟩
    · exact .inl ⟨⟨_, rfl⟩, .inl rfl⟩
  | idle =>
    simp only [look] at looked
    split_ifs at looked with moved expired <;> cases looked
    · exact .inl ⟨⟨_, rfl⟩, .inl rfl⟩
    · obtain ⟨paused, yields⟩ := not_or.mp moved
      exact .inr ⟨rfl, rfl, not_not.mp paused, not_not.mp yields⟩
    · exact .inl ⟨⟨_, rfl⟩, .inl rfl⟩
  | hostRam =>
    simp only [look] at looked
    split_ifs at looked with chosen <;> cases looked
    · exact .inr ⟨rfl, rfl, chosen.1, chosen.2.1⟩
    · exact .inl ⟨⟨_, rfl⟩, .inl rfl⟩

variable (world : World) (env : Env) in
inductive Steps : Operation → World → Operation → Prop
  | create {point onward : CreatePoint} {next : World}
      (created : world.create env point = some (next, onward)) :
      Steps (.create point) next (.create onward)
  | call {service onward : SessionCall} {next : World}
      (stepped : service.next world env = some (next, onward)) :
      Steps (.call service) next (.call onward)
  /-- A pass is done with the session, or resumes it. -/
  | passed {pass : EnforcerPass} {after : Operation} (idle : Option ℤ)
      (onward : after = done ∨ after = .call (.start .called)) :
      Steps (.enforce pass .called) { world with yieldIdle := idle } after
  | chosen {pass : EnforcerPass} (paused : world.row.status = .paused)
      (yields : world.row.pauseMode = .yield) :
      Steps (.enforce pass .called) world (.enforce pass .chosen)
  | demoted {pass : EnforcerPass} :
      Steps (.enforce pass .chosen) world.demote (.enforce pass .demoted)
  | told {pass : EnforcerPass} (idle : Option ℤ) :
      Steps (.enforce pass .demoted) { world with yieldIdle := idle } done

theorem steps_of_next (taken : operation.next world env = some (next, after)) :
    operation.Steps world env next after := by
  cases operation with
  | create point =>
    obtain ⟨⟨_, onward⟩, created, same⟩ := Option.map_eq_some_iff.mp taken
    cases same
    exact .create created
  | call service =>
    obtain ⟨⟨_, onward⟩, stepped, same⟩ := Option.map_eq_some_iff.mp taken
    cases same
    exact .call stepped
  | enforce pass point =>
    cases point with
    | called =>
      rcases look_cases (Option.some.inj taken) with ⟨⟨idle, rfl⟩, onward⟩ | ⟨rfl, rfl, paused, yields⟩
      · exact .passed idle onward
      · exact .chosen paused yields
    | chosen =>
      cases taken
      exact .demoted
    | demoted =>
      cases taken
      split_ifs
      · exact .told none
      · exact .told world.yieldIdle

end GShare.Model.Operation
