import GShare.Soundness.BudgetAlerts
import GShare.Soundness.BudgetSpent

/-! # What a blocking budget admits

The gate of `create_session` compares the limit of a budget with the spent amount the last rollup stored.
It knows nothing of what was charged since, of the holds that earlier admissions took, or of the refund
rows the rollup takes off. Where there is none of these, a session that passes the gate fits the limit
with everything debited in the month. A refusal is rolled back with the notification that it wrote.
-/

namespace GShare.Model

open Accounting List Budget Roster

/-- The budget without its alerts, which is all the gate and the rollup compare. -/
def Budget.terms (budget : Budget) : Budget := { budget with alert := fun _ => none }

variable {looked : List (Budget × ℤ)}

namespace Budgets

variable {budgets origin : Budgets} {now est : ℤ} {scope : BudgetScope} {budget : Budget}

/-- Which budget is active does not depend on alerts. -/
theorem activeBudget_terms (budgets : Budgets) (now : ℤ) (scope : BudgetScope) :
    (budgets.activeBudget now scope).map terms =
      (((budgets.rows.map terms).filter fun budget =>
        budget.scope = scope ∧ budget.periodStart ≤ now).insertionSort
          fun budget other => other.periodStart ≤ budget.periodStart).head? := by
  rw [activeBudget, ← head?_map, filter_map]
  exact congrArg head? (map_insertionSort _ _ _ _ fun _ _ _ _ => Iff.rfl)

theorem terms_revise (budgets : Budgets) (key : BudgetScope × ℤ) (now spent : ℤ) :
    (budgets.revise key (·.fireAlerts now spent) fun _ => rfl).rows.map terms =
      budgets.rows.map terms := by
  simp only [revise, map_map]
  refine map_congr_left fun row _ => ?_
  simp only [Function.comp_apply]
  split_ifs <;> rfl

def refusesAt (budgets : Budgets) (now est : ℤ) (scope : BudgetScope) : Bool :=
  (budgets.activeBudget now scope).any fun budget =>
    budget.action = .block ∧ budget.limitCredit < budget.spentCredit + est

theorem refusesAt_congr (same : budgets.rows.map terms = origin.rows.map terms) :
    budgets.refusesAt now est scope = origin.refusesAt now est scope := by
  have agree := activeBudget_terms budgets now scope
  rw [same, ← activeBudget_terms] at agree
  have refuses := congrArg (Option.any fun budget =>
    budget.action = .block ∧ budget.limitCredit < budget.spentCredit + est) agree
  rw [Option.any_map, Option.any_map] at refuses
  exact refuses

/-- The alerts of a budget fire unseen if and only if none does. -/
theorem revise_subset_iff {spent : ℤ} (active : budgets.Active now budget) :
    (∀ row ∈ (budgets.revise budget.key (·.fireAlerts now spent) fun _ => rfl).rows, row ∈ budgets.rows) ↔
      ∀ threshold, budget.fires spent threshold = false := by
  constructor
  · intro kept threshold
    have among := kept (budget.fireAlerts now spent) (mem_revise.mpr (.inr ⟨budget, active.1, rfl, rfl⟩))
    have same := congrArg (·.alert threshold) (eq_of_key among active.1 rfl)
    by_contra fired
    rw [Bool.not_eq_false] at fired
    simp only [fireAlerts, fired, if_true] at same
    simp [fires, ← same, active.2.1] at fired
  · intro quiet row member
    rcases mem_revise.mp member with ⟨old, -⟩ | ⟨before, isRow, same, rfl⟩
    · exact old
    · obtain rfl := eq_of_key isRow active.1 same
      simpa [fireAlerts, quiet] using isRow

theorem gateLoop_refuses {rest : List BudgetScope} (refuses : budgets.refusesAt now est scope) :
    ∃ look, look.1.scope = scope ∧
      gateLoop now est budgets looked (scope :: rest) = ⟨budgets, look :: looked, true⟩ := by
  obtain ⟨budget, found, refuses⟩ := (Option.any_eq_true _ _).mp refuses
  refine ⟨(budget, budget.spentCredit + est), (active_of_activeBudget found).2, ?_⟩
  simp [gateLoop, found, of_decide_eq_true refuses]

theorem gateLoop_passes (passes : budgets.refusesAt now est scope = false) : ∃ between seen,
    (∀ rest, gateLoop now est budgets looked (scope :: rest) = gateLoop now est between seen rest) ∧
    between.rows.map terms = budgets.rows.map terms ∧
    ((∀ row ∈ between.rows, row ∈ budgets.rows) ↔ ∀ budget ∈ budgets.activeBudget now scope,
      ∀ threshold, budget.fires (budget.spentCredit + est) threshold = false) := by
  cases found : budgets.activeBudget now scope with
  | none => exact ⟨budgets, looked, fun rest => by simp [gateLoop, found], rfl, by simp⟩
  | some budget =>
    refine ⟨budgets.revise budget.key (·.fireAlerts now (budget.spentCredit + est)) fun _ => rfl,
      (budget, budget.spentCredit + est) :: looked, fun rest => ?_, terms_revise .., ?_⟩
    · rw [refusesAt, found, Option.any_some, decide_eq_false_iff_not] at passes
      simp only [gateLoop, found, if_neg passes]
    · simp [revise_subset_iff (active_of_activeBudget found).1]

theorem gateLoop_accepts {rest : List BudgetScope}
    (accepted : (gateLoop now est budgets looked rest).refused = false) :
    (gateLoop now est budgets looked rest).budgets.rows.map terms = budgets.rows.map terms ∧
      ∀ scope ∈ rest, budgets.refusesAt now est scope = false := by
  induction rest generalizing budgets looked with
  | nil => exact ⟨rfl, fun _ absent => absurd absent not_mem_nil⟩
  | cons scope rest ih =>
    cases refuses : budgets.refusesAt now est scope with
    | true =>
      obtain ⟨_, -, loop⟩ := gateLoop_refuses refuses
      rw [loop] at accepted
      cases accepted
    | false =>
      obtain ⟨between, seen, loop, same, -⟩ := gateLoop_passes refuses
      rw [loop] at accepted ⊢
      obtain ⟨kept, passes⟩ := ih accepted
      exact ⟨kept.trans same, forall_mem_cons.mpr
        ⟨refuses, fun other later => refusesAt_congr same ▸ passes other later⟩⟩

theorem terms_gate (budgets : Budgets) (now est : ℤ) (chain : List BudgetScope) :
    (budgets.gate now est chain).budgets.rows.map terms = budgets.rows.map terms := by
  unfold gate
  cases outcome : (gateLoop now est budgets [] chain).refused with
  | true => simp only [outcome, if_true]
  | false =>
    simp only [outcome, Bool.false_eq_true, if_false]
    exact (gateLoop_accepts outcome).1

theorem gate_accepts {chain : List BudgetScope} (accepted : (budgets.gate now est chain).refused = false)
    (listed : scope ∈ chain) (active : budgets.activeBudget now scope = some budget)
    (blocks : budget.action = .block) : budget.spentCredit + est ≤ budget.limitCredit := by
  have passed : (gateLoop now est budgets [] chain).refused = false := by
    unfold gate at accepted
    dsimp only at accepted
    split_ifs at accepted with refused
    · rw [refused] at accepted
      cases accepted
    · exact accepted
  have passes := (gateLoop_accepts passed).2 scope listed
  rw [refusesAt, active, Option.any_some, decide_eq_false_iff_not, not_and, not_lt] at passes
  exact passes blocks

/-- The budgets a rollup still has to visit are those whose amount may be wrong. -/
theorem rollupLoop_spent {dir : Directory} {ledger : Ledger} {rest : List Budget}
    (pending : ∀ budget ∈ budgets.rows, budget.periodStart ≤ now →
      budget.key ∈ rest.map key ∨ budget.spentCredit = dir.spent ledger budget.scope now) :
    ∀ budget ∈ (rollupLoop dir ledger now budgets looked rest).budgets.rows,
      budget.periodStart ≤ now → budget.spentCredit = dir.spent ledger budget.scope now := by
  induction rest generalizing budgets looked with
  | nil =>
    intro budget member started
    exact (pending budget member started).resolve_left not_mem_nil
  | cons head rest ih =>
    rw [rollupLoop]
    split_ifs with headStarted
    · refine ih fun budget member started => ?_
      rcases mem_revise.mp member with ⟨old, differs⟩ | ⟨row, isRow, isHead, rfl⟩
      · refine (pending budget old started).imp_left fun listed => ?_
        exact (mem_cons.mp listed).resolve_left differs
      · have begun : row.periodStart ≤ now := (congrArg Prod.snd isHead).trans_le headStarted
        rw [Budget.rollup, if_pos begun]
        exact .inr rfl
    · refine ih fun budget member started => (pending budget member started).imp_left fun listed => ?_
      refine (mem_cons.mp listed).resolve_left fun isHead => headStarted ?_
      exact (congrArg Prod.snd isHead).symm.trans_le started

theorem rollup_spent (budgets : Budgets) (dir : Directory) (ledger : Ledger) (now : ℤ) :
    ∀ budget ∈ (budgets.rollup dir ledger now).budgets.rows, budget.periodStart ≤ now →
      budget.spentCredit = dir.spent ledger budget.scope now :=
  rollupLoop_spent fun _ member _ => .inl (mem_map_of_mem member)

end Budgets

end GShare.Model

namespace GShare.Soundness.BudgetCap

open GShare.Model Machine Samples BudgetSpent Directory List Budgets

/-- A session of the scope past the gate: what was debited and held for the scope by then, what the session
is estimated to cost, and the budget of the scope. -/
structure Admission where
  debited : ℤ
  outstanding : ℤ
  estimate : ℤ
  budget : Option Budget

/-- Everything together fits a blocking budget. -/
def Admission.Capped (admission : Admission) : Prop :=
  ∀ budget ∈ admission.budget, budget.action = .block →
    admission.debited + admission.outstanding + admission.estimate ≤ budget.limitCredit

structure Rolled where
  ledger : Ledger
  moment : ℤ

/-- The ledger and the budgets, with what happened to the sessions of one scope. -/
structure Spending where
  ledger : Ledger
  budgets : Budgets
  /-- The sessions of the scope that passed the gate. -/
  admitted : List Session
  lastRollup : Option Rolled
  admissions : List Admission

/-- One call. A creation goes as far as the hold; what fails after it is settled by a call of its own. -/
inductive BudgetCall where
  | create (sess : Session) (amount : HoldAmount) (now stamp : ℤ)
  | tick (sess : Session) (bucket now stamp : ℤ)
  | settle (sess : Session) (final : Bool) (now stamp : ℤ)
  | rollup (now : ℤ)

/-- What is held for a session until it is settled, less its charges. -/
def outstanding (ledger : Ledger) (sess : Session) : ℤ :=
  sess.billingWalletId.elim 0 fun wallet =>
    if ledger.txnExists (.settle sess.id) then 0 else ledger.ownOutstandingHold wallet sess.id

section Scope

variable (dir : Directory) (scope : BudgetScope)

/-- The rows of one type that the rollup adds up for the scope in the month of `now`. -/
def selects (now : ℤ) (type : TxnType) (txn : Txn) : Bool :=
  dir.selects (dir.scopeGroupIds scope) (dir.periodWindow scope now) type txn

/-- What the sessions of the scope were debited in the month of `now`. -/
def debited (ledger : Ledger) (now : ℤ) : ℤ := -ledger.total (selects dir scope now .consume)

/-- The rows the rollup adds up. -/
def counted (ledger : Ledger) (now : ℤ) : List Txn :=
  ledger.txns.filter fun txn =>
    selects dir scope now .consume txn || selects dir scope now .refund txn

namespace Spending

/-- Nothing is known yet of what the stored amounts stem from. -/
def start (ledger : Ledger) (budgets : Budgets) (admitted : List Session) : Spending :=
  ⟨ledger, budgets, admitted, none, []⟩

/-- What a session with this estimate meets at the gate. -/
def admission (state : Spending) (amount : HoldAmount) (now : ℤ) : Admission where
  debited := debited dir scope state.ledger now
  outstanding := (state.admitted.map (outstanding state.ledger)).sum
  estimate := round2 amount.value
  budget := state.budgets.activeBudget now scope

/-- The gate and the hold of `create_session`. -/
def create (state : Spending) (sess : Session) (amount : HoldAmount) (now stamp : ℤ) : Spending :=
  let chain := dir.scopeChain sess.id
  let evaluated := state.budgets.gate now (round2 amount.value) chain
  if evaluated.refused then state
  else
    let held := { state with
      ledger := Call.apply state.ledger ⟨sess, .hold amount, stamp⟩
      budgets := evaluated.budgets }
    if scope ∈ chain then
      { held with
        admitted := sess :: state.admitted
        admissions := state.admission dir scope amount now :: state.admissions }
    else held

def step (state : Spending) : BudgetCall → Option Spending
  | .create sess amount now stamp => some (state.create dir scope sess amount now stamp)
  | .tick sess bucket now stamp =>
    some { state with ledger := Call.apply state.ledger ⟨sess, .consume bucket now, stamp⟩ }
  | .settle sess final now stamp =>
    some { state with ledger := Call.apply state.ledger ⟨sess, .settle final now, stamp⟩ }
  | .rollup now => some { state with
      budgets := (state.budgets.rollup dir state.ledger now).budgets
      lastRollup := some ⟨state.ledger, now⟩ }

end Spending

def BudgetCall.InMonth (month : ℤ) : BudgetCall → Prop
  | .create _ _ now _ | .rollup now => (dir.calendarFor scope).monthOf now = month
  | .tick _ _ _ _ | .settle _ _ _ _ => True

/-- What the gate does not look at is not there: no session of the scope holds credit, no settlement of
the month released any, and nothing was charged since a rollup that counted the budget. -/
@[mk_iff] structure Reckoned (state : Spending) (now : ℤ) : Prop where
  unheld : ∀ sess ∈ state.admitted, outstanding state.ledger sess = 0
  unreleased : ∀ txn ∈ state.ledger.txns, selects dir scope now .refund txn = false
  rolledUp : ∃ rolled ∈ state.lastRollup,
    counted dir scope rolled.ledger now = counted dir scope state.ledger now ∧
    ∀ budget ∈ state.budgets.activeBudget now scope, budget.periodStart ≤ rolled.moment

def Careful (state : Spending) : BudgetCall → Prop
  | .create sess _ now _ => scope ∈ dir.scopeChain sess.id → Reckoned dir scope state now
  | .tick _ _ _ _ | .settle _ _ _ _ | .rollup _ => True

end Scope

variable {dir : Directory} {scope : BudgetScope} {state next : Spending} {call : BudgetCall}
variable {month : ℤ}
variable {now : ℤ} {ledger : Ledger} {amount : HoldAmount} {chain : List BudgetScope}

/-- What the last rollup found is stored: in budgets whose period had started, of that month. -/
structure Sound (dir : Directory) (scope : BudgetScope) (month : ℤ) (state : Spending) : Prop where
  stored : ∀ rolled ∈ state.lastRollup, (dir.calendarFor scope).monthOf rolled.moment = month ∧
    ∀ budget ∈ state.budgets.rows, budget.periodStart ≤ rolled.moment →
      budget.spentCredit = dir.spent rolled.ledger budget.scope rolled.moment
  capped : ∀ admission ∈ state.admissions, admission.Capped

theorem spent_congr {other : Ledger} {moment : ℤ}
    (sameMonth : (dir.calendarFor scope).monthOf moment = (dir.calendarFor scope).monthOf now)
    (same : counted dir scope other now = counted dir scope ledger now) :
    dir.spent other scope moment = dir.spent ledger scope now := by
  have window : dir.periodWindow scope moment = dir.periodWindow scope now := by
    rw [periodWindow, periodWindow, sameMonth]
  have total : (other.total fun txn => selects dir scope now .consume txn ||
      selects dir scope now .refund txn) = ledger.total fun txn =>
        selects dir scope now .consume txn || selects dir scope now .refund txn :=
    congrArg (fun rows : List Txn => (rows.map Txn.amount).sum) same
  simp only [selects] at total
  rw [spent, spent, window, spentInPeriod, spentInPeriod, total]

/-- A rollup finds at least what was debited where nothing was released. -/
theorem debited_le_spent (unreleased : ∀ txn ∈ ledger.txns, selects dir scope now .refund txn = false) :
    debited dir scope ledger now ≤ dir.spent ledger scope now := by
  have released : ledger.total (dir.selects (dir.scopeGroupIds scope)
      (dir.periodWindow scope now) .refund) = 0 := total_eq_zero unreleased
  have isDebited : debited dir scope ledger now = -ledger.total (dir.selects
      (dir.scopeGroupIds scope) (dir.periodWindow scope now) .consume) := rfl
  rw [isDebited, spent, spentInPeriod, total_selects, released]
  dsimp only
  split_ifs with nobody
  · rw [nobody, total_eq_zero fun txn _ => selects_nil txn]
    rfl
  · omega
  · omega

/-- A session that passes the gate in such a state fits the budget. -/
theorem Reckoned.capped
    (reckoned : Reckoned dir scope state now) (sound : Sound dir scope month state)
    (inMonth : (dir.calendarFor scope).monthOf now = month) (listed : scope ∈ chain)
    (accepted : (state.budgets.gate now (round2 amount.value) chain).refused = false) :
    (state.admission dir scope amount now).Capped := by
  intro budget active blocks
  obtain ⟨rolled, isLast, same, started⟩ := reckoned.rolledUp
  obtain ⟨sameMonth, stored⟩ := sound.stored rolled isLast
  obtain ⟨isActive, isScope⟩ := active_of_activeBudget active
  have spent : budget.spentCredit = dir.spent state.ledger scope now := by
    rw [stored budget isActive.1 (started budget active), isScope]
    exact spent_congr (sameMonth.trans inMonth.symm) same
  have fits : budget.spentCredit + round2 amount.value ≤ budget.limitCredit :=
    gate_accepts accepted listed active blocks
  have reached := debited_le_spent reckoned.unreleased
  have held : (state.admitted.map (outstanding state.ledger)).sum = 0 := by
    refine sum_eq_zero fun value member => ?_
    obtain ⟨sess, isAdmitted, rfl⟩ := mem_map.mp member
    exact reckoned.unheld sess isAdmitted
  simp only [Spending.admission, held]
  omega

/-- A budget after the gate is one before it, but for alerts. -/
theorem stored_gate {est : ℤ} {budget : Budget}
    (member : budget ∈ (state.budgets.gate now est chain).budgets.rows) :
    ∃ before ∈ state.budgets.rows, before.terms = budget.terms := by
  have same := terms_gate state.budgets now est chain
  have listed := mem_map_of_mem (f := Budget.terms) member
  rw [same] at listed
  exact mem_map.mp listed

theorem create_sound {sess : Session} {stamp : ℤ}
    (inMonth : (dir.calendarFor scope).monthOf now = month)
    (careful : scope ∈ dir.scopeChain sess.id → Reckoned dir scope state now)
    (sound : Sound dir scope month state) :
    Sound dir scope month (state.create dir scope sess amount now stamp) := by
  have stored : ∀ rolled ∈ state.lastRollup, (dir.calendarFor scope).monthOf rolled.moment = month ∧
      ∀ budget ∈ (state.budgets.gate now (round2 amount.value) (dir.scopeChain sess.id)).budgets.rows,
        budget.periodStart ≤ rolled.moment →
          budget.spentCredit = dir.spent rolled.ledger budget.scope rolled.moment := by
    intro rolled isLast
    obtain ⟨sameMonth, stored⟩ := sound.stored rolled isLast
    refine ⟨sameMonth, fun budget member started => ?_⟩
    obtain ⟨before, wasRow, same⟩ := stored_gate member
    have period : before.periodStart = budget.periodStart := congrArg (·.periodStart) same
    have spent : before.spentCredit = budget.spentCredit := congrArg (·.spentCredit) same
    have isScope : before.scope = budget.scope := congrArg (·.scope) same
    rw [← spent, ← isScope]
    exact stored before wasRow (period ▸ started)
  unfold Spending.create
  dsimp only
  split_ifs with refused listed
  · exact sound
  · refine ⟨stored, fun admission member => ?_⟩
    rcases mem_cons.mp member with rfl | old
    · exact (careful listed).capped sound inMonth listed (Bool.eq_false_iff.mpr refused)
    · exact sound.capped admission old
  · exact ⟨stored, sound.capped⟩

theorem step_sound (inMonth : call.InMonth dir scope month) (careful : Careful dir scope state call)
    (taken : state.step dir scope call = some next) (sound : Sound dir scope month state) :
    Sound dir scope month next := by
  cases call with
  | create sess amount now stamp =>
    cases taken
    exact create_sound inMonth careful sound
  | tick sess bucket now stamp | settle sess final now stamp =>
    cases taken
    exact ⟨sound.stored, sound.capped⟩
  | rollup now =>
    cases taken
    refine ⟨fun rolled isLast => ?_, sound.capped⟩
    cases isLast
    exact ⟨inMonth, rollup_spent state.budgets dir state.ledger now⟩

/-- Calls one at a time, in one month, from any ledger, budgets and earlier admissions: if sessions of the
scope are created only when nothing is held, released or charged behind the budget's back, then whatever
passes the gate fits every blocking budget of the scope. -/
theorem admissions_capped {ledger : Ledger} {budgets : Budgets} {admitted : List Session}
    {calls : List BudgetCall} {last : Spending} (run : Run (Spending.step dir scope)
      (fun state call => call.InMonth dir scope month ∧ Careful dir scope state call)
      (.start ledger budgets admitted) calls last) : ∀ admission ∈ last.admissions, admission.Capped := by
  have initial : Sound dir scope month (.start ledger budgets admitted) :=
    ⟨fun _ absent => absurd absent (Option.not_mem_none _), fun _ absent => absurd absent not_mem_nil⟩
  have sound : Sound dir scope month last :=
    run.invariant initial fun state call next meets taken sound => step_sound meets.1 meets.2 taken sound
  exact sound.capped

instance : Decidable (Reckoned dir scope state now) :=
  decidable_of_iff' _ (reckoned_iff dir scope state now)

instance : DecidablePred (BudgetCall.InMonth dir scope month) := fun _ => by
  unfold BudgetCall.InMonth
  split <;> infer_instance

instance : DecidablePred (Careful dir scope state) := fun _ => by
  unfold Careful
  split <;> infer_instance

instance (admission : Admission) : Decidable admission.Capped :=
  inferInstanceAs (Decidable (∀ budget ∈ admission.budget, _ → _))

def blocking (limit : ℤ) : Budgets := ⟨[{ groupBudget .block with limitCredit := limit }], nodup_singleton _⟩

/-- Ten credits are held for a session at the start of the month, right after a rollup. -/
def firstHeld (rate : ℕ) : List BudgetCall := [.rollup 0, .create (wholeCard 0 rate) tenCredits 0 0]

/-- The session is charged for an hour. -/
def charged (rate : ℕ) : BudgetCall := .tick (wholeCard 0 rate) 60 (3600 * second) (3600 * second)

def ended (rate : ℕ) : BudgetCall := .settle (wholeCard 0 rate) false (3600 * second) (3600 * second)

def another : BudgetCall := .create (wholeCard 1 1000) tenCredits (3600 * second) (3600 * second)

/-- The first session spends all that was held for it, a rollup counts it, and the second one fits. -/
theorem second_session_capped : ∃ last, Run (Spending.step oneGroup (.group 0))
        (fun state call => call.InMonth oneGroup (.group 0) 0 ∧ Careful oneGroup (.group 0) state call)
        (.start hundredCredits (blocking 2500) [])
        (firstHeld 1000 ++ [charged 1000, .rollup (3600 * second), another]) last ∧
      last.admissions.length = 2 ∧ ∀ admission ∈ last.admissions, admission.Capped :=
  exists_run_imp (·.admissions.length = 2) (by decide +kernel) fun _ run two => ⟨two, admissions_capped run⟩

/-- The calls lead, in one month, to an admission that does not fit the budget of fifteen credits. -/
def Overruns (calls : List BudgetCall) : Prop :=
  ∃ last, Run (Spending.step oneGroup (.group 0)) (fun _ call => call.InMonth oneGroup (.group 0) 0)
      (.start hundredCredits (blocking 1500) []) calls last ∧
    ∃ admission ∈ last.admissions, ¬admission.Capped

/-- A session of ten credits is admitted while ten are held for another session, after ten were charged
that no rollup has counted, and after six were charged of which the rollup counts two. -/
theorem admitted_past_limit : Overruns (firstHeld 1000 ++ [.rollup (3600 * second), another]) ∧
      Overruns (firstHeld 1000 ++ [charged 1000, another]) ∧
      Overruns (firstHeld 600 ++ [charged 600, ended 600, .rollup (3600 * second), another]) := by
  refine ⟨?_, ?_, ?_⟩ <;> exact exists_run_of_execute (by decide +kernel)

/-- If the call was refused, each recipient of the refusing budget has one notification more, and the alerts
that fired in the call are stored. -/
def Reported (admins : BudgetScope → List UserId) (tables after : BudgetTables) (evaluated : Evaluated) : Prop :=
  evaluated.refused → ∀ look ∈ evaluated.looked.head?,
    (∀ user ∈ admins look.1.scope, after.notices.count ⟨user, look.1.key, none⟩
      = tables.notices.count ⟨user, look.1.key, none⟩ + 1) ∧
    ∀ budget ∈ evaluated.budgets.rows, budget ∈ after.budgets.rows

/-- A refusal is rolled back with all that was written about it. So it is reported only where there is nothing
to report: nobody to tell, and no alert that fired before it. -/
theorem refusal_reported_iff (tables : BudgetTables) (admins : BudgetScope → List UserId) (dir : Directory)
    (sess : SessionId) (now est : ℤ) :
    Reported admins tables (tables.gate admins now est (dir.scopeChain sess))
        (gateLoop now est tables.budgets [] (dir.scopeChain sess)) ↔
      ∀ scope ∈ (dir.scopeChain sess).find? (tables.budgets.refusesAt now est), admins scope = [] ∧
        ∀ other ∈ (dir.scopeChain sess).takeWhile (!tables.budgets.refusesAt now est ·),
          ∀ budget ∈ tables.budgets.activeBudget now other,
            ∀ threshold, budget.fires (budget.spentCredit + est) threshold = false := by
  unfold Directory.scopeChain
  cases dir.groupOf sess with
  | none => simp [gateLoop, Reported]
  | some id =>
    dsimp only
    generalize BudgetScope.group id = scope
    cases refuses : tables.budgets.refusesAt now est scope with
    | true =>
      obtain ⟨look, isScope, loop⟩ :=
        @gateLoop_refuses [] tables.budgets now est scope ((dir.orgOf id).toList.map .org) refuses
      simp [loop, BudgetTables.gate, Reported, refuses, isScope, eq_nil_iff_forall_not_mem]
    | false =>
      obtain ⟨between, seen, onward, same, kept⟩ := @gateLoop_passes [] tables.budgets now est scope refuses
      simp only [onward]
      cases dir.orgOf id with
      | none => simp [gateLoop, Reported, refuses]
      | some home =>
        have last := @refusesAt_congr _ _ now est (.org home) same
        cases refusesToo : tables.budgets.refusesAt now est (.org home) with
        | true =>
          obtain ⟨look, isScope, loop⟩ :=
            @gateLoop_refuses seen between now est (.org home) [] (last.trans refusesToo)
          simp [loop, BudgetTables.gate, onward, Reported, refuses, refusesToo, isScope,
            eq_nil_iff_forall_not_mem, kept]
        | false =>
          obtain ⟨_, _, loop, -⟩ := @gateLoop_passes seen between now est (.org home) (last.trans refusesToo)
          simp [loop, gateLoop, Reported, refuses, refusesToo]

/-- A session of ten credits is refused by a budget of five, and its administrator never hears of it. -/
theorem refusal_unreported : ¬Reported (fun _ => [7]) ⟨blocking 500, []⟩
    (BudgetTables.gate (fun _ => [7]) ⟨blocking 500, []⟩ 0 1000 (oneGroup.scopeChain 0))
    (gateLoop 0 1000 (blocking 500) [] (oneGroup.scopeChain 0)) := by
  intro reported
  obtain ⟨once, -⟩ := reported (by decide +kernel) _ rfl
  exact absurd (once 7 mem_cons_self) (by decide +kernel)

end GShare.Soundness.BudgetCap
