import GShare.Accounting.Roster
import GShare.Model.Credit.Ledger
import Mathlib.Data.List.Sort

/-! # Budgets

The monthly budget of a group or an organization: `budget_rollup`, which recomputes what the sessions in
its scope spent in the current month, and `BudgetService`, whose gate refuses a session over the limit and
which fires the alerts at 80 and 100 percent. One call reads the clock once.
-/

namespace GShare.Model

open Accounting

/-- The months of a timezone, as `_period_window` finds them. -/
structure Calendar where
  /-- The first instant of a month, by its number. -/
  start : ℤ → ℤ
  monthOf : ℤ → ℤ
  increasing : ∀ earlier later, earlier < later → start earlier < start later
  begun : ∀ now, start (monthOf now) ≤ now
  unfinished : ∀ now, now < start (monthOf now + 1)

inductive BudgetScope where
  | group (id : GroupId)
  | org (id : OrgId)
deriving DecidableEq, Repr

inductive BudgetAction where
  | alert | block
deriving DecidableEq, Repr

inductive Threshold where
  | eighty | hundred
deriving DecidableEq, Repr

def Threshold.pct : Threshold → ℚ
  | .eighty => 80
  | .hundred => 100

/-- The rule for one threshold, with the moment it last fired. -/
structure BudgetAlert where
  lastFiredAt : Option ℤ
deriving DecidableEq, Repr

structure Budget where
  scope : BudgetScope
  periodStart : ℤ
  limitCredit : ℤ
  spentCredit : ℤ
  action : BudgetAction
  alert : Threshold → Option BudgetAlert

/-- The unique constraint on budgets. -/
def Budget.key (budget : Budget) : BudgetScope × ℤ := (budget.scope, budget.periodStart)

structure Directory where
  groups : List GroupId
  orgOf : GroupId → Option OrgId
  groupOf : SessionId → Option GroupId
  /-- By the organization's timezone, a default one when there is none. -/
  calendar : Option OrgId → Calendar

namespace Directory

variable (dir : Directory)

/-- `_org_tz_for`: the months a budget is counted in. -/
def calendarFor : BudgetScope → Calendar
  | .group id => dir.calendar (dir.orgOf id)
  | .org id => dir.calendar (some id)

def scopeGroupIds : BudgetScope → List GroupId
  | .group id => [id]
  | .org id => dir.groups.filter fun group => dir.orgOf group == some id

/-- `_scope_chain`: whose budgets a session is billed to, the group's first. -/
def scopeChain (sess : SessionId) : List BudgetScope :=
  match dir.groupOf sess with
  | none => []
  | some group => .group group :: (dir.orgOf group).toList.map .org

def inGroups (groups : List GroupId) (sess : SessionId) : Bool :=
  (dir.groupOf sess).any fun group => groups.contains group

def periodWindow (scope : BudgetScope) (now : ℤ) : ℤ × ℤ :=
  let calendar := dir.calendarFor scope
  (calendar.start (calendar.monthOf now), calendar.start (calendar.monthOf now + 1))

/-- The rows of some type that `_spent_in_period` joins with the sessions of the groups. -/
def selects (groups : List GroupId) (window : ℤ × ℤ) (type : TxnType) (txn : Txn) : Bool :=
  txn.type == type && decide (window.1 ≤ txn.createdAt) && decide (txn.createdAt < window.2) &&
    match txn.ref with
    | some (.session sess) => dir.inGroups groups sess
    | _ => false

/-- `_spent_in_period`: the negated sum of the consume and refund rows, not below zero. -/
def spentInPeriod (ledger : Ledger) (groups : List GroupId) (window : ℤ × ℤ) : ℤ :=
  if groups = [] then 0
  else
    let spent := -ledger.total fun txn =>
      dir.selects groups window .consume txn || dir.selects groups window .refund txn
    if spent < 0 then 0 else spent

def spent (ledger : Ledger) (scope : BudgetScope) (now : ℤ) : ℤ :=
  dir.spentInPeriod ledger (dir.scopeGroupIds scope) (dir.periodWindow scope now)

end Directory

namespace Budget

/-- The share of the limit that is spent, in percent. -/
def usage (budget : Budget) (spent : ℤ) : ℚ :=
  decimal (decimal (credits spent / credits budget.limitCredit) * 100)

def sees (budget : Budget) (spent : ℤ) (threshold : Threshold) : Bool :=
  decide (0 < budget.limitCredit) && decide (threshold.pct ≤ budget.usage spent)

/-- The alert fires: it is configured, and did not fire since the budget's period started. -/
def fires (budget : Budget) (spent : ℤ) (threshold : Threshold) : Bool :=
  budget.sees spent threshold &&
    (budget.alert threshold).any fun alert => !alert.lastFiredAt.any (budget.periodStart ≤ ·)

def fireAlerts (budget : Budget) (now spent : ℤ) : Budget :=
  { budget with alert := fun threshold =>
      if budget.fires spent threshold then some ⟨some now⟩ else budget.alert threshold }

def rollup (dir : Directory) (ledger : Ledger) (now : ℤ) (budget : Budget) : Budget :=
  if budget.periodStart ≤ now then
    let spent := dir.spent ledger budget.scope now
    { budget with spentCredit := spent }.fireAlerts now spent
  else budget

theorem key_rollup (dir : Directory) (ledger : Ledger) (now : ℤ) (budget : Budget) :
    (budget.rollup dir ledger now).key = budget.key := by
  unfold rollup
  split_ifs <;> rfl

end Budget

/-- The budgets of all scopes and periods. -/
abbrev Budgets := Roster Budget.key

namespace Budgets

/-- What an evaluation of some budgets did: the budgets after it, each one it looked at with the amount it
compared with the limit, and whether it raised. -/
structure Evaluated where
  budgets : Budgets
  looked : List (Budget × ℤ)
  refused : Bool

/-- The loop of `budget_rollup.run` over the budgets. -/
def rollupLoop (dir : Directory) (ledger : Ledger) (now : ℤ) (budgets : Budgets)
    (looked : List (Budget × ℤ)) : List Budget → Evaluated
  | [] => ⟨budgets, looked, false⟩
  | budget :: rest =>
    if budget.periodStart ≤ now then
      rollupLoop dir ledger now
        (budgets.revise budget.key (Budget.rollup dir ledger now) (Budget.key_rollup dir ledger now))
        ((budget, dir.spent ledger budget.scope now) :: looked) rest
    else rollupLoop dir ledger now budgets looked rest

/-- `budget_rollup.run` -/
def rollup (budgets : Budgets) (dir : Directory) (ledger : Ledger) (now : ℤ) : Evaluated :=
  rollupLoop dir ledger now budgets [] budgets.rows

/-- `_active_budget`: the most recent budget of a scope whose period has started. -/
def activeBudget (budgets : Budgets) (now : ℤ) (scope : BudgetScope) : Option Budget :=
  ((budgets.rows.filter fun budget => budget.scope = scope ∧ budget.periodStart ≤ now).insertionSort
    fun budget other => other.periodStart ≤ budget.periodStart).head?

/-- The loop of `gate` over the scopes, with an estimate of what the session will cost. -/
def gateLoop (now est : ℤ) (budgets : Budgets) (looked : List (Budget × ℤ)) :
    List BudgetScope → Evaluated
  | [] => ⟨budgets, looked, false⟩
  | scope :: rest =>
    match budgets.activeBudget now scope with
    | none => gateLoop now est budgets looked rest
    | some budget =>
      let projected := budget.spentCredit + est
      if budget.action = .block ∧ budget.limitCredit < projected then
        ⟨budgets, (budget, projected) :: looked, true⟩
      else
        gateLoop now est (budgets.revise budget.key (·.fireAlerts now projected) fun _ => rfl)
          ((budget, projected) :: looked) rest

/-- `gate`; a refusal rolls the transaction back. -/
def gate (budgets : Budgets) (now est : ℤ) (chain : List BudgetScope) : Evaluated :=
  let evaluated := gateLoop now est budgets [] chain
  if evaluated.refused then { evaluated with budgets := budgets } else evaluated

end Budgets

/-- A row that `_notify_budget` adds for one recipient: of an alert at a threshold, or of a refusal. -/
structure BudgetNotice where
  recipient : UserId
  budget : BudgetScope × ℤ
  threshold : Option Threshold
deriving DecidableEq

structure BudgetTables where
  budgets : Budgets
  notices : List BudgetNotice

namespace BudgetTables

variable (admins : BudgetScope → List UserId)

/-- `_notify_budget`: to the administrators of the scope and of the platform. -/
def notifyBudget (budget : Budget) (threshold : Option Threshold) : List BudgetNotice :=
  (admins budget.scope).dedup.map fun user => ⟨user, budget.key, threshold⟩

/-- What `gate` adds for the budgets it looked at, the last one first. -/
def gateNotices (refused : Bool) : List (Budget × ℤ) → List BudgetNotice
  | [] => []
  | (budget, spent) :: earlier =>
    (if refused then notifyBudget admins budget none
      else ([.eighty, .hundred].filter (budget.fires spent)).flatMap (notifyBudget admins budget ∘ some))
      ++ gateNotices false earlier

/-- The gate of `create_session`, in a transaction of its own that a refusal leaves by an exception. -/
def gate (tables : BudgetTables) (now est : ℤ) (chain : List BudgetScope) : BudgetTables :=
  let evaluated := Budgets.gateLoop now est tables.budgets [] chain
  let written := ⟨evaluated.budgets, gateNotices admins evaluated.refused evaluated.looked ++ tables.notices⟩
  if evaluated.refused then tables else written

end BudgetTables

end GShare.Model
