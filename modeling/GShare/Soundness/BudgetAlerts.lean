import GShare.Machine.Run
import GShare.Soundness.Samples

/-! # The alerts of a budget over the months

An alert is debounced against the start of the budget's period, which never moves, while the spent amount
is that of the current month. So an alert fires at most once in the life of a budget. It fires in every
month in which its threshold is reached only as long as it did not fire in an earlier month, and as long
as no gate that reaches it refuses the session.
-/

open GShare.Model

variable {threshold : Threshold} {chain : List BudgetScope} {alert : BudgetAlert} {budget : Budget}

namespace GShare.Model

open Accounting Budget Roster List

variable {budgets : Budgets} {fired : List Notice} {budget : Budget}

/-- A threshold of a budget, reached or fired at a moment. -/
structure Notice where
  key : BudgetScope × ℤ
  threshold : Threshold
  moment : ℤ
deriving DecidableEq

variable {spent : ℤ}

namespace Budget

/-- The alerts that fire when a budget is compared with an amount. -/
def firings (now : ℤ) (look : Budget × ℤ) : List Notice :=
  ([.eighty, .hundred].filter (look.1.fires look.2)).map fun threshold => ⟨look.1.key, threshold, now⟩

/-- The thresholds with a configured alert that the amount reaches. -/
def sightings (now : ℤ) (look : Budget × ℤ) : List Notice :=
  ([.eighty, .hundred].filter fun threshold =>
    (look.1.alert threshold).isSome && look.1.sees look.2 threshold).map fun threshold =>
      ⟨look.1.key, threshold, now⟩

variable {now : ℤ} {look : Budget × ℤ} {notice : Notice}

theorem mem_thresholds (threshold : Threshold) : threshold ∈ [Threshold.eighty, .hundred] := by
  cases threshold <;> decide

theorem mem_notices {key : BudgetScope × ℤ} {holds : Threshold → Bool} :
    notice ∈ ([.eighty, .hundred].filter holds).map (fun threshold => ⟨key, threshold, now⟩) ↔
      notice.key = key ∧ notice.moment = now ∧ holds notice.threshold := by
  simp only [mem_map, mem_filter, mem_thresholds, true_and]
  constructor
  · rintro ⟨threshold, satisfied, rfl⟩
    exact ⟨rfl, rfl, satisfied⟩
  · obtain ⟨_, threshold, _⟩ := notice
    rintro ⟨rfl, rfl, satisfied⟩
    exact ⟨threshold, satisfied, rfl⟩

theorem mem_firings : notice ∈ firings now look ↔
      notice.key = look.1.key ∧ notice.moment = now ∧ look.1.fires look.2 notice.threshold :=
  mem_notices

theorem mem_sightings : notice ∈ sightings now look ↔
      notice.key = look.1.key ∧ notice.moment = now ∧ (look.1.alert notice.threshold).isSome ∧
        look.1.sees look.2 notice.threshold := by
  rw [sightings, mem_notices, Bool.and_eq_true]

/-- One comparison fires an alert once. -/
theorem pairwise_firings : (firings now look).Pairwise fun one other => one.threshold ≠ other.threshold := by
  refine pairwise_map.mpr (Pairwise.filter _ ?_)
  simp

/-- An alert that fires did not fire since the period started. -/
theorem lastFiredAt_of_fires {moment : ℤ}
    (fires : budget.fires spent threshold) (configured : budget.alert threshold = some alert)
    (last : alert.lastFiredAt = some moment) : moment < budget.periodStart := by
  simp only [Budget.fires, configured, Option.any_some, last, Bool.and_eq_true, Bool.not_eq_true',
    decide_eq_false_iff_not] at fires
  exact not_le.mp fires.2

end Budget

namespace Budgets

variable {key : BudgetScope × ℤ} {now : ℤ}

/-- The alerts of a budget remember when they fired, which is at most once and not before its period. -/
structure Remembers (key : BudgetScope × ℤ) (budgets : Budgets) (fired : List Notice) : Prop where
  recorded : ∀ budget ∈ budgets.rows, budget.key = key → ∀ threshold, ∀ alert ∈ budget.alert threshold,
    ∀ moment, alert.lastFiredAt = some moment ↔ ⟨key, threshold, moment⟩ ∈ fired
  late : ∀ notice ∈ fired, notice.key = key → key.2 ≤ notice.moment
  once : fired.Pairwise fun one other => one.key = key → other.key = key → one.threshold ≠ other.threshold

theorem Remembers.unfired
    (remembers : budgets.Remembers key fired) (member : budget ∈ budgets.rows) (isKey : budget.key = key)
    (fires : budget.fires spent threshold) (moment : ℤ) : ⟨key, threshold, moment⟩ ∉ fired := by
  intro wasFired
  cases configured : budget.alert threshold with
  | none => simp [Budget.fires, configured] at fires
  | some alert =>
    have last := (remembers.recorded budget member isKey threshold alert configured moment).mpr wasFired
    have early := lastFiredAt_of_fires fires configured last
    have late := remembers.late _ wasFired rfl
    rw [← isKey] at late
    exact absurd early (not_lt.mpr late)

theorem Remembers.look {change : Budget → Budget}
    {keeps : ∀ row, (change row).key = row.key} (remembers : budgets.Remembers key fired)
    (member : budget ∈ budgets.rows) (started : budget.periodStart ≤ now)
    (alerts : (change budget).alert = (budget.fireAlerts now spent).alert) :
    Remembers key (budgets.revise budget.key change keeps) (firings now (budget, spent) ++ fired) := by
  refine ⟨?_, ?_, ?_⟩
  · intro row isRow isKey threshold alert configured moment
    rw [mem_append, mem_firings]
    rcases mem_revise.mp isRow with ⟨old, another⟩ | ⟨before, isBefore, same, rfl⟩
    · rw [remembers.recorded row old isKey threshold alert configured moment]
      exact (or_iff_right fun new => another (isKey.trans new.1)).symm
    · rw [eq_of_key isBefore member same] at isKey configured
      rw [keeps] at isKey
      rw [Option.mem_def, alerts] at configured
      simp only [fireAlerts] at configured
      split_ifs at configured with fires
      · cases configured
        constructor
        · intro last
          cases last
          exact .inl ⟨isKey.symm, rfl, fires⟩
        · rintro (⟨-, isNow, -⟩ | wasFired)
          · exact congrArg some isNow.symm
          · exact absurd wasFired (remembers.unfired member isKey fires moment)
      · rw [remembers.recorded budget member isKey threshold alert configured moment]
        exact (or_iff_right fun new => fires new.2.2).symm
  · intro notice isNotice isKey
    rcases mem_append.mp isNotice with new | old
    · obtain ⟨sameKey, isNow, -⟩ := mem_firings.mp new
      rw [isNow, ← isKey, sameKey]
      exact started
    · exact remembers.late notice old isKey
  · refine pairwise_append.mpr ⟨?_, remembers.once, ?_⟩
    · exact pairwise_firings.imp fun differ _ _ => differ
    · intro one isNew other isOld oneKey otherKey same
      obtain ⟨sameKey, -, fires⟩ := mem_firings.mp isNew
      obtain ⟨otherIs, threshold, moment⟩ := other
      subst otherKey
      rw [same] at fires
      exact remembers.unfired member (sameKey.symm.trans oneKey) fires moment isOld

def Active (budgets : Budgets) (now : ℤ) (budget : Budget) : Prop :=
  budget ∈ budgets.rows ∧ budget.periodStart ≤ now ∧
    ∀ other ∈ budgets.rows, other.scope = budget.scope → other.periodStart ≤ now →
      other.periodStart ≤ budget.periodStart

theorem active_of_activeBudget {scope : BudgetScope} (found : budgets.activeBudget now scope = some budget) :
    budgets.Active now budget ∧ budget.scope = scope := by
  obtain ⟨later, sorted⟩ := head?_eq_some_iff.mp found
  have listed : ∀ other, other ∈ budget :: later ↔
      other ∈ budgets.rows ∧ other.scope = scope ∧ other.periodStart ≤ now := by
    intro other
    rw [← sorted, mem_insertionSort, mem_filter, decide_eq_true_eq]
  obtain ⟨isRow, sameScope, started⟩ := (listed budget).mp mem_cons_self
  refine ⟨⟨isRow, started, fun other isOther same otherStarted => ?_⟩, sameScope⟩
  have : Std.Total fun one another : Budget => another.periodStart ≤ one.periodStart :=
    ⟨fun one another => le_total another.periodStart one.periodStart⟩
  have : IsTrans Budget fun one another => another.periodStart ≤ one.periodStart :=
    ⟨fun _ _ _ first second => second.trans first⟩
  have descending := pairwise_insertionSort
    (fun one another : Budget => another.periodStart ≤ one.periodStart)
    (budgets.rows.filter fun budget => budget.scope = scope ∧ budget.periodStart ≤ now)
  rw [sorted] at descending
  rcases mem_cons.mp ((listed other).mpr ⟨isOther, same.trans sameScope, otherStarted⟩) with
    rfl | isLater
  · exact le_rfl
  · exact (pairwise_cons.mp descending).1 other isLater

end Budgets

/-- The budget is the same but for alerts that fired at `now`. -/
structure Budget.Evolved (now : ℤ) (origin budget : Budget) : Prop where
  key : budget.key = origin.key
  limit : budget.limitCredit = origin.limitCredit
  spent : budget.spentCredit = origin.spentCredit
  action : budget.action = origin.action
  alert : ∀ threshold, budget.alert threshold = origin.alert threshold ∨
    (origin.alert threshold).isSome ∧ budget.alert threshold = some ⟨some now⟩

namespace Budget.Evolved

variable {now : ℤ} {origin : Budget}

theorem refl (now : ℤ) (budget : Budget) : budget.Evolved now budget :=
  ⟨rfl, rfl, rfl, rfl, fun _ => .inl rfl⟩

theorem fireAlerts (evolved : origin.Evolved now budget) (spent : ℤ) :
    origin.Evolved now (budget.fireAlerts now spent) := by
  refine ⟨evolved.key, evolved.limit, evolved.spent, evolved.action, fun threshold => ?_⟩
  simp only [Budget.fireAlerts]
  split_ifs with fires
  · refine .inr ⟨?_, rfl⟩
    rcases evolved.alert threshold with same | ⟨configured, -⟩
    · rw [← same]
      cases configured : budget.alert threshold with
      | none => simp [Budget.fires, configured] at fires
      | some alert => rfl
    · exact configured
  · exact evolved.alert threshold

theorem sees (evolved : origin.Evolved now budget) (spent : ℤ) (threshold : Threshold) :
    budget.sees spent threshold = origin.sees spent threshold := by
  rw [Budget.sees, Budget.sees, usage, usage, evolved.limit]

end Budget.Evolved

variable {looked : List (Budget × ℤ)}

namespace Budgets

variable {origin : Budgets} {key : BudgetScope × ℤ} {now est : ℤ}

/-- How far the loop of a gate came: the budgets evolved from those it started with, and it looked at
active budgets of the chain, whose alerts remember what fired. -/
structure Passing (key : BudgetScope × ℤ) (origin : Budgets) (fired : List Notice) (now est : ℤ)
    (chain : List BudgetScope) (budgets : Budgets) (looked : List (Budget × ℤ)) : Prop where
  keys : budgets.rows.map Budget.key = origin.rows.map Budget.key
  rows : ∀ budget ∈ budgets.rows, ∃ before ∈ origin.rows, before.Evolved now budget
  remembers : budgets.Remembers key (looked.flatMap (firings now) ++ fired)
  looks : ∀ look ∈ looked, ∃ before, origin.Active now before ∧ before.scope ∈ chain ∧
    before.Evolved now look.1 ∧ look.2 = before.spentCredit + est
  recalled : ∀ look ∈ looked, look.1.key = key → ∀ threshold, ∀ alert ∈ look.1.alert threshold,
    ∀ moment, alert.lastFiredAt = some moment →
      ⟨key, threshold, moment⟩ ∈ looked.flatMap (firings now) ++ fired

section

variable (passing : Passing key origin fired now est chain budgets looked)

include passing

theorem Passing.active (active : budgets.Active now budget) :
    ∃ before, origin.Active now before ∧ before.Evolved now budget := by
  obtain ⟨isRow, started, latest⟩ := active
  obtain ⟨before, isBefore, evolved⟩ := passing.rows budget isRow
  obtain ⟨sameScope, samePeriod⟩ := Prod.mk.inj evolved.key
  refine ⟨before, ⟨isBefore, samePeriod ▸ started, fun other isOther same otherStarted => ?_⟩, evolved⟩
  have listed : other.key ∈ budgets.rows.map Budget.key := by
    rw [passing.keys]
    exact mem_map_of_mem isOther
  obtain ⟨row, isRow, sameKey⟩ := mem_map.mp listed
  obtain ⟨rowScope, rowPeriod⟩ := Prod.mk.inj sameKey
  rw [← samePeriod, ← rowPeriod]
  exact latest row isRow (by rw [rowScope, same, sameScope]) (by rw [rowPeriod]; exact otherStarted)

theorem Passing.see (active : budgets.Active now budget) (listed : budget.scope ∈ chain) :
    (∃ before, origin.Active now before ∧ before.scope ∈ chain ∧ before.Evolved now budget ∧
      budget.spentCredit + est = before.spentCredit + est) ∧
    (budget.key = key → ∀ threshold, ∀ alert ∈ budget.alert threshold, ∀ moment,
      alert.lastFiredAt = some moment →
        ⟨key, threshold, moment⟩ ∈ looked.flatMap (Budget.firings now) ++ fired) := by
  obtain ⟨before, wasActive, evolved⟩ := passing.active active
  obtain ⟨sameScope, -⟩ := Prod.mk.inj evolved.key
  refine ⟨⟨before, wasActive, sameScope ▸ listed, evolved, by rw [evolved.spent]⟩, ?_⟩
  intro isKey threshold alert configured moment last
  exact (passing.remembers.recorded budget active.1 isKey threshold alert configured moment).mp last

/-- What the loop of a gate did. -/
structure Passed (key : BudgetScope × ℤ) (origin : Budgets) (fired : List Notice) (now est : ℤ)
    (chain : List BudgetScope) (evaluated : Evaluated) : Prop where
  looks : ∀ look ∈ evaluated.looked, ∃ before, origin.Active now before ∧ before.scope ∈ chain ∧
    before.Evolved now look.1 ∧ look.2 = before.spentCredit + est
  recalled : ∀ look ∈ evaluated.looked, look.1.key = key → ∀ threshold, ∀ alert ∈ look.1.alert threshold,
    ∀ moment, alert.lastFiredAt = some moment →
      ⟨key, threshold, moment⟩ ∈ evaluated.looked.flatMap (firings now) ++ fired
  remembers : evaluated.refused = false →
    evaluated.budgets.Remembers key (evaluated.looked.flatMap (firings now) ++ fired)
  refusal : evaluated.refused → ∃ before, origin.Active now before ∧ before.scope ∈ chain ∧
    before.action = .block ∧ before.limitCredit < before.spentCredit + est

theorem Passing.look (active : budgets.Active now budget) (listed : budget.scope ∈ chain) :
    Passing key origin fired now est chain
      (budgets.revise budget.key (·.fireAlerts now (budget.spentCredit + est)) fun _ => rfl)
      ((budget, budget.spentCredit + est) :: looked) := by
  obtain ⟨origins, recalls⟩ := passing.see active listed
  have grows : ∀ {notice}, notice ∈ looked.flatMap (Budget.firings now) ++ fired →
      notice ∈ ((budget, budget.spentCredit + est) :: looked).flatMap (Budget.firings now) ++ fired := by
    intro notice member
    rw [flatMap_cons, append_assoc]
    exact mem_append_right _ member
  refine ⟨map_key_revise.trans passing.keys, fun row isRow => ?_, ?_, ?_, ?_⟩
  · rcases mem_revise.mp isRow with ⟨old, -⟩ | ⟨before, isBefore, -, rfl⟩
    · exact passing.rows row old
    · obtain ⟨first, isFirst, evolved⟩ := passing.rows before isBefore
      exact ⟨first, isFirst, evolved.fireAlerts _⟩
  · rw [flatMap_cons, append_assoc]
    exact passing.remembers.look active.1 active.2.1 rfl
  · intro look member
    rcases mem_cons.mp member with rfl | old
    · exact origins
    · exact passing.looks look old
  · intro look member isKey threshold alert configured moment last
    rcases mem_cons.mp member with rfl | old
    · exact grows (recalls isKey threshold alert configured moment last)
    · exact grows (passing.recalled look old isKey threshold alert configured moment last)

theorem Passing.passed : Passed key origin fired now est chain ⟨budgets, looked, false⟩ :=
  ⟨passing.looks, passing.recalled, fun _ => passing.remembers, fun refused => absurd refused (by simp)⟩

theorem Passing.gateLoop {rest : List BudgetScope} (listed : ∀ scope ∈ rest, scope ∈ chain) :
    Passed key origin fired now est chain (gateLoop now est budgets looked rest) := by
  induction rest generalizing budgets looked with
  | nil => exact passing.passed
  | cons scope rest ih =>
    have later : ∀ scope ∈ rest, scope ∈ chain := fun scope member =>
      listed scope (mem_cons_of_mem _ member)
    rw [gateLoop]
    split
    next => exact ih passing later
    next budget found =>
      obtain ⟨active, isScope⟩ := active_of_activeBudget found
      have inChain : budget.scope ∈ chain := isScope ▸ listed scope mem_cons_self
      dsimp only
      split_ifs with refuses
      · have looks := (passing.look active inChain)
        refine ⟨looks.looks, looks.recalled, fun accepted => absurd accepted (by simp), fun _ => ?_⟩
        obtain ⟨before, wasActive, evolved⟩ := passing.active active
        obtain ⟨sameScope, -⟩ := Prod.mk.inj evolved.key
        exact ⟨before, wasActive, sameScope ▸ inChain, evolved.action ▸ refuses.1,
          evolved.limit ▸ evolved.spent ▸ refuses.2⟩
      · exact ih (passing.look active inChain) later

end

theorem Remembers.gate (remembers : origin.Remembers key fired) (est : ℤ) (chain : List BudgetScope) :
    Passed key origin fired now est chain (gateLoop now est origin [] chain) := by
  refine Passing.gateLoop ⟨rfl, fun budget member => ⟨budget, member, .refl now budget⟩, remembers, ?_, ?_⟩
    fun _ => id
  · exact fun _ member => absurd member not_mem_nil
  · exact fun _ member => absurd member not_mem_nil

theorem Remembers.rollupLoop {dir : Directory} {ledger : Ledger} {looked : List (Budget × ℤ)}
    {rest : List Budget} (remembers : budgets.Remembers key (looked.flatMap (Budget.firings now) ++ fired))
    (rows : ∀ budget ∈ rest, budget ∈ budgets.rows) (distinct : (rest.map Budget.key).Nodup) :
    (rollupLoop dir ledger now budgets looked rest).budgets.Remembers key
      ((rollupLoop dir ledger now budgets looked rest).looked.flatMap (Budget.firings now)
        ++ fired) ∧ (rollupLoop dir ledger now budgets looked rest).refused = false ∧
    ∀ look ∈ (rollupLoop dir ledger now budgets looked rest).looked, look ∈ looked ∨
      look.1 ∈ rest ∧ look.1.periodStart ≤ now ∧ look.2 = dir.spent ledger look.1.scope now := by
  induction rest generalizing budgets looked with
  | nil => exact ⟨remembers, rfl, fun look member => .inl member⟩
  | cons budget rest ih =>
    obtain ⟨absent, distinct⟩ := nodup_cons.mp distinct
    rw [rollupLoop]
    split_ifs with started
    · have alerts : (Budget.rollup dir ledger now budget).alert
          = (budget.fireAlerts now (dir.spent ledger budget.scope now)).alert := by
        rw [Budget.rollup, if_pos started]
        rfl
      have next : Remembers key (budgets.revise budget.key (Budget.rollup dir ledger now)
          (key_rollup dir ledger now)) _ :=
        remembers.look (rows budget mem_cons_self) started alerts
      rw [← append_assoc, ← flatMap_cons] at next
      have remaining : ∀ other ∈ rest, other ∈ (budgets.revise budget.key
          (Budget.rollup dir ledger now) (key_rollup dir ledger now)).rows := by
        intro other member
        refine mem_revise.mpr (.inl ⟨rows other (mem_cons_of_mem budget member), fun same => ?_⟩)
        exact absent (same ▸ mem_map_of_mem member)
      obtain ⟨kept, accepted, looks⟩ := ih next remaining distinct
      refine ⟨kept, accepted, fun look member => ?_⟩
      rcases looks look member with old | ⟨later, begun, isSpent⟩
      · rcases mem_cons.mp old with rfl | old
        · exact .inr ⟨mem_cons_self, started, rfl⟩
        · exact .inl old
      · exact .inr ⟨mem_cons_of_mem budget later, begun, isSpent⟩
    · obtain ⟨kept, accepted, looks⟩ := ih remembers
        (fun other member => rows other (mem_cons_of_mem budget member)) distinct
      exact ⟨kept, accepted, fun look member =>
        (looks look member).imp_right (And.imp_left (mem_cons_of_mem budget))⟩

theorem Remembers.rollup (remembers : budgets.Remembers key fired) (dir : Directory) (ledger : Ledger)
    (now : ℤ) : (budgets.rollup dir ledger now).budgets.Remembers key
      ((budgets.rollup dir ledger now).looked.flatMap (Budget.firings now) ++ fired) ∧
    (budgets.rollup dir ledger now).refused = false ∧
    ∀ look ∈ (budgets.rollup dir ledger now).looked, look.1 ∈ budgets.rows ∧
      look.1.periodStart ≤ now ∧ look.2 = dir.spent ledger look.1.scope now := by
  obtain ⟨kept, accepted, looks⟩ := @Remembers.rollupLoop budgets fired key now dir ledger []
    budgets.rows remembers (fun _ => id) budgets.unique
  refine ⟨kept, accepted, fun look member => ?_⟩
  rcases looks look member with impossible | look
  · cases impossible
  · exact look

end Budgets

end GShare.Model

namespace GShare.Soundness.BudgetAlerts

open Machine Samples Budgets Budget List Option

/-- The budgets, every alert that fired and every threshold that was seen reached, newest first. -/
structure History where
  budgets : Budgets
  fired : List Notice
  seen : List Notice

/-- The rollup, with the ledger it finds, or the gate of a new session. -/
inductive Evaluation where
  | rollup (ledger : Ledger) (now : ℤ)
  | gate (chain : List BudgetScope) (est now : ℤ)

namespace History

/-- What an evaluation at `now` saw, and what it fired unless it was rolled back. -/
def note (history : History) (now : ℤ) (evaluated : Evaluated) : History where
  budgets := evaluated.budgets
  fired := (if evaluated.refused then [] else evaluated.looked.flatMap (firings now)) ++ history.fired
  seen := evaluated.looked.flatMap (sightings now) ++ history.seen

def step (dir : Directory) (history : History) : Evaluation → Option History
  | .rollup ledger now => some (history.note now (history.budgets.rollup dir ledger now))
  | .gate chain est now => some (history.note now (history.budgets.gate now est chain))

end History

def Unfired (budget : Budget) (alert : BudgetAlert) : Prop :=
  ∀ last ∈ alert.lastFiredAt, last < budget.periodStart

def FiredInMonth (calendar : Calendar) (now : ℤ) (alert : BudgetAlert) : Prop :=
  ∃ last ∈ alert.lastFiredAt, calendar.monthOf last = calendar.monthOf now

/-- An evaluation that reaches a threshold of the budget finds that its alert never fired, or fired in the
same month; and one that refuses the session finds that it fired in the same month. -/
def Timely (dir : Directory) (key : BudgetScope × ℤ) (history : History) : Evaluation → Prop
  | .rollup ledger now =>
    ∀ budget ∈ history.budgets.rows, budget.key = key → budget.periodStart ≤ now →
      ∀ threshold, ∀ alert ∈ budget.alert threshold,
        budget.sees (dir.spent ledger budget.scope now) threshold →
          Unfired budget alert ∨ FiredInMonth (dir.calendarFor key.1) now alert
  | .gate chain est now =>
    ∀ budget, history.budgets.Active now budget → budget.key = key → budget.scope ∈ chain →
      ∀ threshold, ∀ alert ∈ budget.alert threshold,
        budget.sees (budget.spentCredit + est) threshold →
          (Unfired budget alert ∧ ∀ other, history.budgets.Active now other → other.scope ∈ chain →
            ¬(other.action = .block ∧ other.limitCredit < other.spentCredit + est)) ∨
          FiredInMonth (dir.calendarFor key.1) now alert

structure Alerted (dir : Directory) (key : BudgetScope × ℤ) (history : History) : Prop where
  remembers : history.budgets.Remembers key history.fired
  covered : ∀ notice ∈ history.seen, notice.key = key → ∃ moment,
    ⟨key, notice.threshold, moment⟩ ∈ history.fired ∧
      (dir.calendarFor key.1).monthOf moment = (dir.calendarFor key.1).monthOf notice.moment

variable {dir : Directory} {key : BudgetScope × ℤ} {history next : History}
variable {now : ℤ} {evaluated : Evaluated} {look : Budget × ℤ}

theorem fired_of_not_fires {spent : ℤ}
    (configured : budget.alert threshold = some alert) (sees : budget.sees spent threshold)
    (silent : ¬budget.fires spent threshold) :
    ∃ last, alert.lastFiredAt = some last ∧ budget.periodStart ≤ last := by
  simp only [fires, sees, Bool.true_and, configured, Option.any_some, Bool.not_eq_true',
    Bool.not_eq_false, Option.any_eq_true, decide_eq_true_eq] at silent
  exact silent

theorem mem_fired_of_fires {looked : List (Budget × ℤ)} {fired : List Notice}
    (isLook : look ∈ looked) (isKey : look.1.key = key) (fires : look.1.fires look.2 threshold) :
    ⟨key, threshold, now⟩ ∈ looked.flatMap (firings now) ++ fired :=
  mem_append_left _ (mem_flatMap.mpr
    ⟨look, isLook, mem_firings.mpr ⟨isKey.symm, rfl, fires⟩⟩)

section

variable (alerted : Alerted dir key history)

include alerted

theorem Alerted.note (remembers : evaluated.budgets.Remembers key (history.note now evaluated).fired)
    (covers : ∀ look ∈ evaluated.looked, look.1.key = key → ∀ threshold,
      (look.1.alert threshold).isSome → look.1.sees look.2 threshold → ∃ moment,
        ⟨key, threshold, moment⟩ ∈ (history.note now evaluated).fired ∧
          (dir.calendarFor key.1).monthOf moment = (dir.calendarFor key.1).monthOf now) :
    Alerted dir key (history.note now evaluated) := by
  refine ⟨remembers, fun notice member isKey => ?_⟩
  rcases mem_append.mp member with new | old
  · obtain ⟨look, isLook, sighted⟩ := mem_flatMap.mp new
    obtain ⟨sameKey, isNow, configured, sees⟩ := mem_sightings.mp sighted
    obtain ⟨moment, fired, sameMonth⟩ :=
      covers look isLook (sameKey.symm.trans isKey) notice.threshold configured sees
    exact ⟨moment, fired, by rw [sameMonth, isNow]⟩
  · obtain ⟨moment, fired, sameMonth⟩ := alerted.covered notice old isKey
    exact ⟨moment, mem_append_right _ fired, sameMonth⟩

theorem Alerted.rollup {ledger : Ledger} (timely : Timely dir key history (.rollup ledger now)) :
    Alerted dir key (history.note now (history.budgets.rollup dir ledger now)) := by
  obtain ⟨remembers, accepted, looks⟩ := alerted.remembers.rollup dir ledger now
  have fired : (history.note now (history.budgets.rollup dir ledger now)).fired
      = (history.budgets.rollup dir ledger now).looked.flatMap (firings now)
        ++ history.fired := by
    simp [History.note, accepted]
  refine alerted.note (fired ▸ remembers) fun look isLook isKey threshold configured sees => ?_
  obtain ⟨isRow, started, isSpent⟩ := looks look isLook
  obtain ⟨alert, configured⟩ := isSome_iff_exists.mp configured
  rw [fired]
  by_cases fires : look.1.fires look.2 threshold
  · exact ⟨now, mem_fired_of_fires isLook isKey fires, rfl⟩
  · obtain ⟨last, isLast, late⟩ := fired_of_not_fires configured sees fires
    rw [isSpent] at sees
    rcases timely look.1 isRow isKey started threshold alert configured sees with
      unfired | ⟨same, isSame, sameMonth⟩
    · exact absurd (unfired last isLast) (not_lt.mpr late)
    · refine ⟨same, mem_append_right _ ?_, sameMonth⟩
      exact (alerted.remembers.recorded look.1 isRow isKey threshold alert configured same).mp isSame

theorem Alerted.sighted {est : ℤ}
    (passed : Passed key history.budgets history.fired now est chain evaluated)
    (timely : Timely dir key history (.gate chain est now))
    (isLook : look ∈ evaluated.looked) (isKey : look.1.key = key)
    (configured : (look.1.alert threshold).isSome) (sees : look.1.sees look.2 threshold) :
    ∃ before alert, before.Evolved now look.1 ∧ before.alert threshold = some alert ∧
      ((Unfired before alert ∧ evaluated.refused = false) ∨ ∃ moment,
        ⟨key, threshold, moment⟩ ∈ history.fired ∧
          (dir.calendarFor key.1).monthOf moment = (dir.calendarFor key.1).monthOf now) := by
  obtain ⟨before, active, listed, evolved, isSpent⟩ := passed.looks look isLook
  have wasKey : before.key = key := evolved.key.symm.trans isKey
  obtain ⟨alert, isAlert⟩ : ∃ alert, before.alert threshold = some alert := by
    rcases evolved.alert threshold with same | ⟨configured, -⟩
    · exact isSome_iff_exists.mp (same ▸ configured)
    · exact isSome_iff_exists.mp configured
  refine ⟨before, alert, evolved, isAlert, ?_⟩
  rw [evolved.sees, isSpent] at sees
  rcases timely before active wasKey listed threshold alert isAlert sees with
    ⟨unfired, nobody⟩ | ⟨last, isLast, sameMonth⟩
  · refine .inl ⟨unfired, ?_⟩
    by_contra refused
    obtain ⟨refuser, active, listed, refuses⟩ := passed.refusal (by simpa using refused)
    exact nobody refuser active listed refuses
  · exact .inr ⟨last, (alerted.remembers.recorded before active.1 wasKey threshold alert isAlert last).mp
      isLast, sameMonth⟩

theorem Alerted.gate {est now : ℤ}
    (timely : Timely dir key history (.gate chain est now)) :
    Alerted dir key (history.note now (history.budgets.gate now est chain)) := by
  have passed := @Remembers.gate _ _ _ now alerted.remembers est chain
  unfold Budgets.gate
  generalize gateLoop now est history.budgets [] chain = evaluated at passed ⊢
  dsimp only
  cases outcome : evaluated.refused with
  | true =>
    refine alerted.note alerted.remembers fun look isLook isKey threshold configured sees => ?_
    obtain ⟨_, _, -, -, ⟨-, accepted⟩ | covered⟩ := alerted.sighted passed timely isLook isKey configured sees
    · rw [outcome] at accepted
      cases accepted
    · exact covered
  | false =>
    have fired : (history.note now evaluated).fired
        = evaluated.looked.flatMap (firings now) ++ history.fired := by
      simp [History.note, outcome]
    rw [if_neg (by simp)]
    refine alerted.note (fired ▸ passed.remembers outcome)
      fun look isLook isKey threshold configured sees => ?_
    rw [fired]
    obtain ⟨before, alert, evolved, isAlert, ⟨unfired, -⟩ | ⟨moment, wasFired, sameMonth⟩⟩ :=
      alerted.sighted passed timely isLook isKey configured sees
    · by_cases fires : look.1.fires look.2 threshold
      · exact ⟨now, mem_fired_of_fires isLook isKey fires, rfl⟩
      · obtain ⟨current, configured⟩ := isSome_iff_exists.mp configured
        obtain ⟨last, isLast, late⟩ := fired_of_not_fires configured sees fires
        refine ⟨last, passed.recalled look isLook isKey threshold current configured last isLast, ?_⟩
        -- The gate itself fired it a moment ago, for another scope of the chain.
        rcases evolved.alert threshold with same | ⟨-, isNow⟩
        · rw [same, isAlert] at configured
          cases configured
          have samePeriod : look.1.periodStart = before.periodStart := (Prod.mk.inj evolved.key).2
          exact absurd (unfired last isLast) (not_lt.mpr (samePeriod ▸ late))
        · rw [isNow] at configured
          cases configured
          cases isLast
          rfl
    · exact ⟨moment, mem_append_right _ wasFired, sameMonth⟩

end

/-- From alerts that have not fired yet on: an alert never fires twice in a month, and in every month in
which its threshold was seen reached it fired. -/
theorem alerts_once_each_month {dir : Directory} {key : BudgetScope × ℤ} {first last : History}
    {evaluations : List Evaluation}
    (run : Run (History.step dir) (Timely dir key) first evaluations last)
    (configured : ∀ budget ∈ first.budgets.rows, budget.key = key → ∀ threshold,
      ∀ alert ∈ budget.alert threshold, alert.lastFiredAt = none)
    (unfired : ∀ notice ∈ first.fired, notice.key ≠ key) (unseen : ∀ notice ∈ first.seen, notice.key ≠ key) :
    (last.fired.Pairwise fun one other => one.key = key → other.key = key →
      one.threshold = other.threshold → (dir.calendarFor key.1).monthOf one.moment
        ≠ (dir.calendarFor key.1).monthOf other.moment) ∧
    ∀ notice ∈ last.seen, notice.key = key → ∃ fired ∈ last.fired, fired.key = key ∧
      fired.threshold = notice.threshold ∧
      (dir.calendarFor key.1).monthOf fired.moment = (dir.calendarFor key.1).monthOf notice.moment := by
  have initial : Alerted dir key first := by
    refine ⟨⟨fun budget member isKey threshold alert isAlert moment => ?_, ?_, ?_⟩, ?_⟩
    · rw [configured budget member isKey threshold alert isAlert]
      exact ⟨fun impossible => absurd impossible (by simp), fun wasFired => absurd rfl (unfired _ wasFired)⟩
    · exact fun notice member isKey => absurd isKey (unfired notice member)
    · exact pairwise_iff_forall_sublist.mpr fun sublist oneKey =>
        absurd oneKey (unfired _ (sublist.subset mem_cons_self))
    · exact fun notice member isKey => absurd isKey (unseen notice member)
  have alerted := run.invariant initial fun history evaluation next timely taken alerted => by
    cases evaluation with
    | rollup ledger now =>
      cases taken
      exact alerted.rollup timely
    | gate chain est now =>
      cases taken
      exact alerted.gate timely
  refine ⟨alerted.remembers.once.imp fun differ oneKey otherKey same => absurd same (differ oneKey otherKey),
    fun notice member isKey => ?_⟩
  obtain ⟨moment, wasFired, sameMonth⟩ := alerted.covered notice member isKey
  exact ⟨_, wasFired, rfl, rfl, sameMonth⟩

instance (holds : Threshold → Prop) [DecidablePred holds] : Decidable (∀ threshold, holds threshold) :=
  decidable_of_iff (holds .eighty ∧ holds .hundred)
    ⟨fun both threshold => by cases threshold; exacts [both.1, both.2], fun all => ⟨all _, all _⟩⟩

instance (budget : Budget) (alert : BudgetAlert) : Decidable (Unfired budget alert) :=
  inferInstanceAs (Decidable (∀ last ∈ alert.lastFiredAt, _))

instance (calendar : Calendar) (alert : BudgetAlert) : Decidable (FiredInMonth calendar now alert) :=
  inferInstanceAs (Decidable (∃ last ∈ alert.lastFiredAt, _))

instance (ledger : Ledger) : Decidable (Timely dir key history (.rollup ledger now)) := by
  unfold Timely
  infer_instance

/-- The sample budget alone, when nothing has fired or was seen. -/
def untouched : History := ⟨⟨[groupBudget .alert], nodup_singleton _⟩, [], []⟩

def ninetySpent (moment : ℤ) : Ledger where
  wallet id := if id = 0 then some ⟨.user, 0, 1000, 0, 0⟩ else none
  txns := [⟨0, .consume, -9000, 1000, some (.session 0), .consume 0 0, moment⟩]

def rollupOn (day : ℤ) : Evaluation :=
  .rollup (ninetySpent (day * (24 * 3600 * second))) (day * (24 * 3600 * second))

theorem alerts_once_each_month_twice_seen :
    ∃ last, Run (History.step oneGroup) (Timely oneGroup (.group 0, 0)) untouched
        [rollupOn 3, rollupOn 4] last ∧ last.seen.length = 2 ∧
      (last.fired.Pairwise fun one other => one.key = (.group 0, 0) → other.key = (.group 0, 0) →
        one.threshold = other.threshold → (oneGroup.calendarFor (.group 0)).monthOf one.moment
          ≠ (oneGroup.calendarFor (.group 0)).monthOf other.moment) ∧
      ∀ notice ∈ last.seen, notice.key = (.group 0, 0) → ∃ fired ∈ last.fired, fired.key = (.group 0, 0) ∧
        fired.threshold = notice.threshold ∧ (oneGroup.calendarFor (.group 0)).monthOf fired.moment
          = (oneGroup.calendarFor (.group 0)).monthOf notice.moment := by
  have run : Run (History.step oneGroup) (Timely oneGroup (.group 0, 0)) untouched
      [rollupOn 3, rollupOn 4] _ :=
    .cons (by unfold rollupOn; decide +kernel) rfl
      (.cons (by unfold rollupOn; decide +kernel) rfl (.nil _))
  exact ⟨_, run, by decide +kernel, alerts_once_each_month run (by decide +kernel) (by decide) (by decide)⟩

/-- The alert fires in the first month. In the second one the same share is spent again and seen, and the
third one begins without another alert. -/
theorem silent_second_month :
    ∃ last, Run (History.step oneGroup) (fun _ _ => True) untouched [rollupOn 3, rollupOn 33, rollupOn 63]
        last ∧ (∃ notice ∈ last.seen, notice.key = (.group 0, 0) ∧ notice.threshold = .eighty ∧
        thirtyDays.monthOf notice.moment = 1) ∧ ∀ fired ∈ last.fired, thirtyDays.monthOf fired.moment = 0 := by
  refine ⟨_, run_of_execute rfl, ?_, ?_⟩
  · decide +kernel
  · decide +kernel

end GShare.Soundness.BudgetAlerts
