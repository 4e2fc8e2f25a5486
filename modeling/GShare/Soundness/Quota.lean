import GShare.Proofs.Session.Quota

/-! # Caps of one user under concurrent requests

No lock orders the requests of a user, yet the caps on active sessions hold: every request commits its
row before it counts, so whichever of several checks last counts all the others. The cap on queue entries
has no such order. The entry is inserted long after the count, and in between the request is in neither:
the cap holds as long as the requests on their way are counted in.
-/

namespace GShare.Soundness.Quota

open GShare.Model Accounting Machine Roster Account OwnedSession Option List Nat

variable {policy : EffectivePolicy} {account next : Account} {id : SessionId} {req : SizeRequest}
variable {call after : CreateCall} {change : AccountChange} {row : OwnedSession}

/-- A weight of the sizes of the user's active sessions that have passed the quota step. -/
def passedSum (account : Account) (weight : (Resource → Option ℕ) → ℕ) : ℕ :=
  account.sessions.total fun row => if row.isActive ∧ row.passed then weight row.size else 0

structure WithinCaps (policy : EffectivePolicy) (account : Account) : Prop where
  concurrent : ∀ limit ∈ policy.maxConcurrent, passedSum account (fun _ => 1) ≤ limit
  sums : ∀ resource, 0 < policy.limits resource →
    passedSum account (fun size => (size resource).getD 0) ≤ policy.limits resource

/-- A change that brings no session into the sums. -/
def Lowers (account next : Account) : Prop := ∀ weight, passedSum next weight ≤ passedSum account weight

theorem WithinCaps.of_lowers (within : WithinCaps policy account) (lowers : Lowers account next) :
    WithinCaps policy next where
  concurrent limit given := (lowers _).trans (within.concurrent limit given)
  sums resource limited := (lowers _).trans (within.sums resource limited)

theorem lowers_persist (inserted : account.persist id req = some next) : Lowers account next := by
  intro weight
  obtain ⟨sessions, placed, rfl⟩ := map_eq_some_iff.mp inserted
  -- The new row has not passed the quota step.
  refine (total_insert placed _).trans_le ?_
  simp [passedSum]

theorem lowers_revise {change : OwnedSession → OwnedSession} {keeps : ∀ row, (change row).id = row.id}
    (less : ∀ row ∈ account.sessions.rows, row.id = id → (change row).size = row.size ∧
      (change row).passed = row.passed ∧ ((change row).isActive → row.isActive)) :
    Lowers account (account.reviseSession id change keeps) := by
  intro weight
  simp only [passedSum, reviseSession]
  refine total_revise_le fun row member same => ?_
  obtain ⟨size, passed, active⟩ := less row member same
  rw [size, passed]
  split_ifs with counted before
  · exact le_rfl
  · exact absurd ⟨active counted.1, counted.2⟩ before
  · exact zero_le _
  · exact le_rfl

theorem lowers_markFailed : Lowers account (account.markFailed id) := by
  refine lowers_revise fun row _ _ => ?_
  split_ifs with early
  · exact ⟨rfl, rfl, fun active => by simp [isActive, Status.isActive] at active⟩
  · exact ⟨rfl, rfl, fun active => active⟩

theorem sessions_enqueue : (account.enqueue id).sessions = account.sessions := by
  simp only [enqueue]
  split <;> rfl

theorem lowers_change (changed : account.change change = some next) : Lowers account next := by
  cases changed_of_change changed with
  | moved present stays =>
    obtain ⟨among, known⟩ := find?_eq_some_iff.mp present
    refine lowers_revise fun row member same => ⟨rfl, rfl, fun active => ?_⟩
    obtain rfl := eq_of_key member among (same.trans known.symm)
    simp only [isActive, Bool.and_eq_true] at active ⊢
    exact ⟨stays active.1, active.2⟩
  | deleted =>
    refine lowers_revise fun row _ _ => ⟨rfl, rfl, fun active => ?_⟩
    simp [isActive] at active
  | dequeued | parked => exact fun _ => le_rfl

/-- The row of a request holds what the request asks for. -/
def Sized (account : Account) : CreateCall → Prop
  | .admitting req id _ =>
    ∃ row, account.sessions.find? id = some row ∧ row.size = persistedSize req
  | .requested _ | .finished => True

/-- Whoever passes the quota step joins what that step counted. -/
theorem passedSum_markPassed_le (found : account.sessions.find? id = some row)
    (weight : (Resource → Option ℕ) → ℕ) : passedSum (account.markPassed id) weight
      ≤ account.activeSum id (fun row => weight row.size) + weight row.size := by
  obtain ⟨_, same⟩ := find?_eq_some_iff.mp found
  have joined : passedSum (account.markPassed id) weight ≤ weight row.size +
      (account.sessions.remove id).total
        fun row => if row.isActive ∧ row.passed then weight row.size else 0 := by
    rw [passedSum, markPassed, reviseSession, total_revise_split found]
    refine Nat.add_le_add_right ?_ _
    split_ifs
    · exact le_rfl
    · exact zero_le _
  have others : account.activeSum id (fun row => weight row.size) = (account.sessions.remove id).total
      fun row => if row.isActive ∧ row.id ≠ id then weight row.size else 0 := by
    rw [activeSum, total_remove found]
    simp [same]
  have counted : (account.sessions.remove id).total
        (fun row => if row.isActive ∧ row.passed then weight row.size else 0)
      ≤ (account.sessions.remove id).total
        fun row => if row.isActive ∧ row.id ≠ id then weight row.size else 0 := by
    refine sum_le_sum fun other member => ?_
    have apart := (mem_remove.mp member).2
    split_ifs with passed counted
    · exact le_rfl
    · exact absurd ⟨passed.1, apart⟩ counted
    · exact zero_le _
    · exact le_rfl
  omega

/-- The quota step itself keeps the caps. -/
theorem withinCaps_markPassed (found : account.sessions.find? id = some row)
    (sized : row.size = persistedSize req) (passed : account.Within id policy req) :
    WithinCaps policy (account.markPassed id) where
  concurrent limit given :=
    (passedSum_markPassed_le found _).trans (passed.concurrent limit given)
  sums resource limited := by
    refine (passedSum_markPassed_le found _).trans ?_
    rw [sized, ← requestedSize_eq]
    exact passed.sums resource limited

/-- A change of the rows after which each row of a request is still there, with its size. -/
def KeepsSizes (account next : Account) : Prop :=
  ∀ id row, account.sessions.find? id = some row →
    ∃ kept, next.sessions.find? id = some kept ∧ kept.size = row.size

theorem Sized.of_keeps (sized : Sized account call) (keeps : KeepsSizes account next) : Sized next call := by
  cases call with
  | admitting req id point =>
    obtain ⟨row, found, size⟩ := sized
    obtain ⟨kept, present, same⟩ := keeps id row found
    exact ⟨kept, present, same.trans size⟩
  | requested | finished => trivial

theorem keepsSizes_persist (inserted : account.persist id req = some next) : KeepsSizes account next := by
  intro other row found
  obtain ⟨sessions, placed, rfl⟩ := map_eq_some_iff.mp inserted
  obtain ⟨member, same⟩ := find?_eq_some_iff.mp found
  refine ⟨row, find?_eq_some_iff.mpr ⟨?_, same⟩, rfl⟩
  rw [(insert_eq_some placed).2]
  exact mem_cons_of_mem _ member

theorem keepsSizes_revise {change : OwnedSession → OwnedSession} {keeps : ∀ row, (change row).id = row.id}
    (same : ∀ row, (change row).size = row.size) : KeepsSizes account (account.reviseSession id change keeps) := by
  intro other row found
  obtain ⟨member, known⟩ := find?_eq_some_iff.mp found
  simp only [reviseSession, find?_eq_some_iff, mem_revise]
  by_cases chosen : row.id = id
  · exact ⟨change row, ⟨.inr ⟨row, member, chosen, rfl⟩, (keeps row).trans known⟩, same row⟩
  · exact ⟨row, ⟨.inl ⟨member, chosen⟩, known⟩, rfl⟩

theorem keepsSizes_step {policy : Option EffectivePolicy}
    (step : CreateStep policy account call next after) : KeepsSizes account next := by
  cases step with
  | persisted inserted => exact keepsSizes_persist inserted
  | passed => exact keepsSizes_revise fun _ => rfl
  | moved | applied => exact fun _ row found => ⟨row, found, rfl⟩
  | enqueued =>
    intro id row found
    rw [sessions_enqueue]
    exact ⟨row, found, rfl⟩
  | failed =>
    refine keepsSizes_revise fun row => ?_
    split_ifs <;> rfl

theorem keepsSizes_change (changed : account.change change = some next) : KeepsSizes account next := by
  cases changed_of_change changed with
  | moved | deleted => exact keepsSizes_revise fun _ => rfl
  | dequeued | parked => exact fun _ row found => ⟨row, found, rfl⟩

theorem withinCaps_step (step : CreateStep (some policy) account call next after)
    (within : WithinCaps policy account) (sized : Sized account call) : WithinCaps policy next := by
  cases step with
  | persisted inserted => exact within.of_lowers (lowers_persist inserted)
  | passed counted =>
    obtain ⟨row, found, size⟩ := sized
    exact withinCaps_markPassed found size (within_of_quota counted)
  | moved | applied => exact within
  | enqueued =>
    refine within.of_lowers fun weight => ?_
    rw [passedSum, passedSum, sessions_enqueue]
  | failed => exact within.of_lowers lowers_markFailed

theorem sized_step {policy : Option EffectivePolicy}
    (step : CreateStep policy account call next after) (sized : Sized account call) : Sized next after := by
  have keeps := keepsSizes_step step
  cases step with
  | persisted inserted =>
    obtain ⟨sessions, placed, rfl⟩ := map_eq_some_iff.mp inserted
    exact ⟨_, find?_insert placed, rfl⟩
  | passed | moved =>
    have kept := sized.of_keeps keeps
    exact kept
  | enqueued | applied | failed => trivial

theorem keeps_withinCaps : (createProgram (some policy)).Keeps (fun _ _ => True) (WithinCaps policy)
    fun account _ call => Sized account call where
  enter := by
    rintro pool call - ⟨req, rfl⟩ -
    trivial
  own pool index input call store after _ _ taken within sized :=
    have step := createStep_of_next taken
    ⟨withinCaps_step step within sized, sized_step step sized⟩
  others pool index input call store after other bystander _ _ taken _ _ _ _ sized :=
    sized.of_keeps (keepsSizes_step (createStep_of_next taken))
  outside pool change store _ changed within :=
    ⟨within.of_lowers (lowers_change changed), fun _ _ sized => sized.of_keeps (keepsSizes_change changed)⟩

/-- However the requests of a user interleave with each other and with the ends of the user's sessions,
those that have passed the quota step and are active stay within every cap of the policy. -/
theorem active_within_caps {first last : Pool Account CreateCall}
    {actions : List (Action CreateCall CreateInput AccountChange)} (fresh : first.calls = [])
    (new : first.store.sessions.rows = [])
    (run : Run (createProgram (some policy)).step (fun _ _ => True) first actions last) :
    (∀ limit ∈ policy.maxConcurrent, passedSum last.store (fun _ => 1) ≤ limit) ∧
      ∀ resource, 0 < policy.limits resource →
        passedSum last.store (fun size => (size resource).getD 0) ≤ policy.limits resource := by
  have none : ∀ weight, passedSum first.store weight = 0 :=
    fun weight => total_eq_zero fun row member => absurd (new ▸ member) not_mem_nil
  have initial : WithinCaps policy first.store := by
    refine ⟨fun limit _ => ?_, fun resource _ => ?_⟩ <;> rw [none] <;> exact zero_le _
  have within := (keeps_withinCaps.run_idle run fresh initial).store
  exact ⟨within.concurrent, within.sums⟩

def halfCard : SizeRequest := ⟨.gpu, 0, none, some 12288, some 50, some 4, some 16, none⟩

/-- One session and one queue entry, of at most a card. -/
def oneOfEach : EffectivePolicy where
  maxConcurrent := some 1
  maxQueued := some 1
  cpuSessionMaxConcurrent := 0
  limits
    | .gpuMemMb => 24576
    | _ => 0

def noSessions : Pool Account CreateCall := ⟨⟨.empty _, .empty _⟩, []⟩

/-- The next transactions of a call, none of which finds a slice. -/
def transactions (index count : ℕ) : List (Action CreateCall CreateInput AccountChange) :=
  replicate count (.advance index ⟨index, true, false⟩)

/-- Two requests, of which the first passes the quota step before the second counts. -/
def oneAfterTheOther : List (Action CreateCall CreateInput AccountChange) :=
  [.enter (.requested halfCard), .enter (.requested halfCard)] ++ transactions 0 3 ++ transactions 1 4

/-- The first of the two is within the caps, the second is turned away. -/
theorem active_within_caps_second_refused :
    ∃ last, Run (createProgram (some oneOfEach)).step (fun _ _ => True) noSessions oneAfterTheOther last ∧
      passedSum last.store (fun _ => 1) = 1 ∧
      (∀ limit ∈ oneOfEach.maxConcurrent, passedSum last.store (fun _ => 1) ≤ limit) ∧
      ∀ resource, 0 < oneOfEach.limits resource →
        passedSum last.store (fun size => (size resource).getD 0) ≤ oneOfEach.limits resource :=
  exists_run_imp (fun last => passedSum last.store (fun _ => 1) = 1) (by decide +kernel) fun _ run one =>
    ⟨one, active_within_caps rfl rfl run⟩

def waiting (account : Account) : ℕ := account.queue.total fun entry => if entry.parked then 0 else 1

/-- A request that has passed the quota step and may still enqueue. -/
def awaits : CreateCall → Bool
  | .admitting _ _ point => point.awaits
  | .requested _ | .finished => false

section

variable (policy)

variable (pool : Pool Account CreateCall)

/-- A request for a GPU that passes the quota step finds room in the queue for itself beside the entries
and the other requests on their way to it. -/
def LeavesRoom : CreateCall → Prop
  | .admitting req id .quoting =>
    req.resourceClass = .gpu → pool.store.quota id (some policy) req = .ok () →
      ∀ limit ∈ policy.maxQueued, waiting pool.store + pool.calls.countP awaits < limit
  | _ => True

/-- The requests on their way to the queue are counted with the entries. -/
def CountsWaiting : Action CreateCall CreateInput AccountChange → Prop
  | .advance index _ => ∀ call ∈ pool.calls[index]?, LeavesRoom policy pool call
  | .enter _ | .outside _ => True

/-- The entries and the requests on their way to the queue are within the cap. -/
def QueueBounded : Prop :=
  ∀ limit ∈ policy.maxQueued, waiting pool.store + pool.calls.countP awaits ≤ limit

end

theorem waiting_enqueue_le : waiting (account.enqueue id) ≤ waiting account + 1 := by
  simp only [enqueue]
  split
  · exact le_succ _
  · rename_i inserted
    exact ((total_insert inserted _).trans (add_comm _ _)).le

/-- What a call contributes to the way there. -/
def weight (call : CreateCall) : ℕ := if awaits call then 1 else 0

theorem waiting_step {policy : Option EffectivePolicy} (step : CreateStep policy account call next after) :
    waiting next + weight after ≤ waiting account + weight call ∨
      waiting next = waiting account ∧ ∃ req id, call = .admitting req id .quoting ∧
        req.resourceClass = .gpu ∧ account.quota id policy req = .ok () := by
  cases step with
  | persisted inserted =>
    obtain ⟨sessions, _, rfl⟩ := map_eq_some_iff.mp inserted
    exact .inl le_rfl
  | @passed req id point counted onward =>
    by_cases later : point.awaits
    · exact .inr ⟨rfl, req, id, rfl, onward later, counted⟩
    · refine .inl (Nat.add_le_add_left ?_ _)
      simp [weight, awaits, later]
  | @moved _ _ point further onward =>
    refine .inl (Nat.add_le_add_left ?_ _)
    by_cases later : further.awaits
    · simp [weight, awaits, later, onward later]
    · simp [weight, awaits, later]
  | enqueued => exact .inl waiting_enqueue_le
  | applied | failed => exact .inl le_rfl

theorem countP_set_awaits {calls : List CreateCall} {index : ℕ}
    (found : calls[index]? = some call) (after : CreateCall) :
    (calls.set index after).countP awaits + weight call = calls.countP awaits + weight after := by
  obtain ⟨bound, same⟩ := List.getElem?_eq_some_iff.mp found
  rw [countP_set bound, same]
  have counted : weight call ≤ calls.countP awaits := by
    simp only [weight]
    split_ifs with waits
    · exact countP_pos_iff.mpr ⟨call, mem_of_getElem? found, waits⟩
    · exact zero_le _
  simp only [weight] at counted ⊢
  omega

theorem waiting_change_le (changed : account.change change = some next) : waiting next ≤ waiting account := by
  cases changed_of_change changed with
  | moved | deleted => exact le_rfl
  | dequeued => exact total_remove_le
  | parked inserted =>
    refine (total_insert inserted _).trans_le ?_
    simp [waiting]

theorem queueBounded_step {pool further : Pool Account CreateCall}
    {action : Action CreateCall CreateInput AccountChange} (meets : CountsWaiting policy pool action)
    (taken : (createProgram (some policy)).step pool action = some further)
    (bounded : QueueBounded policy pool) : QueueBounded policy further := by
  intro limit given
  have before := bounded limit given
  cases action with
  | enter call =>
    obtain ⟨⟨req, rfl⟩, rfl⟩ := Program.step_enter _ taken
    simpa [awaits] using before
  | advance index input =>
    obtain ⟨call, store, after, found, stepped, rfl⟩ := Program.step_advance _ taken
    have recount := countP_set_awaits found after
    rcases waiting_step (createStep_of_next stepped) with kept | ⟨same, req, id, rfl, gpu, counted⟩
    · dsimp only
      omega
    · have room := meets _ found gpu counted limit given
      have most : weight after ≤ 1 := by
        simp only [weight]
        split_ifs <;> decide
      dsimp only
      omega
  | outside change =>
    obtain ⟨store, changed, rfl⟩ := Program.step_outside _ taken
    exact (Nat.add_le_add_right (waiting_change_le changed) _).trans before

/-- As long as the requests on their way to the queue are counted with the entries, the user's entries
other than parked ones are within the cap. -/
theorem queue_within_cap {first last : Pool Account CreateCall}
    {actions : List (Action CreateCall CreateInput AccountChange)} (fresh : first.calls = [])
    (new : first.store.queue.rows = [])
    (run : Run (createProgram (some policy)).step (CountsWaiting policy) first actions last) :
    ∀ limit ∈ policy.maxQueued, waiting last.store ≤ limit := by
  have initial : QueueBounded policy first := by
    intro limit _
    have empty : waiting first.store = 0 :=
      total_eq_zero fun row member => absurd (new ▸ member) not_mem_nil
    simp [empty, fresh]
  have bounded : QueueBounded policy last :=
    run.invariant initial fun _ _ _ meets taken bounded => queueBounded_step meets taken bounded
  exact fun limit given => (le_add_right _ _).trans (bounded limit given)

instance (pool : Pool Account CreateCall) : DecidablePred (LeavesRoom policy pool) := fun _ => by
  unfold LeavesRoom
  split <;> infer_instance

instance (pool : Pool Account CreateCall) (action : Action CreateCall CreateInput AccountChange) :
    Decidable (CountsWaiting policy pool action) := by
  unfold CountsWaiting
  split <;> infer_instance

/-- One queue entry, any number of sessions. -/
def oneQueued : EffectivePolicy := { oneOfEach with maxConcurrent := none }

/-- Two requests that find no slice: the second counts before the first has its entry, or after that
entry was promoted. -/
def twoQueued (early : Bool) : List (Action CreateCall CreateInput AccountChange) :=
  let enter := [.enter (.requested halfCard), .enter (.requested halfCard)]
  if early then enter ++ transactions 0 3 ++ transactions 1 3 ++ transactions 0 5 ++ transactions 1 5
  else enter ++ transactions 0 8 ++ [.outside (.dequeue 0)] ++ transactions 1 8

/-- The second waits for the promotion of the first, and takes its place. -/
theorem queue_within_cap_in_turn :
    ∃ last, Run (createProgram (some oneQueued)).step (CountsWaiting oneQueued) noSessions
        (twoQueued false) last ∧ waiting last.store = 1 ∧
      ∀ limit ∈ oneQueued.maxQueued, waiting last.store ≤ limit :=
  exists_run_imp (fun last => waiting last.store = 1) (by decide +kernel) fun _ run one =>
    ⟨one, queue_within_cap rfl rfl run⟩

/-- Both count an empty queue before either has its entry: two entries under a cap of one. -/
theorem queue_cap_overrun :
    ∃ last, Run (createProgram (some oneQueued)).step (fun _ _ => True) noSessions
      (twoQueued true) last ∧ oneQueued.maxQueued = some 1 ∧ waiting last.store = 2 :=
  exists_run_of_execute (by decide +kernel)

end GShare.Soundness.Quota
