import GShare.Model.Session.Quota

/-! # What an admission does to the user's rows

`CreateStep` lists what a transaction of an admission does to the rows and to its own control point, the
lemmas after it say what a passed quota step has counted, and `Account.Changed` lists what everything else
does to the rows.
-/

namespace GShare.Model

open Accounting

variable {account next : Account} {policy : EffectivePolicy} {req : SizeRequest} {id : SessionId}
variable {call after : CreateCall} {input : CreateInput}

/-- Past the quota step of a request for a GPU and not yet placed, queued or failed. -/
def AdmitPoint.awaits : AdmitPoint → Bool
  | .budgeting | .holding | .reserving | .preempting | .borrowing | .checking | .enqueueing => true
  | .validating | .quoting | .applying | .failed => false

variable (policy : Option EffectivePolicy) (account : Account) in
inductive CreateStep : CreateCall → Account → CreateCall → Prop
  | persisted {req : SizeRequest} {id : SessionId} {next : Account}
      (inserted : account.persist id req = some next) :
      CreateStep (.requested req) next (.admitting req id .validating)
  | passed {req : SizeRequest} {id : SessionId} {point : AdmitPoint}
      (within : account.quota id policy req = .ok ())
      (awaits : point.awaits → req.resourceClass = .gpu) :
      CreateStep (.admitting req id .quoting) (account.markPassed id)
        (.admitting req id point)
  | moved {req : SizeRequest} {id : SessionId} {point further : AdmitPoint}
      (awaits : further.awaits → point.awaits) :
      CreateStep (.admitting req id point) account (.admitting req id further)
  | enqueued {req : SizeRequest} {id : SessionId} :
      CreateStep (.admitting req id .enqueueing) (account.enqueue id) .finished
  | applied {req : SizeRequest} {id : SessionId} :
      CreateStep (.admitting req id .applying) account .finished
  | failed {req : SizeRequest} {id : SessionId} :
      CreateStep (.admitting req id .failed) (account.markFailed id) .finished

theorem createStep_of_next {policy : Option EffectivePolicy}
    (taken : call.next policy account input = some (next, after)) : CreateStep policy account call next after := by
  cases call with
  | requested req =>
    obtain ⟨persisted, inserted, same⟩ := Option.map_eq_some_iff.mp taken
    cases same
    exact .persisted inserted
  | admitting req id point =>
    cases point with
    | quoting =>
      simp only [CreateCall.next] at taken
      split at taken
      · cases taken
        exact .moved (by decide)
      · rename_i counted
        cases taken
        refine .passed counted fun awaits => ?_
        cases given : req.resourceClass with
        | gpu => rfl
        | cpu =>
          rw [given] at awaits
          split_ifs at awaits <;> cases awaits
    | enqueueing =>
      cases taken
      exact .enqueued
    | failed =>
      cases taken
      exact .failed
    | applying =>
      simp only [CreateCall.next] at taken
      split_ifs at taken
      · cases taken
        exact .applied
      · cases taken
        exact .moved (by decide)
    | validating =>
      cases taken
      refine .moved ?_
      split_ifs <;> decide
    | budgeting | holding | reserving | preempting | borrowing | checking =>
      cases taken
      exact .moved fun _ => rfl
  | finished => cases taken

namespace Account

theorem lt_of_checkCap {cap : Option ℕ} {count : ℕ} {exceeded : ℕ → ℕ → QuotaExceeded}
    (passed : checkCap cap count exceeded = .ok ()) : ∀ limit ∈ cap, count < limit := by
  rintro limit ⟨⟩
  simp only [checkCap] at passed
  split_ifs at passed with reached
  exact Nat.lt_of_not_le reached

theorem sum_le_of_checkResourceSum (passed : account.checkResourceSum id policy req = .ok ())
    (resource : Resource) (limited : 0 < policy.limits resource) :
    account.activeSum id (fun row => (row.size resource).getD 0) + requestedSize req resource
      ≤ policy.limits resource := by
  simp only [checkResourceSum] at passed
  split at passed
  · rename_i none
    have every : resource ∈ Resource.all := by cases resource <;> decide
    have within := List.find?_eq_none.mp none resource every
    simp only [limited, true_and, decide_eq_true_eq] at within
    exact Nat.le_of_not_lt within
  · cases passed

theorem passed_of_bind {check rest : Except QuotaExceeded Unit}
    (passed : (check >>= fun _ => rest) = .ok ()) : check = .ok () ∧ rest = .ok () := by
  cases check with
  | error => cases passed
  | ok => exact ⟨rfl, passed⟩

/-- The counts that a passed quota step has seen below their caps. -/
structure Within (account : Account) (id : SessionId) (policy : EffectivePolicy) (req : SizeRequest) :
    Prop where
  concurrent : ∀ limit ∈ policy.maxConcurrent, account.countActive id < limit
  sums : ∀ resource, 0 < policy.limits resource →
    account.activeSum id (fun row => (row.size resource).getD 0) + requestedSize req resource
      ≤ policy.limits resource

theorem within_of_quota (passed : account.quota id (some policy) req = .ok ()) :
    account.Within id policy req := by
  cases given : req.resourceClass with
  | gpu =>
    simp only [quota, given, checkQuota] at passed
    obtain ⟨concurrent, passed⟩ := passed_of_bind passed
    obtain ⟨-, sums⟩ := passed_of_bind passed
    exact ⟨lt_of_checkCap concurrent, sum_le_of_checkResourceSum sums⟩
  | cpu =>
    simp only [quota, given, checkCpuQuota] at passed
    obtain ⟨concurrent, passed⟩ := passed_of_bind passed
    obtain ⟨-, sums⟩ := passed_of_bind passed
    exact ⟨lt_of_checkCap concurrent, sum_le_of_checkResourceSum sums⟩

/-- What something else than an admission does to the rows. -/
inductive Changed (account : Account) : Account → Prop
  | moved {id : SessionId} {status : Status} {row : OwnedSession}
      (present : account.sessions.find? id = some row)
      (stays : status.isActive → row.status.isActive) :
      Changed account (account.reviseSession id (fun row => { row with status := status }) fun _ => rfl)
  | deleted {id : SessionId} :
      Changed account (account.reviseSession id (fun row => { row with deleted := true }) fun _ => rfl)
  | dequeued {id : SessionId} : Changed account { account with queue := account.queue.remove id }
  | parked {id : SessionId} {queue : Roster QueueEntry.session}
      (inserted : account.queue.insert ⟨id, true⟩ = some queue) :
      Changed account { account with queue := queue }

theorem changed_of_change {change : AccountChange} (changed : account.change change = some next) :
    account.Changed next := by
  cases change with
  | move id status =>
    simp only [Account.change] at changed
    split at changed
    · cases changed
    · rename_i row present
      split_ifs at changed with stays
      cases changed
      exact .moved present stays
  | delete id =>
    cases changed
    exact .deleted
  | dequeue id =>
    cases changed
    exact .dequeued
  | park id =>
    obtain ⟨queue, inserted, rfl⟩ := Option.map_eq_some_iff.mp changed
    exact .parked inserted

end Account

/-- The sum check adds what the row of the request holds. -/
theorem requestedSize_eq (req : SizeRequest) (resource : Resource) :
    requestedSize req resource = (persistedSize req resource).getD 0 := by
  cases resource with
  | gpuMemMb | gpuCores => rfl
  | cpu => cases given : req.cpu <;> simp [requestedSize, persistedSize, given]
  | memGb => cases given : req.memGb <;> simp [requestedSize, persistedSize, given]
  | storageGb => cases given : req.diskGb <;> simp [requestedSize, persistedSize, given]

end GShare.Model
