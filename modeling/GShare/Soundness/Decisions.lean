import GShare.Model.Credit.Requests
import GShare.Proofs.Credit.Writers

/-! # One decision for each credit request

Approvals of one request exclude each other: they share the locks of the wallets, and the keys of their
transaction rows are made from the request alone. A rejection takes part in neither. It looks at the
status once, without a lock, and overwrites whatever the row says by the time it gets it.
-/

namespace GShare.Soundness.Decisions

open GShare.Model Machine Ledger Option

variable {bank : Bank} {req : RequestId} {asked : Asked} {stamp : ℤ} {ledger : Ledger}
variable {store next : Decision} {after first : Ledger} {place other : ℕ} {call : DecisionCall}

/-- The key of the row that credits the target of the request. -/
def paidKey (req : RequestId) : Asked → IdemKey
  | .topup _ => .topupRequest req
  | .allocation asked =>
      if asked.scope = .system then .allocRequest req else .allocRequestLeg req .incoming

def moved (req : RequestId) (asked : Asked) (ledger : Ledger) : ℤ :=
  ledger.total (·.key == paidKey req asked)

structure Pays (req : RequestId) (asked : Asked) (before after : Ledger) : Prop where
  free : before.txnExists (paidKey req asked) = false
  taken : after.txnExists (paidKey req asked)
  amount : moved req asked after = moved req asked before + asked.amount

theorem pays_credit {wallet : WalletId} {row : Wallet} {ref : Option Ref}
    (credited : ledger.credit wallet row .topup asked.amount ref (paidKey req asked) stamp = some after) :
    Pays req asked ledger after := by
  obtain ⟨free, rfl⟩ := (record_eq_some ..).mp credited
  refine ⟨free, by simp, ?_⟩
  simp only [moved, total_post, beq_self_eq_true, if_true]
  omega

theorem pays_legs {source target : WalletId} {sourceRow targetRow : Wallet} {refs : Leg → Option Ref}
    (key : paidKey req asked = .allocRequestLeg req .incoming)
    (made : ledger.legs source target sourceRow targetRow asked.amount refs (.allocRequestLeg req) stamp =
      some after) : Pays req asked ledger after := by
  simp only [legs, bind_eq_bind, bind_eq_some_iff] at made
  obtain ⟨middle, out, made⟩ := made
  obtain ⟨-, rfl⟩ := (record_eq_some ..).mp out
  obtain ⟨free, rfl⟩ := (record_eq_some ..).mp made
  rw [post_txnExists, Bool.or_eq_false_iff] at free
  refine ⟨key ▸ free.2, by simp [key], ?_⟩
  simp only [moved, key, total_post, beq_self_eq_true, if_true, beq_iff_eq,
    IdemKey.allocRequestLeg.injEq, reduceCtorEq, and_false, if_false]
  omega

/-- Whatever kind of request it is, a payment pays it. -/
theorem payment_pays (paid : bank.payment req asked stamp = some after) :
    Pays req asked bank.ledger after := by
  cases asked with
  | topup asked =>
    obtain ⟨row, -, credited⟩ := bind_eq_some_iff.mp paid
    exact pays_credit credited
  | allocation asked =>
    simp only [Bank.payment] at paid
    split at paid
    next row noPool found =>
      have system : asked.scope = .system := by
        cases scope : asked.scope <;> simp_all [Bank.poolOf, FulfillerScope.tier]
      exact pays_credit (by rw [paidKey, if_pos system]; exact paid)
    next source sourceRow targetRow pool found =>
      have key : paidKey req (.allocation asked) = .allocRequestLeg req .incoming := by
        refine if_neg fun system => ?_
        simp [Bank.poolOf, FulfillerScope.tier, system] at pool
      split_ifs at paid <;> exact pays_legs key paid
    next => cases paid

section

variable (bank req asked)

/-- Some payment leads from one ledger to another. -/
def Paid (before after : Ledger) : Prop :=
  ∃ stamp, ({ bank with ledger := before } : Bank).payment req asked stamp = some after

/-- No credit moved and the request is not approved, or the request was paid once and is approved. -/
inductive Consistent (first : Ledger) (store : Decision) : Prop
  | unpaid (none_moved : store.moves = 0) (same : store.ledger = first) (status : store.status ≠ .approved)
  | paid (once : store.moves = 1) (paid : Paid bank req asked first store.ledger)
      (status : store.status = .approved)

/-- What a call holds while it stands at a point. -/
def Holds (store : Decision) (place : ℕ) : DecisionCall → Prop
  | .paying => store.walletLock = some place
  | .paid ledger => store.walletLock = some place ∧ store.rowLock = some place ∧
      Paid bank req asked store.ledger ledger
  | .marked => store.rowLock = some place ∧ store.status ≠ .approved
  | .approve | .locking | .reject | .marking | .returned => True

variable (place : ℕ) (store : Decision) in
inductive Stepped : DecisionCall → Decision → DecisionCall → Prop
  | approving (after : DecisionCall) (point : after = .locking ∨ after = .returned) :
      Stepped .approve store after
  | locked (free : store.walletLock = none) :
      Stepped .locking { store with walletLock := some place } .paying
  | failed : Stepped .paying { store with walletLock := none } .returned
  | wrote (ledger : Ledger) (payment : Paid bank req asked store.ledger ledger) (free : store.rowLock = none) :
      Stepped .paying { store with rowLock := some place } (.paid ledger)
  | committed (ledger : Ledger) : Stepped (.paid ledger)
      ⟨ledger, .approved, none, none, store.moves + 1⟩ .returned
  | undone (ledger : Ledger) : Stepped (.paid ledger)
      { store with walletLock := none, rowLock := none } .returned
  | rejecting (after : DecisionCall) (point : after = .marking ∨ after = .returned) :
      Stepped .reject store after
  | marked (free : store.rowLock = none) :
      Stepped .marking { store with rowLock := some place } .marked
  | rejected : Stepped .marked
      { store with status := .rejected, rowLock := none } .returned
  | unmarked : Stepped .marked { store with rowLock := none } .returned

end

theorem Paid.pays {before : Ledger} (paid : Paid bank req asked before after) :
    Pays req asked before after := by
  obtain ⟨stamp, paid⟩ := paid
  exact payment_pays paid

/-- A rejection that gets the row of the request does not find it approved in the meantime. -/
def MarksOpen (pool : Pool Decision DecisionCall) : Action DecisionCall DecisionInput Empty → Prop
  | .advance index _ => pool.calls[index]? = some .marking → pool.store.status ≠ .approved
  | .enter _ | .outside _ => True

theorem Consistent.paid_once (consistent : Consistent bank req asked first store)
    (paying : Paid bank req asked store.ledger after) :
    store.moves = 0 ∧ Paid bank req asked first after := by
  cases consistent with
  | unpaid none_moved same status => exact ⟨none_moved, same ▸ paying⟩
  | paid once paid status =>
    have taken := paid.pays.taken
    rw [paying.pays.free] at taken
    cases taken

theorem stepped_of_next {after : DecisionCall} {input : DecisionInput}
    (taken : call.next bank req asked place store input = some (next, after)) :
    Stepped bank req asked place store call next after := by
  cases call with
  | approve =>
    cases taken
    exact .approving _ (by split_ifs <;> simp)
  | locking =>
    simp only [DecisionCall.next] at taken
    split_ifs at taken with free
    cases taken
    exact .locked free
  | paying =>
    simp only [DecisionCall.next] at taken
    split at taken
    · cases taken
      exact .failed
    · split at taken
      · cases taken
        exact .failed
      · next ledger payment =>
        split_ifs at taken with free
        cases taken
        exact .wrote ledger ⟨_, payment⟩ free
  | paid ledger =>
    simp only [DecisionCall.next] at taken
    split_ifs at taken
    · cases taken
      exact .committed ledger
    · cases taken
      exact .undone ledger
  | reject =>
    cases taken
    exact .rejecting _ (by split_ifs <;> simp)
  | marking =>
    simp only [DecisionCall.next] at taken
    split_ifs at taken with free
    cases taken
    exact .marked free
  | marked =>
    simp only [DecisionCall.next] at taken
    split_ifs at taken
    · cases taken
      exact .rejected
    · cases taken
      exact .unmarked
  | returned => cases taken

theorem Consistent.locks (consistent : Consistent bank req asked first store) (walletLock rowLock : Option ℕ) :
    Consistent bank req asked first { store with walletLock := walletLock, rowLock := rowLock } := by
  cases consistent with
  | unpaid none_moved same status => exact .unpaid none_moved same status
  | paid once paid status => exact .paid once paid status

section

variable {after : DecisionCall} (stepped : Stepped bank req asked place store call next after)
variable (holds : Holds bank req asked store place call)

include stepped holds

/-- The step of a call, as far as the tables go and as far as its own point goes. -/
theorem own_step (meets : call = .marking → store.status ≠ .approved)
    (consistent : Consistent bank req asked first store) :
    Consistent bank req asked first next ∧ Holds bank req asked next place after := by
  cases stepped with
  | approving _ point | rejecting _ point =>
    refine ⟨consistent, ?_⟩
    rcases point with rfl | rfl <;> trivial
  | locked free => exact ⟨consistent.locks _ _, rfl⟩
  | failed | undone ledger | unmarked => exact ⟨consistent.locks _ _, trivial⟩
  | wrote ledger payment free => exact ⟨consistent.locks _ _, holds, rfl, payment⟩
  | committed ledger =>
    obtain ⟨none_moved, paid⟩ := consistent.paid_once holds.2.2
    exact ⟨.paid (by rw [none_moved]) paid rfl, trivial⟩
  | marked free => exact ⟨consistent.locks _ _, rfl, meets rfl⟩
  | rejected =>
    cases consistent with
    | unpaid none_moved same status => exact ⟨.unpaid none_moved same RequestStatus.noConfusion, trivial⟩
    | paid once paid status => exact absurd status holds.2

/-- While a call has the locks of the wallets no other changes the ledger, and while it has the row of the
request no other changes the status. -/
theorem frame (differs : other ≠ place) :
    (store.walletLock = some other → next.walletLock = some other ∧ next.ledger = store.ledger) ∧
      (store.rowLock = some other → next.rowLock = some other ∧ next.status = store.status) := by
  have elsewhere : ∀ {lock : Option ℕ}, lock = some place → lock ≠ some other := by
    rintro _ rfl same
    exact differs (some.inj same).symm
  have nowhere : ∀ {lock : Option ℕ}, lock = none → lock ≠ some other := by
    rintro _ rfl same
    cases same
  cases stepped with
  | approving | rejecting => exact ⟨fun held => ⟨held, rfl⟩, fun held => ⟨held, rfl⟩⟩
  | locked free => exact ⟨fun held => absurd held (nowhere free), fun held => ⟨held, rfl⟩⟩
  | failed => exact ⟨fun held => absurd held (elsewhere holds), fun held => ⟨held, rfl⟩⟩
  | wrote ledger payment free | marked free =>
    exact ⟨fun held => ⟨held, rfl⟩, fun held => absurd held (nowhere free)⟩
  | committed ledger | undone ledger =>
    obtain ⟨wallets, row, -⟩ := holds
    exact ⟨fun held => absurd held (elsewhere wallets), fun held => absurd held (elsewhere row)⟩
  | rejected | unmarked =>
    exact ⟨fun held => ⟨held, rfl⟩, fun held => absurd held (elsewhere holds.1)⟩

theorem other_step {bystander : DecisionCall} (differs : other ≠ place)
    (held : Holds bank req asked store other bystander) : Holds bank req asked next other bystander := by
  obtain ⟨wallets, row⟩ := frame stepped holds differs
  cases bystander with
  | paying => exact (wallets held).1
  | paid ledger =>
    obtain ⟨walletLock, rowLock, paid⟩ := held
    obtain ⟨kept, same⟩ := wallets walletLock
    exact ⟨kept, (row rowLock).1, same ▸ paid⟩
  | marked =>
    obtain ⟨rowLock, open_⟩ := held
    obtain ⟨kept, same⟩ := row rowLock
    exact ⟨kept, same ▸ open_⟩
  | approve | locking | reject | marking | returned => trivial

end

theorem keeps_consistent (bank : Bank) (req : RequestId) (asked : Asked) (first : Ledger) :
    (decisionProgram bank req asked).Keeps MarksOpen (Consistent bank req asked first)
      (Holds bank req asked) where
  enter := by
    rintro pool call - (rfl | rfl) - <;> trivial
  own := by
    intro pool index input call store after meets found taken consistent holds
    exact own_step (stepped_of_next taken) holds (fun marking => meets (marking ▸ found)) consistent
  others := by
    intro pool index input call store after other bystander _ _ taken _ holds differs _ held
    exact other_step (stepped_of_next taken) holds differs held
  outside := by
    intro _ change
    cases change

/-- Where no rejection overwrites an approval that came in between, at most one approval moves credit, a
rejected request moved none and an approved one moved exactly its amount. -/
theorem decided_once (bank : Bank) (req : RequestId) (asked : Asked) (first : Ledger)
    {pool : Pool Decision DecisionCall} {actions : List (Action DecisionCall DecisionInput Empty)}
    (run : Run (decisionProgram bank req asked).step MarksOpen ⟨.pending first, []⟩ actions pool) :
    pool.store.moves ≤ 1 ∧
      (pool.store.status = .rejected → pool.store.ledger = first ∧ pool.store.moves = 0) ∧
      (pool.store.status = .approved → Paid bank req asked first pool.store.ledger ∧
        moved req asked pool.store.ledger = moved req asked first + asked.amount) := by
  have initial : Consistent bank req asked first (.pending first) := .unpaid rfl rfl RequestStatus.noConfusion
  cases ((keeps_consistent bank req asked first).run_idle run rfl initial).store with
  | unpaid none_moved same status =>
    exact ⟨by omega, fun _ => ⟨same, none_moved⟩, fun approved => absurd approved status⟩
  | paid once paid status =>
    refine ⟨by omega, fun rejected => ?_, fun _ => ⟨paid, paid.pays.amount⟩⟩
    rw [status] at rejected
    cases rejected

def poorMember : Bank where
  ledger := {
    wallet := fun
      | 2 => some ⟨.group, 1, 1000, 0, 0⟩
      | 3 => some ⟨.user, 7, 0, 0, 0⟩
      | _ => none
    txns := [] }
  walletIds := [2, 3]
  members _ := [7]
  liveGroup _ := true
  defaultMemberCredit _ := 0
  allocationRequests _ := none
  topupRequests _ := none

def fourCredits : Asked := .allocation ⟨3, .group, 1, 400, by decide, .pending⟩

/-- A call takes a step that its transaction survives. -/
def goOn (index : ℕ) : Action DecisionCall DecisionInput Empty := .advance index ⟨0, true⟩

theorem approval_alone :
    ∃ pool, Run (decisionProgram poorMember 1 fourCredits).step MarksOpen ⟨.pending poorMember.ledger, []⟩
        [.enter .approve, goOn 0, goOn 0, goOn 0, goOn 0] pool ∧
      pool.store.status = .approved ∧ pool.store.ledger.balance 3 = 400 ∧
      moved 1 fourCredits pool.store.ledger = moved 1 fourCredits poorMember.ledger + 400 := by
  have run : Run (decisionProgram poorMember 1 fourCredits).step MarksOpen ⟨.pending poorMember.ledger, []⟩
      [.enter .approve, goOn 0, goOn 0, goOn 0, goOn 0] _ :=
    .cons trivial rfl (.cons (by rintro ⟨⟩) rfl (.cons (by rintro ⟨⟩) rfl (.cons (by rintro ⟨⟩) rfl
      (.cons (by rintro ⟨⟩) rfl (.nil _)))))
  exact ⟨_, run, rfl, rfl, ((decided_once poorMember 1 fourCredits poorMember.ledger run).2.2 rfl).2⟩

/-- A rejection reads the pending request, an approval runs to its end, and the rejection goes on. -/
theorem rejection_overwrites_approval :
    ∃ pool, Run (decisionProgram poorMember 1 fourCredits).step (fun _ _ => True)
        ⟨.pending poorMember.ledger, []⟩
        [.enter .reject, .enter .approve, goOn 0, goOn 1, goOn 1, goOn 1, goOn 1, goOn 0, goOn 0] pool ∧
      pool.store.status = .rejected ∧ pool.store.ledger.balance 3 = 400 ∧ poorMember.ledger.balance 3 = 0 := by
  refine ⟨_, run_of_execute rfl, rfl, rfl, rfl⟩

end GShare.Soundness.Decisions
