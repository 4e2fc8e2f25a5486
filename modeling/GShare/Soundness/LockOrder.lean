import GShare.Model.Credit.Locks

/-! # Wallet locks and deadlock

Most transactions lock wallets in ascending order of their ids. A bulk allocation and a credit sent along
with a membership lock the wallet of the group before those of the members, and the welcome credit locks
the member's first. As long as these ask upward too, no cycle of waiting transactions is reached.
-/

namespace GShare.Soundness.LockOrder

open GShare.Model Machine WalletCall List

/-- The calls that lock the wallet of a group next to those of its members, in an order of their own. -/
def OwnOrder : WalletCall → Prop
  | .bulkAllocate _ | .addMembership _ _ _ => True
  | .transfer _ _ _ | .allocate _ _ _ | .approveAllocationRequest _ | .bulkMonthlyGrant _ | .sweep _
  | .hold _ _ | .consume _ _ _ | .settle _ _ => False

/-- The other calls rise. -/
def Rises (call : WalletCall) : Prop := ¬ OwnOrder call

theorem lockWallet_sorted (wallet : WalletId) (bank : Bank) : (bank.lockWallet wallet).Pairwise (· ≤ ·) := by
  unfold Bank.lockWallet
  split_ifs
  · exact pairwise_singleton _ _
  · exact .nil

theorem mem_lockWallet {wallet other : WalletId} {bank : Bank} (member : other ∈ bank.lockWallet wallet) :
    other = wallet := by
  unfold Bank.lockWallet at member
  split_ifs at member
  · exact mem_singleton.mp member
  · cases member

theorem lockBoth_rising (source target : WalletId) : Rising (Bank.lockBoth source target) := by
  refine .pair (lockWallet_sorted _) (lockWallet_sorted _) fun _ _ low first high second => ?_
  rw [mem_lockWallet first, mem_lockWallet second]
  exact min_le_max

/-- Every call but the two locks wallets in ascending order. -/
theorem plan_rising (call : WalletCall) (bank : Bank) (rises : Rises call) : Rising (call.plan bank) := by
  cases call with
  | transfer source target idem | allocate source target idem =>
    simp only [plan]
    split_ifs
    · exact .nil
    · exact lockBoth_rising source target
  | approveAllocationRequest req =>
    simp only [plan]
    split
    · exact .nil
    · next asked _ =>
      split_ifs
      · unfold Bank.lockRequest
        split
        · exact .single (lockWallet_sorted _)
        · exact .nil
        · exact lockBoth_rising _ _
      · exact .nil
  | bulkAllocate group | addMembership group user grant => exact absurd trivial rises
  | bulkMonthlyGrant group => exact .single fun bank => pairwise_insertionSort _ _
  | sweep lastId => exact .single fun bank => (pairwise_insertionSort _ _).sublist (take_sublist _ _)
  | hold wallet sess | consume wallet sess bucket | settle wallet sess =>
    simp only [plan]
    split_ifs
    · exact .nil
    · exact .single (lockWallet_sorted _)

/-- In every run in which bulk allocations and membership grants ask for wallets above those they hold, no
transactions wait for each other in a circle. -/
theorem not_deadlocked_of_asksUpward {steps : List (LockStep WalletCall Bank)}
    {pool : List (Transaction WalletCall Bank WalletId)}
    (run : Run (lockStep plan) (AsksUpward Rises) [] steps pool) : ¬ Deadlocked pool :=
  run.not_deadlocked plan_rising

def oneMember (groupWallet memberWallet : WalletId) : Bank where
  ledger := {
    wallet := fun id =>
      if id = groupWallet then some ⟨.group, 1, 1000, 0, 0⟩
      else if id = memberWallet then some ⟨.user, 7, 1000, 0, 0⟩ else none
    txns := [] }
  walletIds := [min groupWallet memberWallet, max groupWallet memberWallet]
  members group := if group = 1 then [7] else []
  liveGroup _ := true
  defaultMemberCredit _ := 0
  allocationRequests _ := none
  topupRequests _ := none

/-- A bulk allocation takes the wallet of the group and a transfer the lower of the two; then both ask for the
other one. -/
def crossing (bank : Bank) (source target : WalletId) : List (LockStep WalletCall Bank) :=
  [.enter (.bulkAllocate 1) bank, .enter (.transfer source target "k") bank, .ask 0 bank, .acquire 0,
    .ask 1 bank]

theorem crossing_upward : ∃ pool, Run (lockStep plan) (AsksUpward Rises) []
        (crossing (oneMember 2 3) 2 3 ++ [.ask 0 (oneMember 2 3)]) pool ∧ ¬ Deadlocked pool := by
  obtain ⟨pool, run⟩ : ∃ pool, Run (lockStep plan) (AsksUpward Rises) []
      (crossing (oneMember 2 3) 2 3 ++ [.ask 0 (oneMember 2 3)]) pool := by
    refine ⟨_, .cons trivial rfl (.cons trivial rfl (.cons ?_ rfl (.cons trivial rfl (.cons ?_ rfl
      (.cons ?_ rfl (.nil _))))))⟩
    · rintro _ _ _ _ ⟨⟩ -
      exact .nil (pairwise_singleton _ _)
    · rintro _ _ _ _ ⟨⟩ own
      exact absurd not_false own
    · rintro _ _ _ _ ⟨⟩ -
      exact ⟨pairwise_singleton _ _, by decide⟩
  exact ⟨pool, run, not_deadlocked_of_asksUpward run⟩

/-- The wallet of the member is the older one, so the bulk allocation asks downward. -/
theorem crossing_deadlocks : ∃ pool, Run (lockStep plan) (fun _ _ => True) []
        (crossing (oneMember 5 3) 5 3 ++ [.acquire 1, .ask 0 (oneMember 5 3), .ask 1 (oneMember 5 3)]) pool ∧
      Deadlocked pool := by
  refine ⟨_, run_of_execute rfl, 0, ?_⟩
  refine .tail (b := 1) (.single ?_) ?_
  · exact ⟨_, _, 3, [], rfl, rfl, rfl, (by decide : 3 ∉ [5]), mem_singleton.mpr rfl⟩
  · exact ⟨_, _, 5, [], rfl, rfl, rfl, (by decide : 5 ∉ [3]), mem_singleton.mpr rfl⟩

end GShare.Soundness.LockOrder
