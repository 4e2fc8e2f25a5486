import GShare.Proofs.Credit.Keys
import GShare.Soundness.Samples
import GShare.ToMathlib.Basic
import Mathlib.Tactic.DeriveCountable

/-! # What the choice of an idempotency key can do

Callers choose the keys they send. Two histories that differ only in these choices, one as the callers made
them and one with fresh keys, go the same way operation by operation, as long as the two endpoints that store
a key as it was sent are not sent one that the server builds for something else and not the same one.
-/

namespace GShare.Soundness.ClientKeys

open GShare.Model Ledger Samples List Function Bank IdemKey

/-- Fresh keys in the place of those that the callers sent: an endpoint gets one text for each key, and no
two endpoints that share a namespace get the same. -/
structure FreshKeys where
  topup : IdemKey → String
  adjust : IdemKey → String
  transfer : String → String
  allocate : String → String
  bulkAllocate : String → String
  topup_injective : Injective topup
  adjust_injective : Injective adjust
  transfer_injective : Injective transfer
  allocate_injective : Injective allocate
  bulkAllocate_injective : Injective bulkAllocate
  apart : ∀ key other, topup key ≠ adjust other

/-- The operation as if its caller had chosen a fresh key. -/
def FreshKeys.op (fresh : FreshKeys) : CreditOp → CreditOp
  | .topup wallet value note idem permitted stamp =>
      .topup wallet value note (idem.map fun key => .client (fresh.topup key)) permitted stamp
  | .adjust wallet value reason idem permitted stamp =>
      .adjust wallet value reason (idem.map fun key => .client (fresh.adjust key)) permitted stamp
  | .transfer source target value idem permitted inScope stamp =>
      .transfer source target value (idem.map fresh.transfer) permitted inScope stamp
  | .allocate source target value idem inScope stamp =>
      .allocate source target value (idem.map fresh.allocate) inScope stamp
  | .bulkAllocate group value idem permitted stamp =>
      .bulkAllocate group value (idem.map fresh.bulkAllocate) permitted stamp
  | op => op

/-- A transaction row without its key. -/
def unkeyed (txn : Txn) : WalletId × TxnType × ℤ × ℤ × Option Ref × ℤ :=
  (txn.walletId, txn.type, txn.amount, txn.balanceAfter, txn.ref, txn.createdAt)

/-- Everything is the same but for the keys of the rows. -/
structure Agree (bank other : Bank) : Prop where
  wallet : bank.ledger.wallet = other.ledger.wallet
  rows : bank.ledger.txns.map unkeyed = other.ledger.txns.map unkeyed
  walletIds : bank.walletIds = other.walletIds
  members : bank.members = other.members
  liveGroup : bank.liveGroup = other.liveGroup
  defaultMemberCredit : bank.defaultMemberCredit = other.defaultMemberCredit
  allocationRequests : bank.allocationRequests = other.allocationRequests
  topupRequests : bank.topupRequests = other.topupRequests

theorem Agree.refl (bank : Bank) : Agree bank bank := ⟨rfl, rfl, rfl, rfl, rfl, rfl, rfl, rfl⟩

inductive SameOutcome : Except CreditError Bank → Except CreditError Bank → Prop
  | refused (error : CreditError) : SameOutcome (.error error) (.error error)
  | done {bank other : Bank} (agree : Agree bank other) : SameOutcome (.ok bank) (.ok other)

/-- How each of the operations ends, one after the other. -/
def outcomes (bank : Bank) : List CreditOp → List (Except CreditError Bank)
  | [] => []
  | op :: ops => (op.run bank).result :: outcomes (bank.apply op) ops

/-- The key that a top-up sends. -/
def topupKey : CreditOp → Option IdemKey
  | .topup _ _ _ idem _ _ => idem
  | _ => none

def adjustKey : CreditOp → Option IdemKey
  | .adjust _ _ _ idem _ _ => idem
  | _ => none

/-- The raw keys are of the callers' own, none of them the server's, and none goes to both endpoints. -/
structure OwnKeys (ops : List CreditOp) : Prop where
  topup : ∀ op ∈ ops, ∀ key ∈ topupKey op, ∃ text, key = .client text
  adjust : ∀ op ∈ ops, ∀ key ∈ adjustKey op, ∃ text, key = .client text
  apart : ∀ op ∈ ops, ∀ other ∈ ops, ∀ key ∈ topupKey op, key ∉ adjustKey other

/-- Whether an adjustment of the history sends the key. -/
def adjusts (ops : List CreditOp) (key : IdemKey) : Bool := ops.any (adjustKey · = some key)

def freshName (fresh : FreshKeys) (ops : List CreditOp) : IdemKey → IdemKey
  | .client text =>
      .client (if adjusts ops (.client text) then fresh.adjust (.client text) else fresh.topup (.client text))
  | .transfer text leg => .transfer (fresh.transfer text) leg
  | .allocate text leg => .allocate (fresh.allocate text) leg
  | .bulkAlloc text target leg => .bulkAlloc (fresh.bulkAllocate text) target leg
  | key => key

variable {fresh : FreshKeys} {ops : List CreditOp}
variable {op : CreditOp}

theorem freshName_injective : Injective (freshName fresh ops) := by
  intro key other same
  cases key <;> cases other <;> simp only [freshName, reduceCtorEq] at same
  case client.client text another =>
    rw [client.injEq] at same
    split_ifs at same
    · exact fresh.adjust_injective same
    · exact absurd same.symm (fresh.apart _ _)
    · exact absurd same (fresh.apart _ _)
    · exact fresh.topup_injective same
  case transfer.transfer =>
    rw [transfer.injEq, fresh.transfer_injective.eq_iff] at same
    rw [same.1, same.2]
  case allocate.allocate =>
    rw [allocate.injEq, fresh.allocate_injective.eq_iff] at same
    rw [same.1, same.2]
  case bulkAlloc.bulkAlloc =>
    rw [bulkAlloc.injEq, fresh.bulkAllocate_injective.eq_iff] at same
    rw [same.1, same.2.1, same.2.2]
  all_goals exact same

def toFresh (fresh : FreshKeys) (ops : List CreditOp) : Renaming where
  key := freshName fresh ops
  transfer := fresh.transfer
  allocate := fresh.allocate
  bulkAlloc := fresh.bulkAllocate
  injective := freshName_injective
  serial key := by cases key <;> rfl
  built key built := by cases key <;> first | rfl | cases built
  transfer_key _ _ := rfl
  allocate_key _ _ := rfl
  bulkAlloc_key _ _ _ := rfl

/-- On a history with keys of the callers' own, fresh keys are a change of names. -/
theorem op_eq_renamed (own : OwnKeys ops) (member : op ∈ ops) : fresh.op op = op.renamed (toFresh fresh ops) := by
  cases op with
  | topup wallet value note idem permitted stamp =>
    cases idem with
    | none => rfl
    | some key =>
      obtain ⟨text, rfl⟩ := own.topup _ member key rfl
      have unadjusted : adjusts ops (.client text) = false := by
        rw [Bool.eq_false_iff]
        intro adjusted
        obtain ⟨other, among, sends⟩ := any_eq_true.mp adjusted
        exact own.apart _ member other among _ rfl (of_decide_eq_true sends)
      simp [FreshKeys.op, CreditOp.renamed, toFresh, freshName, unadjusted]
  | adjust wallet value reason idem permitted stamp =>
    cases idem with
    | none => rfl
    | some key =>
      obtain ⟨text, rfl⟩ := own.adjust _ member key rfl
      have adjusted : adjusts ops (.client text) :=
        any_eq_true.mpr ⟨_, member, decide_eq_true rfl⟩
      simp [FreshKeys.op, CreditOp.renamed, toFresh, freshName, adjusted]
  | _ => rfl

theorem agree_renamed (change : Renaming) (bank : Bank) : Agree bank (bank.renamed change) where
  wallet := rfl
  rows := by simp [Ledger.renamed, comp_def, unkeyed, Txn.renamed]
  walletIds := rfl
  members := rfl
  liveGroup := rfl
  defaultMemberCredit := rfl
  allocationRequests := rfl
  topupRequests := rfl

/-- Operations under new names, from tables under new names. -/
theorem outcomes_renamed (change : Renaming) (rest : List CreditOp) (bank : Bank) :
    Forall₂ SameOutcome (outcomes bank rest)
      (outcomes (bank.renamed change) (rest.map (CreditOp.renamed change))) := by
  induction rest generalizing bank with
  | nil => exact .nil
  | cons op rest ih =>
    have later := ih (bank.apply op)
    rw [← CreditOp.apply_renamed] at later
    refine .cons ?_ later
    rw [CreditOp.run_renamed, Tx.renamed]
    cases (op.run bank).result with
    | error error => exact .refused error
    | ok next => exact .done (agree_renamed change next)

/-- The outcome of every operation of a history from an empty ledger is the same as if the callers had chosen
fresh keys. -/
theorem outcomes_same_of_ownKeys (fresh : FreshKeys) (bank : Bank) (ops : List CreditOp)
    (empty : bank.ledger.txns = []) (own : OwnKeys ops) :
    Forall₂ SameOutcome (outcomes bank ops) (outcomes bank (ops.map fresh.op)) := by
  have start : bank.renamed (toFresh fresh ops) = bank := by
    simp only [Bank.renamed, Ledger.renamed, empty, map_nil]
    rw [← empty]
  have history : ops.map fresh.op = ops.map (CreditOp.renamed (toFresh fresh ops)) :=
    map_congr_left fun op member => op_eq_renamed own member
  rw [history]
  have same := outcomes_renamed (toFresh fresh ops) ops bank
  rwa [start] at same

deriving instance Countable for GShare.Model.Leg
deriving instance Countable for GShare.Model.TxnType
deriving instance Countable for GShare.Model.IdemKey

/-- A text of a given length. -/
def unary (count : ℕ) : String := String.ofList (replicate count 'k')

theorem unary_injective : Injective unary := by
  intro count other same
  simpa [unary] using congrArg String.length same

noncomputable def number (key : IdemKey) : ℕ := (exists_injective_nat IdemKey).choose key

theorem number_injective : Injective number := (exists_injective_nat IdemKey).choose_spec

/-- Top-ups get texts of even length and adjustments of odd length. -/
noncomputable def numbered : FreshKeys where
  topup key := unary (2 * number key)
  adjust key := unary (2 * number key + 1)
  transfer := id
  allocate := id
  bulkAllocate := id
  topup_injective key other same := by
    have lengths := unary_injective same
    exact number_injective (by omega)
  adjust_injective key other same := by
    have lengths := unary_injective same
    exact number_injective (by omega)
  transfer_injective := injective_id
  allocate_injective := injective_id
  bulkAllocate_injective := injective_id
  apart key other same := by
    have lengths := unary_injective same
    omega

/-- One funded wallet and nothing else. -/
def till : Bank where
  ledger := hundredCredits
  walletIds := [0]
  members _ := []
  liveGroup _ := false
  defaultMemberCredit _ := 0
  allocationRequests _ := none
  topupRequests _ := none

/-- A top-up under a raw key, then a hold for a session. -/
def topupThenHold (key : IdemKey) : List CreditOp :=
  [.topup 0 1 none (some key) true 0, .hold 0 7 tenCredits 0]

theorem plain_key_harmless : OwnKeys (topupThenHold (.client "order-1")) ∧
      Forall₂ SameOutcome (outcomes till (topupThenHold (.client "order-1")))
        (outcomes till ((topupThenHold (.client "order-1")).map numbered.op)) := by
  have own : OwnKeys (topupThenHold (.client "order-1")) := by
    refine ⟨?_, ?_, ?_⟩ <;> simp [topupThenHold, topupKey, adjustKey]
  exact ⟨own, outcomes_same_of_ownKeys numbered till _ rfl own⟩

/-- Two histories that go the same way end with the same tables. -/
theorem agree_of_outcomes {bank other : Bank} {others : List CreditOp} (agree : Agree bank other)
    (same : Forall₂ SameOutcome (outcomes bank ops) (outcomes other others)) :
    Agree (ops.foldl apply bank) (others.foldl apply other) := by
  induction ops generalizing bank other others with
  | nil =>
    cases others with
    | nil => exact agree
    | cons => cases same
  | cons op ops ih =>
    cases others with
    | nil => cases same
    | cons another others =>
      obtain ⟨first, later⟩ := forall₂_cons.mp same
      have next : Agree (bank.apply op) (other.apply another) := by
        rw [apply, apply]
        generalize (op.run bank).result = result at first
        generalize (another.run other).result = answer at first
        cases first with
        | refused => exact agree
        | done next => exact next
      rw [foldl_cons, foldl_cons]
      exact ih next later

def reservedAfter (ops : List CreditOp) : Option ℤ :=
  ((ops.foldl apply till).ledger.wallet 0).map (·.reserved)

theorem reserved_of_forged : reservedAfter (topupThenHold (.hold 7)) = some 0 := by decide +kernel

theorem reserved_of_plain (text : String) : reservedAfter (topupThenHold (.client text)) = some 1000 := by
  have paid : positiveCredit 1 = some 100 := by decide +kernel
  have quoted : round2 tenCredits.value = 1000 := by decide +kernel
  simp [reservedAfter, topupThenHold, apply, CreditOp.run, topup, Tx.gated, Tx.insert, Tx.write, paid,
    till, hundredCredits, credit, record, txnExists, post, Ledger.hold,
    keyedAtomic, quoted]

/-- A top-up under the key of a session's hold makes that hold look applied: nothing is reserved, where the
same calls with any fresh key reserve the amount. -/
theorem forged_key_disables_hold : till.ledger.txns = [] ∧ ∀ fresh : FreshKeys,
      ¬Forall₂ SameOutcome (outcomes till (topupThenHold (.hold 7)))
        (outcomes till ((topupThenHold (.hold 7)).map fresh.op)) := by
  refine ⟨rfl, fun fresh same => ?_⟩
  have wallets := (agree_of_outcomes (.refl till) same).wallet
  have reserved : reservedAfter (topupThenHold (.hold 7))
      = reservedAfter (topupThenHold (.client (fresh.topup (.hold 7)))) := by
    rw [reservedAfter, wallets]
    rfl
  rw [reserved_of_forged, reserved_of_plain] at reserved
  exact absurd reserved (by decide)

end GShare.Soundness.ClientKeys
