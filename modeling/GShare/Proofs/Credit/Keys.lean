import GShare.Proofs.Credit.Writers

/-! # The names of idempotency keys

A writer only compares keys: it asks whether a row with some key exists and inserts rows under keys it
builds. So every writer commutes with a change of names that keeps different keys different and leaves the
keys that no caller has a part in.
-/

namespace GShare.Model

open Option List Function Ledger Tx

variable {wallet source target : WalletId} {stamp : ℤ} {value : ℚ}

/-- A key without anything that a caller sends. -/
def IdemKey.isBuilt : IdemKey → Bool
  | .client _ | .transfer .. | .allocate .. | .bulkAlloc .. => false
  | _ => true

/-- A change of names of the keys, with the texts that callers of the prefixing endpoints send. -/
structure Renaming where
  key : IdemKey → IdemKey
  transfer : String → String
  allocate : String → String
  bulkAlloc : String → String
  injective : Injective key
  serial : ∀ name, (key name).serial = name.serial
  built : ∀ name, name.isBuilt → key name = name
  transfer_key : ∀ text leg, key (.transfer text leg) = .transfer (transfer text) leg
  allocate_key : ∀ text leg, key (.allocate text leg) = .allocate (allocate text) leg
  bulkAlloc_key : ∀ text target leg, key (.bulkAlloc text target leg) = .bulkAlloc (bulkAlloc text) target leg

def Txn.renamed (change : Renaming) (txn : Txn) : Txn := { txn with key := change.key txn.key }

def Ledger.renamed (change : Renaming) (ledger : Ledger) : Ledger :=
  { ledger with txns := ledger.txns.map (Txn.renamed change) }

def Bank.renamed (change : Renaming) (bank : Bank) : Bank :=
  { bank with ledger := bank.ledger.renamed change }

def Tx.renamed (change : Renaming) (tx : Tx) : Tx :=
  ⟨tx.flushed.map (Ledger.renamed change), tx.result.map (Bank.renamed change)⟩

variable {change : Renaming}
variable {month membership : ℕ} {final : Bool} {outcome : Option Ledger}
variable {batch : List WalletId} {refs : Leg → Option Ref} {keys names : Leg → IdemKey} {bucket : ℤ}
variable {text : String} {op : CreditOp}

namespace Ledger

variable (ledger : Ledger) {row sourceRow targetRow : Wallet}
variable {type : TxnType} {amount now : ℤ} {ref : Option Ref} {key name : IdemKey} {sess : Session}
variable {id : SessionId}

@[simp] theorem renamed_wallet : (ledger.renamed change).wallet = ledger.wallet := rfl

@[simp] theorem renamed_txnExists : (ledger.renamed change).txnExists (change.key key) = ledger.txnExists key := by
  rw [Bool.eq_iff_iff, txnExists_iff, txnExists_iff]
  simp [renamed, Txn.renamed, change.injective.eq_iff]

theorem renamed_txnExists_of_built (key : IdemKey) (built : key.isBuilt) :
    (ledger.renamed change).txnExists key = ledger.txnExists key := by
  conv_lhs => rw [← change.built key built]
  exact ledger.renamed_txnExists

@[simp] theorem renamed_freshSerial : (ledger.renamed change).freshSerial = ledger.freshSerial := by
  have same : (fun txn : Txn => txn.key.serial) ∘ Txn.renamed change = fun txn => txn.key.serial :=
    funext fun txn => change.serial txn.key
  simp [freshSerial, renamed, same]

theorem renamed_post (named : change.key key = name) :
    (ledger.renamed change).post wallet row type amount ref name stamp
      = (ledger.post wallet row type amount ref key stamp).renamed change :=
  named ▸ rfl

theorem renamed_record (named : change.key key = name) :
    (ledger.renamed change).record wallet row type amount ref name stamp
      = (ledger.record wallet row type amount ref key stamp).map (renamed change) := by
  subst named
  simp only [record, renamed_txnExists]
  split_ifs
  · rfl
  · rfl

/-- A sum that looks at anything but the keys. -/
theorem renamed_total {selected : Txn → Bool} (blind : ∀ txn, selected (txn.renamed change) = selected txn) :
    (ledger.renamed change).total selected = ledger.total selected := by
  have same : selected ∘ Txn.renamed change = selected := funext blind
  simp [total, renamed, List.filter_map, same, comp_def, Txn.renamed]

@[simp] theorem renamed_sumConsumed (sess : SessionId) (since : Option ℤ) :
    (ledger.renamed change).sumConsumed wallet sess since = ledger.sumConsumed wallet sess since :=
  congrArg Neg.neg (ledger.renamed_total fun _ => rfl)

@[simp] theorem renamed_sumHeld (sess : SessionId) :
    (ledger.renamed change).sumHeld wallet sess = ledger.sumHeld wallet sess :=
  ledger.renamed_total fun _ => rfl

@[simp] theorem renamed_due : (ledger.renamed change).due wallet sess now = ledger.due wallet sess now := by
  simp [due]

theorem renamed_credit (named : change.key key = name) :
    (ledger.renamed change).credit wallet row type amount ref name stamp
      = (ledger.credit wallet row type amount ref key stamp).map (renamed change) :=
  ledger.renamed_record named

section

variable (named : ∀ leg, change.key (keys leg) = names leg)

include named

theorem renamed_legs :
    (ledger.renamed change).legs source target sourceRow targetRow amount refs names stamp
      = (ledger.legs source target sourceRow targetRow amount refs keys stamp).map (renamed change) := by
  simp only [legs, ledger.renamed_record (named _)]
  cases ledger.record source sourceRow .adjust (-amount) (refs .outgoing) (keys .outgoing) stamp with
  | none => rfl
  | some moved => exact moved.renamed_record (named _)

theorem renamed_move :
    (ledger.renamed change).move source target sourceRow targetRow amount refs names stamp
      = (ledger.move source target sourceRow targetRow amount refs keys stamp).map (renamed change) :=
  ledger.renamed_legs named

end

theorem renamed_keyedAtomic : (ledger.renamed change).keyedAtomic (outcome.map (renamed change))
      = (ledger.keyedAtomic outcome).renamed change := by
  cases outcome <;> rfl

theorem renamed_hold : (ledger.renamed change).hold wallet value (.hold id) stamp
      = (ledger.hold wallet value (.hold id) stamp).map (renamed change) := by
  simp only [hold, renamed_wallet, ledger.renamed_txnExists_of_built (.hold id) rfl]
  split_ifs
  · rfl
  · cases ledger.wallet wallet with
    | none => rfl
    | some row =>
      dsimp only
      split_ifs
      · rfl
      · rw [ledger.renamed_record (change.built _ rfl), renamed_keyedAtomic]
        rfl

theorem renamed_takeDebit (built : key.isBuilt) :
    (ledger.renamed change).takeDebit wallet row id amount key stamp
      = (ledger.takeDebit wallet row id amount key stamp).map (renamed change) :=
  ledger.renamed_record (change.built key built)

theorem renamed_charge : (ledger.renamed change).charge sess bucket now stamp
      = (ledger.charge sess bucket now stamp).renamed change := by
  simp only [charge, renamed_wallet, renamed_due]
  cases sess.billingWalletId with
  | none => rfl
  | some wallet =>
    dsimp only
    cases ledger.wallet wallet with
    | none => rfl
    | some row =>
      dsimp only
      split_ifs
      · rfl
      · rw [ledger.renamed_takeDebit rfl, renamed_keyedAtomic]
      · rfl

theorem renamed_consume : (ledger.renamed change).consume sess bucket now stamp
      = (ledger.consume sess bucket now stamp).renamed change := by
  have admitted : (ledger.renamed change).consumeAdmitted sess bucket
      = ledger.consumeAdmitted sess bucket := by
    simp only [consumeAdmitted, ledger.renamed_txnExists_of_built (.consume ..) rfl,
      ledger.renamed_txnExists_of_built (.settle _) rfl]
  rw [consume, consume, admitted]
  cases ledger.consumeAdmitted sess bucket with
  | true => exact ledger.renamed_charge
  | false => rfl

theorem renamed_finalConsume : (ledger.renamed change).finalConsume wallet row sess final now stamp
      = (ledger.finalConsume wallet row sess final now stamp).map (renamed change) := by
  simp only [finalConsume, renamed_due]
  split_ifs
  · exact ledger.renamed_takeDebit rfl
  · rfl
  · rfl

theorem renamed_releaseHold : (ledger.renamed change).releaseHold wallet row id stamp
      = (ledger.releaseHold wallet row id stamp).renamed change := by
  simp only [releaseHold, renamed_sumHeld, renamed_sumConsumed, renamed_freshSerial]
  split_ifs
  · exact ledger.renamed_post (change.built _ rfl)
  · rfl
  · exact ledger.renamed_post (change.built _ rfl)
  · rfl

theorem renamed_settleMark : (ledger.renamed change).settleMark wallet row id (.settle id) stamp
      = (ledger.settleMark wallet row id (.settle id) stamp).map (renamed change) :=
  ledger.renamed_record (change.built _ rfl)

theorem renamed_settleParts :
    (ledger.renamed change).settleParts wallet sess (.settle sess.id) final now stamp
      = (ledger.settleParts wallet sess (.settle sess.id) final now stamp).map
          (List.map (renamed change)) := by
  simp only [settleParts, renamed_wallet, renamed_finalConsume]
  cases ledger.wallet wallet with
  | none => rfl
  | some row =>
    simp only [bind_eq_bind, bind_some, bind_map]
    cases ledger.finalConsume wallet row sess final now stamp with
    | none => rfl
    | some charged =>
      simp only [bind_some, comp_apply, renamed_wallet, renamed_releaseHold]
      cases charged.wallet wallet with
      | none => rfl
      | some left =>
        simp only [bind_some]
        cases (charged.releaseHold wallet left sess.id stamp).wallet wallet with
        | none => rfl
        | some freed =>
          simp only [bind_some, renamed_settleMark]
          cases (charged.releaseHold wallet left sess.id stamp).settleMark wallet freed sess.id
            (.settle sess.id) stamp <;> rfl

theorem renamed_settleWrites :
    (ledger.renamed change).settleWrites sess (.settle sess.id) final now stamp
      = (ledger.settleWrites sess (.settle sess.id) final now stamp).map (renamed change) := by
  simp only [settleWrites, ledger.renamed_txnExists_of_built (.settle _) rfl, renamed_settleParts]
  cases sess.billingWalletId with
  | none => rfl
  | some wallet =>
    dsimp only
    split_ifs
    · rfl
    · cases ledger.settleParts wallet sess (.settle sess.id) final now stamp <;> rfl

theorem renamed_settle : (ledger.renamed change).settle sess (.settle sess.id) final now stamp
      = (ledger.settle sess (.settle sess.id) final now stamp).renamed change := by
  simp only [settle, renamed_settleWrites, getLast?_map]
  cases (ledger.settleWrites sess (.settle sess.id) final now stamp).getLast? <;> rfl

theorem renamed_applyGrant : (ledger.renamed change).applyGrant wallet row value stamp
      = (ledger.applyGrant wallet row value stamp).renamed change := by
  simp only [applyGrant, creditGrantIncrease, renamed_freshSerial]
  split_ifs
  · exact ledger.renamed_post (change.built _ rfl)
  · rfl

theorem renamed_refilled : (ledger.renamed change).refilled batch month = ledger.refilled batch month := by
  have blind (txn : Txn) : decide ((txn.renamed change).key ∈ batch.map (.refill · month))
      = decide (txn.key ∈ batch.map (.refill · month)) := by
    simp only [List.mem_map, Txn.renamed, decide_eq_decide]
    refine exists_congr fun wallet => and_congr_right fun _ => ?_
    rw [← change.built (.refill wallet month) rfl, change.injective.eq_iff, change.built _ rfl]
  simp only [refilled, renamed, List.filter_map, List.map_map, comp_def, blind]
  rfl

theorem renamed_refill {done : List WalletId} :
    (ledger.renamed change).refill done wallet month stamp
      = (ledger.refill done wallet month stamp).map (renamed change) := by
  simp only [refill, renamed_wallet]
  cases ledger.wallet wallet with
  | none => rfl
  | some row =>
    dsimp only
    split_ifs
    · rfl
    · rfl
    · exact ledger.renamed_record (change.built _ rfl)

theorem renamed_refillBatch : (ledger.renamed change).refillBatch batch month stamp
      = (ledger.refillBatch batch month stamp).map (renamed change) := by
  simp only [refillBatch, renamed_refilled]
  generalize ledger.refilled batch month = done
  induction batch generalizing ledger with
  | nil => rfl
  | cons wallet rest ih =>
    simp only [foldlM_cons, renamed_refill]
    cases ledger.refill done wallet month stamp with
    | none => rfl
    | some next => exact ih next

end Ledger

namespace Tx

variable {bank : Bank}

theorem renamed_insert : insert (bank.renamed change) (outcome.map (Ledger.renamed change))
      = (insert bank outcome).renamed change := by
  cases outcome <;> rfl

theorem renamed_insert_of_eq {named : Bank} (same : named = bank.renamed change) :
    insert named (outcome.map (Ledger.renamed change)) = (insert bank outcome).renamed change :=
  same ▸ renamed_insert

theorem renamed_gated {Amount Key Name : Type} {amount : Option Amount} {idem : Option Key}
    {name : Key → Name} {named : Amount → Name → Tx} {body : Amount → Key → Tx}
    (same : ∀ valid key, named valid (name key) = (body valid key).renamed change) :
    gated amount (idem.map name) named = (gated amount idem body).renamed change := by
  cases amount with
  | none => rfl
  | some valid =>
    cases idem with
    | none => rfl
    | some key => exact same valid key

end Tx

namespace Bank

variable (bank : Bank) {permitted inScope : Bool}
variable {group : GroupId} {user : UserId} {req : RequestId} {idem : Option String}
variable {amount : ℚ} {raw : Option IdemKey}

@[simp] theorem renamed_ledger : (bank.renamed change).ledger = bank.ledger.renamed change := rfl

@[simp] theorem renamed_walletOf (ownerType : OwnerType) (ownerId : ℕ) :
    (bank.renamed change).walletOf ownerType ownerId = bank.walletOf ownerType ownerId := rfl

@[simp] theorem renamed_memberWallets : (bank.renamed change).memberWallets group = bank.memberWallets group := rfl

theorem renamed_topup {note : Option String} :
    (bank.renamed change).topup wallet value note (raw.map change.key) permitted stamp
      = (bank.topup wallet value note raw permitted stamp).renamed change := by
  refine renamed_gated fun amount key => ?_
  simp only [renamed_ledger, Ledger.renamed_wallet, Ledger.renamed_txnExists, Ledger.renamed_credit _ rfl,
    renamed_insert]
  cases permitted with
  | false => rfl
  | true =>
    cases bank.ledger.wallet wallet with
    | none => rfl
    | some row => cases bank.ledger.txnExists key <;> rfl

theorem renamed_adjust {reason : String} :
    (bank.renamed change).adjust wallet value reason (raw.map change.key) permitted stamp
      = (bank.adjust wallet value reason raw permitted stamp).renamed change := by
  refine renamed_gated fun amount key => ?_
  simp only [renamed_ledger, Ledger.renamed_wallet, Ledger.renamed_txnExists, Ledger.renamed_credit _ rfl,
    renamed_insert]
  cases permitted with
  | false => rfl
  | true =>
    cases bank.ledger.wallet wallet with
    | none => rfl
    | some row =>
      cases bank.ledger.txnExists key with
      | true => rfl
      | false =>
        dsimp only
        split_ifs <;> rfl

theorem renamed_moveBetween {keys : String → Leg → IdemKey} {name : String → String}
    (named : ∀ text leg, change.key (keys text leg) = keys (name text) leg) :
    (bank.renamed change).moveBetween source target value (idem.map name) keys permitted inScope stamp
      = (bank.moveBetween source target value idem keys permitted inScope stamp).renamed change := by
  refine renamed_gated fun amount text => ?_
  simp only [renamed_ledger, Ledger.renamed_wallet, Ledger.renamed_move _ (named text), renamed_insert]
  rw [← named, Ledger.renamed_txnExists]
  cases bank.ledger.wallet source with
  | none => split_ifs <;> rfl
  | some sourceRow =>
    cases bank.ledger.wallet target with
    | none => split_ifs <;> rfl
    | some targetRow =>
      dsimp only
      split_ifs <;> rfl

theorem renamed_bulkAllocateLoop {amount : ℤ} (targets : List WalletId) (ledger : Ledger) :
    bulkAllocateLoop source amount (change.bulkAlloc text) stamp targets (ledger.renamed change)
      = ((bulkAllocateLoop source amount text stamp targets ledger).1.map (Ledger.renamed change),
          (bulkAllocateLoop source amount text stamp targets ledger).2.map (Ledger.renamed change)) := by
  induction targets generalizing ledger with
  | nil => rfl
  | cons target rest ih =>
    simp only [bulkAllocateLoop, renamed_wallet,
      renamed_move _ (change.bulkAlloc_key text target)]
    rw [← change.bulkAlloc_key, renamed_txnExists]
    cases ledger.txnExists (.bulkAlloc text target .outgoing) with
    | true => exact ih ledger
    | false =>
      cases ledger.wallet source with
      | none => rfl
      | some sourceRow =>
        cases ledger.wallet target with
        | none => rfl
        | some targetRow =>
          simp only [Bool.false_eq_true, if_false]
          split_ifs
          · rfl
          · cases ledger.move source target sourceRow targetRow amount _ (.bulkAlloc text target) stamp with
            | none => rfl
            | some moved =>
              simp only [map_some, ih moved]
              rfl

theorem renamed_bulkAllocate :
    (bank.renamed change).bulkAllocate group value (idem.map change.bulkAlloc) permitted stamp
      = (bank.bulkAllocate group value idem permitted stamp).renamed change := by
  refine renamed_gated fun amount text => ?_
  simp only [renamed_ledger, renamed_walletOf, renamed_memberWallets, renamed_bulkAllocateLoop]
  have live : (bank.renamed change).liveGroup = bank.liveGroup := rfl
  rw [live]
  cases bank.walletOf .group group with
  | none => split_ifs <;> rfl
  | some found =>
    dsimp only
    split_ifs
    · rfl
    · rfl
    · rfl
    · cases (bulkAllocateLoop found.1 amount text stamp (bank.memberWallets group) bank.ledger).2 with
      | error refused => simp only [Tx.renamed, Except.map]
      | ok ledger => simp only [Tx.renamed, Except.map, renamed]

theorem renamed_setMonthlyGrant {scope : Option (Option WalletId × List WalletId)} :
    (bank.renamed change).setMonthlyGrant wallet value scope stamp
      = (bank.setMonthlyGrant wallet value scope stamp).renamed change := by
  simp only [setMonthlyGrant, renamed_ledger, Ledger.renamed_wallet, Ledger.renamed_applyGrant]
  cases grantCredit value with
  | none => rfl
  | some amount =>
    cases bank.ledger.wallet wallet with
    | none => rfl
    | some row =>
      cases scope with
      | none => rfl
      | some pools =>
        dsimp only
        split_ifs <;> first | rfl | contradiction

theorem renamed_bulkMonthlyGrantLoop (wallets : List WalletId) (ledger : Ledger) :
    bulkMonthlyGrantLoop amount stamp (ledger.renamed change) wallets
      = (bulkMonthlyGrantLoop amount stamp ledger wallets).renamed change := by
  induction wallets generalizing ledger with
  | nil => rfl
  | cons wallet rest ih =>
    simp only [bulkMonthlyGrantLoop, foldl_cons, renamed_wallet, renamed_applyGrant] at ih ⊢
    cases ledger.wallet wallet with
    | none => exact ih ledger
    | some row => exact ih _

theorem renamed_bulkMonthlyGrant :
    (bank.renamed change).bulkMonthlyGrant group value permitted stamp
      = (bank.bulkMonthlyGrant group value permitted stamp).renamed change := by
  simp only [bulkMonthlyGrant, renamed_ledger, renamed_walletOf, renamed_memberWallets,
    renamed_bulkMonthlyGrantLoop]
  have live : (bank.renamed change).liveGroup = bank.liveGroup := rfl
  rw [live]
  cases grantCredit value with
  | none => rfl
  | some amount =>
    cases bank.walletOf .group group with
    | none =>
      split_ifs <;> rfl
    | some found =>
      dsimp only
      split_ifs <;> rfl

theorem renamed_approveAllocationRequest {canFulfill : Bool} :
    (bank.renamed change).approveAllocationRequest req idem canFulfill stamp
      = (bank.approveAllocationRequest req idem canFulfill stamp).renamed change := by
  have pool (asked : AllocationRequest) : (bank.renamed change).poolOf asked = bank.poolOf asked := rfl
  have requests : (bank.renamed change).allocationRequests = bank.allocationRequests := rfl
  have fixed (leg : Leg) := change.built (.allocRequestLeg req leg) rfl
  simp only [approveAllocationRequest, renamed_ledger, Ledger.renamed_wallet, pool, requests,
    Ledger.renamed_legs _ fixed, Ledger.renamed_move _ fixed]
  cases idem with
  | none => rfl
  | some text =>
    cases bank.allocationRequests req with
    | none => rfl
    | some asked =>
      dsimp only
      split_ifs
      · rfl
      · rfl
      · cases bank.ledger.wallet asked.targetWalletId with
        | none => rcases bank.poolOf asked with - | - | - <;> rfl
        | some targetRow =>
          rcases bank.poolOf asked with - | - | ⟨source, sourceRow⟩
          · dsimp only
            rw [Ledger.renamed_credit _ (change.built _ rfl)]
            exact renamed_insert_of_eq rfl
          · rfl
          · dsimp only
            split_ifs
            · rfl
            · exact renamed_insert_of_eq rfl
            · exact renamed_insert_of_eq rfl

theorem renamed_approveTopupRequest :
    (bank.renamed change).approveTopupRequest req idem permitted stamp
      = (bank.approveTopupRequest req idem permitted stamp).renamed change := by
  have requests : (bank.renamed change).topupRequests = bank.topupRequests := rfl
  simp only [approveTopupRequest, renamed_ledger, Ledger.renamed_wallet, requests,
    Ledger.renamed_txnExists_of_built _ (.topupRequest _) rfl]
  cases idem with
  | none => rfl
  | some text =>
    cases bank.topupRequests req with
    | none => rfl
    | some asked =>
      dsimp only
      cases bank.ledger.wallet asked.walletId with
      | none => split_ifs <;> rfl
      | some row =>
        dsimp only
        split_ifs
        · rfl
        · rfl
        · rfl
        · rw [Ledger.renamed_credit _ (change.built _ rfl)]
          exact renamed_insert_of_eq rfl

theorem renamed_sweep :
    (bank.renamed change).sweep batch month stamp = (bank.sweep batch month stamp).renamed change := by
  simp only [sweep, renamed_ledger, Ledger.renamed_wallet, Ledger.renamed_refillBatch]
  exact renamed_insert

theorem renamed_grantWelcomeCredit : (bank.renamed change).grantWelcomeCredit user group stamp
      = (bank.grantWelcomeCredit user group stamp).renamed change := by
  have paid : (bank.renamed change).defaultMemberCredit = bank.defaultMemberCredit := rfl
  simp only [grantWelcomeCredit, renamed_ledger, renamed_walletOf, paid,
    renamed_txnExists_of_built _ (.welcome ..) rfl]
  cases bank.walletOf .user user with
  | none => split_ifs <;> rfl
  | some found =>
    split_ifs
    · rfl
    · rfl
    · exact renamed_post _ (change.built _ rfl)

theorem renamed_grantCreditWithMembership :
    (bank.renamed change).grantCreditWithMembership group user membership amount stamp
      = (bank.grantCreditWithMembership group user membership amount stamp).map (Ledger.renamed change) := by
  simp only [grantCreditWithMembership, renamed_ledger, renamed_walletOf]
  cases bank.walletOf .group group with
  | none => rfl
  | some source =>
    cases bank.walletOf .user user with
    | none => rfl
    | some target =>
      dsimp only
      split_ifs
      · rfl
      · rw [renamed_record _ (change.built _ rfl)]
        cases bank.ledger.record source.1 _ .adjust _ _ (.memberGrant membership .outgoing) stamp with
        | none => rfl
        | some moved =>
          simp only [map_some, bind_eq_bind, bind_some, moved.renamed_record (change.built (.memberGrant ..) rfl)]
          cases moved.record target.1 _ .adjust _ _ (.memberGrant membership .incoming) stamp <;> rfl

theorem renamed_addMembership {grant : Option ℚ} {duplicate : Bool} :
    (bank.renamed change).addMembership group user membership grant permitted duplicate stamp
      = (bank.addMembership group user membership grant permitted duplicate stamp).renamed change := by
  let welcomed : Bank := { bank with ledger := bank.grantWelcomeCredit user group stamp }
  have same : ({ bank.renamed change with
      ledger := (bank.grantWelcomeCredit user group stamp).renamed change } : Bank)
        = welcomed.renamed change := rfl
  simp only [addMembership, renamed_grantWelcomeCredit, same, renamed_grantCreditWithMembership]
  split_ifs
  · rfl
  · rfl
  · cases grant with
    | none => rfl
    | some amount =>
      dsimp only
      split_ifs
      · rfl
      · cases welcomed.grantCreditWithMembership group user membership amount stamp <;> rfl

end Bank

namespace CreditOp

/-- The operation with the keys of its caller under their new names. -/
def renamed (change : Renaming) : CreditOp → CreditOp
  | .topup wallet value note idem permitted stamp =>
      .topup wallet value note (idem.map change.key) permitted stamp
  | .adjust wallet value reason idem permitted stamp =>
      .adjust wallet value reason (idem.map change.key) permitted stamp
  | .transfer source target value idem permitted inScope stamp =>
      .transfer source target value (idem.map change.transfer) permitted inScope stamp
  | .allocate source target value idem inScope stamp =>
      .allocate source target value (idem.map change.allocate) inScope stamp
  | .bulkAllocate group value idem permitted stamp =>
      .bulkAllocate group value (idem.map change.bulkAlloc) permitted stamp
  | op => op

theorem run_renamed (bank : Bank) (op : CreditOp) :
    (op.renamed change).run (bank.renamed change) = (op.run bank).renamed change := by
  cases op with
  | hold wallet sess amount stamp =>
    simp only [renamed, run, Bank.renamed_ledger, Ledger.renamed_hold]
    cases bank.ledger.hold wallet amount.value (.hold sess) stamp <;> rfl
  | consume sess bucket now stamp =>
    simp only [renamed, run, Bank.renamed_ledger, Ledger.renamed_consume]
    rfl
  | settle sess final now stamp =>
    simp only [renamed, run, Bank.renamed_ledger, Ledger.renamed_settleWrites, Ledger.renamed_settle]
    rfl
  | topup => exact bank.renamed_topup
  | adjust => exact bank.renamed_adjust
  | transfer => exact bank.renamed_moveBetween change.transfer_key
  | allocate => exact bank.renamed_moveBetween change.allocate_key
  | bulkAllocate => exact bank.renamed_bulkAllocate
  | setMonthlyGrant => exact bank.renamed_setMonthlyGrant
  | bulkMonthlyGrant => exact bank.renamed_bulkMonthlyGrant
  | approveAllocationRequest => exact bank.renamed_approveAllocationRequest
  | approveTopupRequest => exact bank.renamed_approveTopupRequest
  | sweep => exact bank.renamed_sweep
  | grantWelcomeCredit user group stamp =>
    simp only [renamed, run, Bank.renamed_grantWelcomeCredit]
    rfl
  | addMembership => exact bank.renamed_addMembership

/-- The tables after an operation, under new names. -/
theorem apply_renamed (bank : Bank) (op : CreditOp) :
    (bank.renamed change).apply (op.renamed change) = (bank.apply op).renamed change := by
  rw [Bank.apply, Bank.apply, run_renamed, Tx.renamed]
  cases (op.run bank).result <;> rfl

end CreditOp

end GShare.Model
