import GShare.Model.Credit.Engine

/-! # The writers of wallets outside the engine

The credit endpoints (top-up, adjust, transfer, allocate, monthly grants, request approvals), the
monthly refill, the welcome credit and the credit granted with a membership. Each runs in one
transaction: it lists the ledger states it flushes and ends in a commit or a refusal. What decides
about permission lives in the role model and enters here as a verdict.
-/

namespace GShare.Model

/-- The widest credit figure a request may carry, in hundredths. -/
def maxCredit : ℤ := 1000000000000 * 100

/-- Round to the ledger's two places and refuse what rounds away to nothing. -/
def quantizedCredit (value : ℚ) : Option ℤ :=
  let quantized := round2 value
  if quantized = 0 then none else some quantized

/-- A validated positive amount of a request body. -/
def positiveCredit (value : ℚ) : Option ℤ :=
  (quantizedCredit value).filter fun amount => 0 < amount ∧ amount ≤ maxCredit

/-- A validated signed amount of a request body. -/
def signedCredit (value : ℚ) : Option ℤ :=
  (quantizedCredit value).filter fun amount => -maxCredit ≤ amount ∧ amount ≤ maxCredit

/-- A validated monthly grant; unlike the other amounts it is not rounded here. -/
def grantCredit (value : ℚ) : Option ℚ :=
  if 0 ≤ value ∧ value ≤ credits maxCredit then some value else none

inductive RequestStatus where
  | pending | approved | rejected
deriving DecidableEq, Repr

inductive FulfillerScope where
  | group | org | system
deriving DecidableEq, Repr

/-- The kind of owner whose wallet is the pool; the system tier issues credit instead. -/
def FulfillerScope.tier : FulfillerScope → Option OwnerType
  | .group => some .group
  | .org => some .org
  | .system => none

/-- A request for credit from the pool one level up; its amount was validated when it was made. -/
structure AllocationRequest where
  targetWalletId : WalletId
  scope : FulfillerScope
  fulfillerId : ℕ
  amount : ℤ
  positive : 0 < amount
  status : RequestStatus

structure TopupRequest where
  walletId : WalletId
  amount : ℤ
  positive : 0 < amount
  status : RequestStatus

/-- The ledger and the tables the writers look things up in. -/
structure Bank where
  ledger : Ledger
  /-- The ids of the wallet table, in order. -/
  walletIds : List WalletId
  /-- The live members of a group. -/
  members : GroupId → List UserId
  liveGroup : GroupId → Bool
  /-- What a new member of the group is paid; zero switches it off. -/
  defaultMemberCredit : GroupId → ℕ
  allocationRequests : RequestId → Option AllocationRequest
  topupRequests : RequestId → Option TopupRequest

/-- What a transaction wrote, state by state, and how it ended. -/
structure Tx where
  flushed : List Ledger
  result : Except CreditError Bank

namespace Tx

def refuse (error : CreditError) : Tx := ⟨[], .error error⟩

def keep (bank : Bank) : Tx := ⟨[], .ok bank⟩

/-- One flush, then the commit. -/
def write (bank : Bank) (ledger : Ledger) : Tx := ⟨[ledger], .ok { bank with ledger := ledger }⟩

/-- A flush that can hit the unique index. -/
def insert (bank : Bank) : Option Ledger → Tx
  | some ledger => write bank ledger
  | none => refuse .uniqueViolation

/-- The gate of a keyed endpoint: a valid amount first, then the idempotency header. -/
def gated {Amount Key : Type} (amount : Option Amount) (idem : Option Key) (body : Amount → Key → Tx) : Tx :=
  match amount, idem with
  | none, _ => refuse .validation
  | some _, none => refuse .idempotencyKeyRequired
  | some amount, some key => body amount key

end Tx

namespace Ledger

variable (ledger : Ledger)

/-- Add `amount` to a wallet under one row. -/
def credit (wallet : WalletId) (row : Wallet) (type : TxnType) (amount : ℤ)
    (ref : Option Ref) (key : IdemKey) (stamp : ℤ) : Option Ledger :=
  ledger.record wallet { row with balance := row.balance + amount } type amount ref key stamp

/-- The pair of transaction rows of a movement, over the two wallet rows it leaves. -/
def legs (source target : WalletId) (newSource newTarget : Wallet) (amount : ℤ)
    (refs : Leg → Option Ref) (keys : Leg → IdemKey) (stamp : ℤ) : Option Ledger := do
  let ledger ← ledger.record source newSource .adjust (-amount) (refs .outgoing) (keys .outgoing) stamp
  ledger.record target newTarget .adjust amount (refs .incoming) (keys .incoming) stamp

/-- Move `amount` between two wallets under a pair of rows. -/
def move (source target : WalletId) (sourceRow targetRow : Wallet) (amount : ℤ)
    (refs : Leg → Option Ref) (keys : Leg → IdemKey) (stamp : ℤ) : Option Ledger :=
  ledger.legs source target { sourceRow with balance := sourceRow.balance - amount }
    { targetRow with balance := targetRow.balance + amount } amount refs keys stamp

/-- Raise the balance to a new monthly grant and put the difference on the ledger; the columns round
what they store. -/
def creditGrantIncrease (wallet : WalletId) (row : Wallet) (amount : ℚ) (stamp : ℤ) : Ledger :=
  ledger.post wallet { row with balance := round2 amount } .adjust
    (round2 (decimal (amount - credits row.balance))) (some (.text "monthly_grant"))
    (.grant wallet ledger.freshSerial) stamp

/-- Set one wallet's monthly grant; an increase above the balance is credited at once, except for the
system wallet, which only holds the ceiling. -/
def applyGrant (wallet : WalletId) (row : Wallet) (amount : ℚ) (stamp : ℤ) : Ledger :=
  let row := { row with monthlyGrant := round2 amount }
  if row.ownerType ≠ .system ∧ credits row.balance < amount then
    ledger.creditGrantIncrease wallet row amount stamp
  else ledger.setWallet wallet row

/-- What the monthly sweep raises a balance to: the grant, or what is reserved if that is more. -/
def refillTarget (row : Wallet) : ℤ :=
  if row.reserved ≤ row.monthlyGrant then row.monthlyGrant else row.reserved

/-- One wallet's turn in a batch of the sweep: up to the target, never down, and not if the sweep was done
with the wallet. -/
def refill (ledger : Ledger) (done : List WalletId) (wallet : WalletId) (month : ℕ) (stamp : ℤ) : Option Ledger :=
  match ledger.wallet wallet with
  | none => some ledger
  | some row =>
    if wallet ∈ done then some ledger
    else if refillTarget row ≤ row.balance then some ledger
    else
      ledger.record wallet { row with balance := refillTarget row } .adjust
        (refillTarget row - row.balance) (some (.text "monthly_refill")) (.refill wallet month) stamp

/-- The wallets that hold a row under a refill key of the batch. -/
def refilled (batch : List WalletId) (month : ℕ) : List WalletId :=
  (ledger.txns.filter fun txn => txn.key ∈ batch.map (.refill · month)).map (·.walletId)

/-- One batch of the sweep; a key that is taken fails all of it. -/
def refillBatch (batch : List WalletId) (month : ℕ) (stamp : ℤ) : Option Ledger :=
  batch.foldlM (fun next wallet => next.refill (ledger.refilled batch month) wallet month stamp) ledger

end Ledger

namespace Bank

variable (bank : Bank) (group : GroupId)

def walletOf (ownerType : OwnerType) (ownerId : ℕ) : Option (WalletId × Wallet) :=
  bank.walletIds.findSome? fun id =>
    (bank.ledger.wallet id).bind fun row =>
      if row.ownerType = ownerType ∧ row.ownerId = ownerId then some (id, row) else none

def memberWallets : List WalletId :=
  bank.walletIds.filter fun id =>
    (bank.ledger.wallet id).any fun row =>
      row.ownerType == .user && row.ownerId ∈ bank.members group

def topup (bank : Bank) (wallet : WalletId) (value : ℚ) (note : Option String)
    (idem : Option IdemKey) (permitted : Bool) (stamp : ℤ) : Tx :=
  .gated (positiveCredit value) idem fun amount key =>
    if !permitted then .refuse .forbidden
    else
      match bank.ledger.wallet wallet with
      | none => .refuse .notFound
      | some row =>
        if bank.ledger.txnExists key then .keep bank
        else .insert bank (bank.ledger.credit wallet row .topup amount (note.map .text) key stamp)

def adjust (bank : Bank) (wallet : WalletId) (value : ℚ) (reason : String)
    (idem : Option IdemKey) (permitted : Bool) (stamp : ℤ) : Tx :=
  .gated (signedCredit value) idem fun amount key =>
    if !permitted then .refuse .forbidden
    else
      match bank.ledger.wallet wallet with
      | none => .refuse .notFound
      | some row =>
        if bank.ledger.txnExists key then .keep bank
        else if row.balance + amount < 0 ∨ row.balance + amount < row.reserved then
          .refuse .validation
        else .insert bank (bank.ledger.credit wallet row .adjust amount (some (.text reason)) key stamp)

/-- The common body of `transfer` and `allocate`; `inScope` is the verdict of the hierarchy check. -/
def moveBetween (source target : WalletId) (value : ℚ) (idem : Option String)
    (keys : String → Leg → IdemKey) (permitted inScope : Bool) (stamp : ℤ) : Tx :=
  .gated (positiveCredit value) idem fun amount idem =>
    if !permitted then .refuse .forbidden
    else if source = target then .refuse .validation
    else
      match bank.ledger.wallet source, bank.ledger.wallet target with
      | some sourceRow, some targetRow =>
        if bank.ledger.txnExists (keys idem .outgoing) then .keep bank
        else if !inScope then .refuse .forbidden
        else
          let available := sourceRow.balance - sourceRow.reserved
          if available < amount then .refuse (.insufficientCredit available amount)
          else
            .insert bank (bank.ledger.move source target sourceRow targetRow amount
              (fun | .outgoing => some (.wallet target) | .incoming => some (.wallet source))
              (keys idem) stamp)
      | _, _ => .refuse .notFound

def transfer (bank : Bank) (source target : WalletId) (value : ℚ) (idem : Option String)
    (permitted inScope : Bool) (stamp : ℤ) : Tx :=
  bank.moveBetween source target value idem .transfer permitted inScope stamp

/-- Allocation down the hierarchy or reclaim up it; the hierarchy check is the only one. -/
def allocate (bank : Bank) (source target : WalletId) (value : ℚ) (idem : Option String)
    (inScope : Bool) (stamp : ℤ) : Tx :=
  bank.moveBetween source target value idem .allocate true inScope stamp

/-- The loop of `bulkAllocate` over the members' wallets, with every state it flushes. A member this
batch already funded is skipped; a shortfall ends the loop with a refusal. -/
def bulkAllocateLoop (source : WalletId) (amount : ℤ) (idem : String) (stamp : ℤ) :
    List WalletId → Ledger → List Ledger × Except CreditError Ledger
  | [], ledger => ([], .ok ledger)
  | target :: rest, ledger =>
    if ledger.txnExists (.bulkAlloc idem target .outgoing) then
      bulkAllocateLoop source amount idem stamp rest ledger
    else
      match ledger.wallet source, ledger.wallet target with
      | some sourceRow, some targetRow =>
        let available := sourceRow.balance - sourceRow.reserved
        if available < amount then
          ([], .error (.insufficientCredit available (amount * (rest.length + 1))))
        else
          match ledger.move source target sourceRow targetRow amount
            (fun | .outgoing => some (.wallet target) | .incoming => some (.wallet source))
            (.bulkAlloc idem target) stamp with
          | none => ([], .error .uniqueViolation)
          | some moved =>
            let (flushed, result) := bulkAllocateLoop source amount idem stamp rest moved
            (moved :: flushed, result)
      | _, _ => ([], .error .notFound)

/-- Pay the same amount from the group's wallet to every member. -/
def bulkAllocate (value : ℚ) (idem : Option String) (permitted : Bool) (stamp : ℤ) : Tx :=
  .gated (positiveCredit value) idem fun amount idem =>
    if !permitted then .refuse .forbidden
    else if !bank.liveGroup group then .refuse .notFound
    else
      match bank.walletOf .group group with
      | none => .refuse .notFound
      | some (source, _) =>
        if bank.memberWallets group = [] then .refuse .validation
        else
          let (flushed, result) :=
            bulkAllocateLoop source amount idem stamp (bank.memberWallets group) bank.ledger
          ⟨flushed, result.map fun ledger => { bank with ledger := ledger }⟩

/-- Set a child wallet's monthly grant. `scope` is what the role model answers: refused, or the parent
pool (none for the system wallet) and the sibling wallets whose grants share it. -/
def setMonthlyGrant (wallet : WalletId) (value : ℚ)
    (scope : Option (Option WalletId × List WalletId)) (stamp : ℤ) : Tx :=
  match grantCredit value with
  | none => .refuse .validation
  | some amount =>
    match bank.ledger.wallet wallet, scope with
    | none, _ => .refuse .notFound
    | _, none => .refuse .forbidden
    | some row, some (parent, siblings) =>
      let others := ((siblings.filter (· ≠ wallet)).map fun sibling =>
        (bank.ledger.wallet sibling).elim 0 (·.monthlyGrant)).sum
      let ceiling := parent.bind bank.ledger.wallet
      if ceiling.any fun pool => credits pool.monthlyGrant < credits others + amount then
        .refuse .validation
      else .write bank (bank.ledger.applyGrant wallet row amount stamp)

def bulkMonthlyGrantLoop (amount : ℚ) (stamp : ℤ) (ledger : Ledger) (wallets : List WalletId) : Ledger :=
  wallets.foldl (fun ledger wallet =>
    match ledger.wallet wallet with
    | none => ledger
    | some row => ledger.applyGrant wallet row amount stamp) ledger

/-- Set the same monthly grant on every member's wallet. -/
def bulkMonthlyGrant (value : ℚ) (permitted : Bool) (stamp : ℤ) : Tx :=
  match grantCredit value with
  | none => .refuse .validation
  | some amount =>
    if !permitted then .refuse .forbidden
    else if !bank.liveGroup group then .refuse .notFound
    else
      match bank.walletOf .group group with
      | none => .refuse .notFound
      | some (_, parent) =>
        let wallets := bank.memberWallets group
        if wallets = [] then .refuse .validation
        else if credits parent.monthlyGrant < amount * wallets.length then .refuse .validation
        else .write bank (bulkMonthlyGrantLoop amount stamp bank.ledger wallets)

/-- The pool wallet that pays for a request, as far as it exists; the system tier has none. -/
def poolOf (asked : AllocationRequest) : Option (Option (WalletId × Wallet)) :=
  asked.scope.tier.map fun tier => bank.walletOf tier asked.fulfillerId

/-- Approve an allocation request: issue credit for the system tier, or pay from the pool wallet. -/
def approveAllocationRequest (req : RequestId) (idem : Option String) (canFulfill : Bool) (stamp : ℤ) : Tx :=
  match idem, bank.allocationRequests req with
  | none, _ => .refuse .idempotencyKeyRequired
  | _, none => .refuse .notFound
  | some _, some asked =>
    if asked.status ≠ .pending then .refuse .validation
    else if !canFulfill then .refuse .forbidden
    else
      let approved : Bank :=
        { bank with allocationRequests :=
            Function.update bank.allocationRequests req (some { asked with status := .approved }) }
      match bank.poolOf asked, bank.ledger.wallet asked.targetWalletId with
      | none, some row =>
        .insert approved (bank.ledger.credit asked.targetWalletId row .topup asked.amount
          (some (.request req)) (.allocRequest req) stamp)
      | some (some (source, sourceRow)), some targetRow =>
        let available := sourceRow.balance - sourceRow.reserved
        if available < asked.amount then .refuse (.insufficientCredit available asked.amount)
        else if source = asked.targetWalletId then
          -- Both locks return one row object: it loses and regains the amount before the rows are made.
          .insert approved (bank.ledger.legs source source sourceRow sourceRow asked.amount
            (fun _ => some (.request req)) (.allocRequestLeg req) stamp)
        else
          .insert approved (bank.ledger.move source asked.targetWalletId sourceRow targetRow
            asked.amount (fun _ => some (.request req)) (.allocRequestLeg req) stamp)
      | _, _ => .refuse .notFound

/-- Approve a top-up request; a decided one is answered without moving credit. -/
def approveTopupRequest (req : RequestId) (idem : Option String) (permitted : Bool) (stamp : ℤ) : Tx :=
  match idem, bank.topupRequests req with
  | none, _ => .refuse .idempotencyKeyRequired
  | _, none => .refuse .notFound
  | some _, some asked =>
    if !permitted then .refuse .forbidden
    else
      match bank.ledger.wallet asked.walletId with
      | none => .refuse .notFound
      | some row =>
        if bank.ledger.txnExists (.topupRequest req) ∨ asked.status = .approved then
          .keep bank
        else if asked.status = .rejected then .refuse .conflict
        else
          let approved : Bank :=
            { bank with topupRequests :=
                Function.update bank.topupRequests req (some { asked with status := .approved }) }
          .insert approved
            (bank.ledger.credit asked.walletId row .topup asked.amount (some (.request req))
              (.topupRequest req) stamp)

def sweep (batch : List WalletId) (month : ℕ) (stamp : ℤ) : Tx :=
  .insert bank (bank.ledger.refillBatch
    (batch.filter fun wallet => (bank.ledger.wallet wallet).any (0 < ·.monthlyGrant)) month stamp)

/-- The welcome credit of a new member, paid once for each group and user. -/
def grantWelcomeCredit (user : UserId) (group : GroupId) (stamp : ℤ) : Ledger :=
  let amount : ℤ := bank.defaultMemberCredit group
  if amount ≤ 0 then bank.ledger
  else if bank.ledger.txnExists (.welcome group user) then bank.ledger
  else
    match bank.walletOf .user user with
    | none => bank.ledger
    | some (wallet, row) =>
      bank.ledger.post wallet { row with balance := row.balance + amount } .topup amount
        (some (.group group)) (.welcome group user) stamp

/-- The credit moved from the group's wallet with a new membership. The amount is a plain decimal; the
arithmetic keeps 28 digits of it, and the columns round what they store. -/
def grantCreditWithMembership (user : UserId) (membership : ℕ)
    (amount : ℚ) (stamp : ℤ) : Except CreditError Ledger :=
  match bank.walletOf .group group, bank.walletOf .user user with
  | some (source, sourceRow), some (target, targetRow) =>
    let available := credits sourceRow.balance - credits sourceRow.reserved
    if available < amount then
      .error (.insufficientCredit (sourceRow.balance - sourceRow.reserved) (round2 amount))
    else
      let outcome : Option Ledger := do
        let ledger ← bank.ledger.record source
          { sourceRow with balance := round2 (decimal (credits sourceRow.balance - amount)) } .adjust
          (round2 (decimal (-amount))) (some (.wallet target)) (.memberGrant membership .outgoing) stamp
        ledger.record target
          { targetRow with balance := round2 (decimal (credits targetRow.balance + amount)) }
          .adjust (round2 amount) (some (.wallet source)) (.memberGrant membership .incoming) stamp
      match outcome with
      | some ledger => .ok ledger
      | none => .error .uniqueViolation
  | _, _ => .error .validation

/-- Add a member: the welcome credit, then the credit the administrator sent along. -/
def addMembership (user : UserId) (membership : ℕ)
    (grant : Option ℚ) (permitted duplicate : Bool) (stamp : ℤ) : Tx :=
  if !permitted then .refuse .forbidden
  else if duplicate then .refuse .conflict
  else
    let welcomed := { bank with ledger := bank.grantWelcomeCredit user group stamp }
    match grant with
    | none => .write bank welcomed.ledger
    | some amount =>
      if amount ≤ 0 then .write bank welcomed.ledger
      else
        match welcomed.grantCreditWithMembership group user membership amount stamp with
        | .ok ledger => ⟨[welcomed.ledger, ledger], .ok { bank with ledger := ledger }⟩
        | .error refused => ⟨[welcomed.ledger], .error refused⟩

end Bank

/-- Every operation that writes wallets, with its request as the client or the caller sends it. -/
inductive CreditOp where
  | hold (wallet : WalletId) (sess : SessionId) (amount : HoldAmount) (stamp : ℤ)
  | consume (sess : Session) (bucket now stamp : ℤ)
  | settle (sess : Session) (final : Bool) (now stamp : ℤ)
  | topup (wallet : WalletId) (value : ℚ) (note : Option String) (idem : Option IdemKey)
      (permitted : Bool) (stamp : ℤ)
  | adjust (wallet : WalletId) (value : ℚ) (reason : String) (idem : Option IdemKey)
      (permitted : Bool) (stamp : ℤ)
  | transfer (source target : WalletId) (value : ℚ) (idem : Option String)
      (permitted inScope : Bool) (stamp : ℤ)
  | allocate (source target : WalletId) (value : ℚ) (idem : Option String) (inScope : Bool)
      (stamp : ℤ)
  | bulkAllocate (group : GroupId) (value : ℚ) (idem : Option String) (permitted : Bool) (stamp : ℤ)
  | setMonthlyGrant (wallet : WalletId) (value : ℚ)
      (scope : Option (Option WalletId × List WalletId)) (stamp : ℤ)
  | bulkMonthlyGrant (group : GroupId) (value : ℚ) (permitted : Bool) (stamp : ℤ)
  | approveAllocationRequest (req : RequestId) (idem : Option String) (canFulfill : Bool)
      (stamp : ℤ)
  | approveTopupRequest (req : RequestId) (idem : Option String) (permitted : Bool) (stamp : ℤ)
  | sweep (batch : List WalletId) (month : ℕ) (stamp : ℤ)
  | grantWelcomeCredit (user : UserId) (group : GroupId) (stamp : ℤ)
  | addMembership (group : GroupId) (user : UserId) (membership : ℕ) (grant : Option ℚ)
      (permitted duplicate : Bool) (stamp : ℤ)

def CreditOp.run (bank : Bank) : CreditOp → Tx
  | .hold wallet sess amount stamp =>
    match bank.ledger.hold wallet amount.value (.hold sess) stamp with
    | .ok ledger => .write bank ledger
    | .error refused => .refuse refused
  | .consume sess bucket now stamp => .write bank (bank.ledger.consume sess bucket now stamp)
  | .settle sess final now stamp =>
    ⟨bank.ledger.settleWrites sess (.settle sess.id) final now stamp,
      .ok { bank with ledger := bank.ledger.settle sess (.settle sess.id) final now stamp }⟩
  | .topup wallet value note idem permitted stamp => bank.topup wallet value note idem permitted stamp
  | .adjust wallet value reason idem permitted stamp =>
    bank.adjust wallet value reason idem permitted stamp
  | .transfer source target value idem permitted inScope stamp =>
    bank.transfer source target value idem permitted inScope stamp
  | .allocate source target value idem inScope stamp =>
    bank.allocate source target value idem inScope stamp
  | .bulkAllocate group value idem permitted stamp =>
    bank.bulkAllocate group value idem permitted stamp
  | .setMonthlyGrant wallet value scope stamp => bank.setMonthlyGrant wallet value scope stamp
  | .bulkMonthlyGrant group value permitted stamp => bank.bulkMonthlyGrant group value permitted stamp
  | .approveAllocationRequest req idem canFulfill stamp =>
    bank.approveAllocationRequest req idem canFulfill stamp
  | .approveTopupRequest req idem permitted stamp =>
    bank.approveTopupRequest req idem permitted stamp
  | .sweep batch month stamp => bank.sweep batch month stamp
  | .grantWelcomeCredit user group stamp =>
    .write bank (bank.grantWelcomeCredit user group stamp)
  | .addMembership group user membership grant permitted duplicate stamp =>
    bank.addMembership group user membership grant permitted duplicate stamp

/-- The operation of a caller who has loaded some wallets. -/
def CreditOp.through (bank : Bank) (loaded : List (WalletId × Wallet)) (op : CreditOp) : Tx :=
  let tx := op.run { bank with ledger := bank.ledger.seen loaded }
  ⟨tx.flushed.map (bank.ledger.flush loaded),
    tx.result.map fun next => { next with ledger := bank.ledger.flush loaded next.ledger }⟩

/-- The tables after the operation; a refused one is rolled back. -/
def Bank.apply (bank : Bank) (op : CreditOp) : Bank :=
  match (op.run bank).result with
  | .ok next => next
  | .error _ => bank

end GShare.Model
