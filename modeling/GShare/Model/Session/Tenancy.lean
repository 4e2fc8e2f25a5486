import GShare.Machine.Turns
import GShare.Model.Device.Transactions
import GShare.Model.Session.Quota

/-! # Admissions of one user, with the cards they take

`CreateCall` follows an admission through the user's rows; here its transactions on the device tables run
along: the pending row, the reservation, a victim's pause, the borrow after it, and the release of a failed
admission. The admissions of other users write the same device tables in between.
-/

namespace GShare.Model

open Machine

/-- A request with the columns that placement reads beside its size. -/
structure CardRequest where
  size : SizeRequest
  mode : Option CardMode
  clusterId : ClusterId
  pauseMode : PauseMode
  preemptible : Bool
deriving DecidableEq, Repr

def CardRequest.holder (req : CardRequest) : Holder where
  resourceClass := req.size.resourceClass
  mode := req.mode
  clusterId := req.clusterId
  gpuMemMb := req.size.gpuMemMb
  gpuCores := req.size.gpuCores
  pauseMode := req.pauseMode
  preemptible := req.preemptible
  priority := req.size.priority
  status := .pending
  boundGpuUuid := none

/-- The rows of one user and the device tables. -/
structure Tenancy where
  account : Account
  inventory : Inventory

structure AdmitCall where
  request : CardRequest
  call : CreateCall
deriving DecidableEq, Repr

structure AdmitInput where
  id : SessionId
  /-- The gate, the ledger or the cluster accepts. -/
  accepted : Bool
  query : Query
  spotQuery : Query
  /-- The session that a preemption pauses. -/
  victim : Option SessionId

namespace AdmitCall

/-- The transaction on the device tables at this point of an admission. -/
def transaction? (req : CardRequest) (input : AdmitInput) : CreateCall → Option Transaction
  | .requested _ => some (.persist input.id req.holder)
  | .admitting _ id .reserving => some (.place id input.query input.spotQuery)
  | .admitting _ _ .preempting => input.victim.map fun victim => .pause victim .yield
  | .admitting _ id .borrowing => some (.borrow id input.spotQuery)
  | .admitting _ id .failed => some (.rollBack id)
  | .admitting .. | .finished => none

/-- The session of the admission has a slice. -/
def placed (inv : Inventory) : CreateCall → Bool
  | .admitting _ id _ => (inv.live.find? id).isSome
  | .requested _ | .finished => false

def accepted (input : AdmitInput) : CreateCall → Bool
  | .admitting _ _ .preempting => input.victim.isSome
  | .requested _ | .admitting .. | .finished => input.accepted

/-- The step of the rows beside new device tables. -/
def goOn (policy : Option EffectivePolicy) (account : Account) (call : AdmitCall) (input : AdmitInput)
    (inv : Inventory) : Option (Tenancy × AdmitCall) :=
  (call.call.next policy account
      ⟨input.id, accepted input call.call, placed inv call.call⟩).map fun (account, after) =>
    (⟨account, inv⟩, { call with call := after })

/-- One transaction of an admission. One that the database fails ends the admission; a preemption that
fails only leads to the queue. -/
def next (policy : Option EffectivePolicy) (tenancy : Tenancy) (call : AdmitCall) (input : AdmitInput) :
    Option (Tenancy × AdmitCall) :=
  match transaction? call.request input call.call with
  | none => goOn policy tenancy.account call input tenancy.inventory
  | some transaction =>
    match tenancy.inventory.apply transaction with
    | some inv => goOn policy tenancy.account call input inv
    | none =>
      match call.call with
      | .admitting size id .preempting => some (tenancy, { call with call := .admitting size id .checking })
      | .admitting size id _ => some (tenancy, { call with call := .admitting size id .failed })
      | .requested _ | .finished => none

end AdmitCall

/-- A transaction of the admission of another user. It may pause anybody. -/
def Transaction.elsewhere (account : Account) : Transaction → Bool
  | .persist id _ | .place id _ _ | .borrow id _ | .rollBack id => (account.sessions.find? id).isNone
  | .pause _ mode => mode == .yield
  | _ => false

/-- The admissions of a user, and in between those of others. -/
def admitProgram (policy : Option EffectivePolicy) : Program Tenancy AdmitCall AdmitInput Transaction where
  entry call := ∃ req : CardRequest, call = ⟨req, .requested req.size⟩
  next _ := AdmitCall.next policy
  outside tenancy transaction :=
    if transaction.elsewhere tenancy.account then
      (tenancy.inventory.apply transaction).map fun inv => { tenancy with inventory := inv }
    else none

instance (policy : Option EffectivePolicy) : DecidablePred (admitProgram policy).entry :=
  fun call => decidable_of_iff (call.call = .requested call.request.size)
    ⟨fun starts => ⟨call.request, by rw [← starts]⟩, by rintro ⟨req, rfl⟩; rfl⟩

/-- What the user's sessions hold of the cards. -/
def Tenancy.held (tenancy : Tenancy) (amount : Allocation → ℕ) : ℕ :=
  tenancy.inventory.live.total fun row =>
    if (tenancy.account.sessions.find? row.session).isSome then amount row else 0

end GShare.Model
