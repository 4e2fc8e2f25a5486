import GShare.Proofs.Session.Tenancy
import GShare.Soundness.Quota
import GShare.Soundness.Samples

/-! # What a user holds beside what a user asked for

The limits of a policy are checked against the columns of the requests, and the placement decides what a
session gets: a whole card for an exclusive one, an instance for one on a partitioned card. The limits bound
what the user's sessions hold as long as each request names at least what it gets.
-/

namespace GShare.Soundness.Holdings

open GShare.Model Accounting Machine Inventory Roster Account AdmitCall Option Function Quota

variable {policy : EffectivePolicy} {tenancy next : Tenancy} {account : Account} {id : SessionId} {inv : Inventory}
variable {row : Allocation} {size : SizeRequest} {point : AdmitPoint} {after : CreateCall} {req : CardRequest}
variable {call : AdmitCall}

def resource : Dimension → Resource
  | .mem => .gpuMemMb
  | .cores => .gpuCores

/-- If the session is the user's, its row counts and allows what it holds. -/
def Covers (account : Account) (row : Allocation) : Prop :=
  ∀ own, account.sessions.find? row.session = some own → own.isActive ∧ own.passed ∧
    ∀ dim, row.amount dim ≤ (own.size (resource dim)).getD 0

structure Covered (policy : EffectivePolicy) (tenancy : Tenancy) : Prop where
  caps : WithinCaps policy tenancy.account
  rows : ∀ row ∈ tenancy.inventory.live.rows, Covers tenancy.account row

theorem Covered.held_le (covered : Covered policy tenancy) (dim : Dimension)
    (limited : 0 < policy.limits (resource dim)) : tenancy.held (·.amount dim) ≤ policy.limits (resource dim) := by
  refine le_trans (total_le_of_keys fun row member heavy => ?_)
    (covered.caps.sums (resource dim) limited)
  have mine : (tenancy.account.sessions.find? row.session).isSome := by
    by_contra other
    exact heavy (if_neg other)
  obtain ⟨own, found⟩ := isSome_iff_exists.mp mine
  obtain ⟨active, passed, within⟩ := covered.rows row member own found
  obtain ⟨among, same⟩ := find?_eq_some_iff.mp found
  refine ⟨own, among, same, ?_⟩
  rw [if_pos mine, if_pos ⟨active, passed⟩]
  exact within dim

theorem Covers.step {policy : Option EffectivePolicy} {next : Account}
    (step : CreateStep policy account (.admitting size id point) next after)
    (covers : Covers account row) (apart : point = .failed → row.session ≠ id) : Covers next row := by
  intro own found
  cases step with
  | passed =>
    simp only [markPassed, reviseSession, find?_revise,
      map_eq_some_iff] at found
    obtain ⟨before, isBefore, rfl⟩ := found
    obtain ⟨active, passed, within⟩ := covers before isBefore
    split_ifs
    · exact ⟨active, rfl, within⟩
    · exact ⟨active, passed, within⟩
  | moved | applied => exact covers own found
  | enqueued =>
    rw [sessions_enqueue] at found
    exact covers own found
  | failed =>
    simp only [markFailed, reviseSession, find?_revise,
      map_eq_some_iff] at found
    obtain ⟨before, isBefore, rfl⟩ := found
    have another : before.id ≠ id := by
      rw [(find?_eq_some_iff.mp isBefore).2]
      exact apart rfl
    rw [if_neg another]
    exact covers before isBefore

/-- The request names at least what the cards it looks at would give it, when it is about to be placed. -/
def NamesAt (inv : Inventory) (input : AdmitInput) (req : CardRequest) : CreateCall → Prop
  | .admitting _ _ .reserving => inv.NamesAll req.holder input.query.devices ∧
    inv.NamesAll req.holder input.spotQuery.devices
  | .admitting _ _ .borrowing => inv.NamesAll req.holder input.spotQuery.devices
  | .requested _ | .admitting .. | .finished => True

instance (input : AdmitInput) : DecidablePred (NamesAt inv input req) := fun _ => by
  unfold NamesAt
  split <;> infer_instance

/-- Every request does so at the moment it is placed. -/
def NamesSlices (turn : Turn Tenancy AdmitCall) : Move AdmitCall AdmitInput Transaction → Prop
  | .proceed input => ∀ call ∈ turn.current, NamesAt turn.store.inventory input call.request call.call
  | .enter _ | .outside _ => True

instance (turn : Turn Tenancy AdmitCall) : DecidablePred (NamesSlices turn) := fun _ => by
  unfold NamesSlices
  split <;> infer_instance

/-- What an admission in progress relies on: the session asks for what the request does, its row counts and
has the size of the request, and it has passed the quota step before it is placed. -/
def Ready (tenancy : Tenancy) (call : AdmitCall) : Prop :=
  match call.call with
  | .requested size => size = call.request.size
  | .admitting size id point => size = call.request.size ∧ tenancy.inventory.Asks id call.request ∧
    ∃ own, tenancy.account.sessions.find? id = some own ∧ own.size = persistedSize size ∧
      own.isActive ∧ (point.awaits → own.passed)
  | .finished => True

/-- What the device tables of an admission become: what is held was held before, or is the slice of the
session, which is at most what the request names. -/
structure TablesStep (req : CardRequest) (id : SessionId) (point : AdmitPoint)
    (before after : Inventory) : Prop where
  rows : ∀ row ∈ after.live.rows, row ∈ before.live.rows ∧ (point = .failed → row.session ≠ id) ∨
    row.session = id ∧ point.awaits ∧ ∀ dim, row.amount dim ≤ req.holder.size dim
  asks : ∀ other req, before.Asks other req → after.Asks other req

theorem TablesStep.same (lives : point ≠ .failed) : TablesStep req id point inv inv :=
  ⟨fun _ member => .inl ⟨member, fun failed => absurd failed lives⟩, fun _ _ asks => asks⟩

theorem tablesStep_of_transaction {input : AdmitInput}
    (tables : match transaction? req input (.admitting size id point) with
      | none => inv = tenancy.inventory
      | some transaction => tenancy.inventory.apply transaction = some inv)
    (meets : NamesAt tenancy.inventory input req (.admitting size id point))
    (asks : tenancy.inventory.Asks id req) : TablesStep req id point tenancy.inventory inv := by
  obtain ⟨asked, isAsked, mode, cluster, sizes⟩ := asks
  have names : ∀ devices, tenancy.inventory.NamesAll asked devices ↔
      tenancy.inventory.NamesAll req.holder devices := by
    simp only [Inventory.NamesAll, Holder.Names, mode, cluster, sizes]
    exact fun _ => Iff.rfl
  cases point with
  | reserving =>
    obtain ⟨holder, isHolder, run⟩ := bind_eq_some_iff.mp tables
    cases some.inj (isAsked.symm.trans isHolder)
    refine ⟨fun row member => ?_, fun _ _ asks => asks.of_session (place_session run)⟩
    rcases place_names run member with old | ⟨own, within⟩
    · exact .inl ⟨old, by simp⟩
    · refine .inr ⟨own, rfl, fun dim => ?_⟩
      rw [← sizes dim]
      exact within ((names _).mpr meets.1) ((names _).mpr meets.2) dim
  | borrowing =>
    obtain ⟨holder, isHolder, run⟩ := bind_eq_some_iff.mp tables
    obtain ⟨⟨_, placed⟩, spot, rfl⟩ := map_eq_some_iff.mp run
    cases some.inj (isAsked.symm.trans isHolder)
    refine ⟨fun row member => ?_, fun _ _ asks => asks.of_session (reserveSpotSlice_session spot)⟩
    rcases reserveSpotSlice_names spot member with old | ⟨own, within⟩
    · exact .inl ⟨old, by simp⟩
    · refine .inr ⟨own, rfl, fun dim => ?_⟩
      rw [← sizes dim]
      exact within ((names _).mpr meets) dim
  | preempting =>
    cases found : input.victim with
    | none =>
      simp only [transaction?, found, map_none] at tables
      rw [tables]
      exact .same (by decide)
    | some victim =>
      simp only [transaction?, found, map_some] at tables
      obtain ⟨_, -, rfl⟩ := map_eq_some_iff.mp tables
      refine ⟨fun row member => .inl ⟨?_, by simp⟩, fun _ _ asks => asks.pause⟩
      rwa [pause_yield_live] at member
  | failed =>
    cases tables
    refine ⟨fun row member => .inl ?_, fun _ _ asks => asks.releaseReservation⟩
    obtain ⟨old, another⟩ := mem_releaseReservation.mp member
    exact ⟨old, fun _ => another⟩
  | validating | quoting | budgeting | holding | checking | enqueueing | applying =>
    cases tables
    exact .same (by decide)

theorem Ready.step {policy : Option EffectivePolicy} (stands : call.call = .admitting size id point)
    (step : CreateStep policy tenancy.account (.admitting size id point) account after)
    (tables : TablesStep call.request id point tenancy.inventory inv) (ready : Ready tenancy call) :
    Ready ⟨account, inv⟩ ⟨call.request, after⟩ := by
  simp only [Ready, stands] at ready
  obtain ⟨same, asks, own, found, sized, active, passed⟩ := ready
  have stillAsks := tables.asks id call.request asks
  cases step with
  | passed =>
    refine ⟨same, stillAsks, { own with passed := true }, ?_, sized, active, fun _ => rfl⟩
    simp [markPassed, reviseSession, find?_revise, found,
      (find?_eq_some_iff.mp found).2]
  | moved awaits => exact ⟨same, stillAsks, own, found, sized, active, fun later => passed (awaits later)⟩
  | enqueued | applied | failed => trivial

theorem Covered.stepped (stands : call.call = .admitting size id point)
    (step : CreateStep (some policy) tenancy.account (.admitting size id point) account after)
    (tables : TablesStep call.request id point tenancy.inventory inv)
    (covered : Covered policy tenancy) (ready : Ready tenancy call) : Covered policy ⟨account, inv⟩ := by
  simp only [Ready, stands] at ready
  obtain ⟨same, -, own, found, sized, active, passed⟩ := ready
  refine ⟨withinCaps_step step covered.caps ⟨own, found, sized⟩, fun row member => ?_⟩
  rcases tables.rows row member with ⟨old, apart⟩ | ⟨mine, awaits, within⟩
  · exact (covered.rows row old).step step apart
  · refine Covers.step step ?_ fun failed => ?_
    · intro found' isFound
      rw [mine, found] at isFound
      cases isFound
      refine ⟨active, passed awaits, fun dim => (within dim).trans ?_⟩
      rw [sized, same]
      cases dim <;> exact le_rfl
    · rw [failed] at awaits
      cases awaits

/-- The pending row of a new session covers nothing, and nothing is held by that session. -/
theorem Covered.persisted {holder : Holder}
    (inserted : tenancy.account.persist id size = some account)
    (applied : tenancy.inventory.apply (.persist id holder) = some inv)
    (covered : Covered policy tenancy) : Covered policy ⟨account, inv⟩ := by
  refine ⟨covered.caps.of_lowers (lowers_persist inserted), fun row member own found => ?_⟩
  simp only [apply] at applied
  split_ifs at applied with fresh
  cases applied
  obtain ⟨sessions, put, rfl⟩ := map_eq_some_iff.mp inserted
  have idle : tenancy.inventory.live.find? id = none := by simpa using fresh.2.1
  have another : row.session ≠ id := find?_eq_none_iff.mp idle row member
  rw [find?_insert_of_ne put another] at found
  exact covered.rows row member own found

theorem Ready.persisted {req : CardRequest}
    (inserted : tenancy.account.persist id req.size = some account)
    (applied : tenancy.inventory.apply (.persist id req.holder) = some inv) :
    Ready ⟨account, inv⟩ ⟨req, .admitting req.size id .validating⟩ := by
  simp only [apply] at applied
  split_ifs at applied
  cases applied
  obtain ⟨sessions, put, rfl⟩ := map_eq_some_iff.mp inserted
  exact ⟨rfl, ⟨req.holder, update_self .., rfl, rfl, fun _ => rfl⟩, _, find?_insert put, rfl,
    rfl, fun awaits => by cases awaits⟩

/-- The transactions of other users leave the user's allocations and requests. -/
theorem elsewhere_keeps {transaction : Transaction} (elsewhere : transaction.elsewhere tenancy.account)
    (applied : tenancy.inventory.apply transaction = some inv) :
    (∀ row ∈ inv.live.rows, row ∈ tenancy.inventory.live.rows ∨
      tenancy.account.sessions.find? row.session = none) ∧
    ∀ other req, tenancy.inventory.Asks other req → inv.Asks other req := by
  cases transaction with
  | persist id holder =>
    simp only [apply] at applied
    split_ifs at applied with fresh
    cases applied
    refine ⟨fun row member => .inl member, ?_⟩
    rintro other req ⟨asked, isAsked, same⟩
    have another : other ≠ id := by
      rintro rfl
      simp [isAsked] at fresh
    exact ⟨asked, (update_of_ne another ..).trans isAsked, same⟩
  | place id query spotQuery =>
    obtain ⟨holder, -, run⟩ := bind_eq_some_iff.mp applied
    refine ⟨fun row member => (place_names run member).imp_right fun own => ?_,
      fun _ _ asks => asks.of_session (place_session run)⟩
    rw [own.1]
    exact isNone_iff_eq_none.mp elsewhere
  | borrow id query =>
    obtain ⟨holder, -, run⟩ := bind_eq_some_iff.mp applied
    obtain ⟨⟨_, placed⟩, spot, rfl⟩ := map_eq_some_iff.mp run
    refine ⟨fun row member => (reserveSpotSlice_names spot member).imp_right fun own => ?_,
      fun _ _ asks => asks.of_session (reserveSpotSlice_session spot)⟩
    rw [own.1]
    exact isNone_iff_eq_none.mp elsewhere
  | rollBack id =>
    cases applied
    exact ⟨fun row member => .inl (mem_releaseReservation.mp member).1,
      fun _ _ asks => asks.releaseReservation⟩
  | pause id mode =>
    obtain rfl : mode = .yield := by simpa [Transaction.elsewhere] using elsewhere
    obtain ⟨_, -, rfl⟩ := map_eq_some_iff.mp applied
    refine ⟨fun row member => .inl ?_, fun _ _ asks => asks.pause⟩
    rwa [pause_yield_live] at member
  | resumeCold | resumeHeld | reclaim | demote | claim | release | finish | report => cases elsewhere

def finished (call : AdmitCall) : Bool := call.call == .finished

theorem keeps_covered : (admitProgram (some policy)).KeepsTurns finished NamesSlices (Covered policy)
    fun tenancy call => Covered policy tenancy ∧ Ready tenancy call where
  enter := by
    rintro tenancy call ⟨req, rfl⟩ covered
    exact ⟨covered, rfl⟩
  own := by
    rintro tenancy call input next after meets taken ⟨covered, ready⟩
    suffices both : Covered policy next ∧ Ready next after by
      split_ifs
      · exact both.1
      · exact both
    obtain ⟨req, call⟩ := call
    cases admitStep_of_next taken with
    | persisted stands inserted applied =>
      cases stands
      cases (show _ = req.size from ready)
      exact ⟨covered.persisted inserted applied, .persisted inserted applied⟩
    | aborted stands onward =>
      cases stands
      obtain ⟨same, asks, own, found, sized, active, passed⟩ := ready
      exact ⟨covered, same, asks, own, found, sized, active, fun later => passed (onward later)⟩
    | stepped stands step tables =>
      cases stands
      have tables := tablesStep_of_transaction tables (meets _ rfl) ready.2.1
      exact ⟨covered.stepped rfl step tables ready, ready.step rfl step tables⟩
  outside := by
    intro tenancy transaction next changed
    simp only [admitProgram] at changed
    split_ifs at changed with elsewhere
    obtain ⟨inv, applied, rfl⟩ := map_eq_some_iff.mp changed
    obtain ⟨rows, asks⟩ := elsewhere_keeps elsewhere applied
    have covers : Covered policy tenancy → Covered policy { tenancy with inventory := inv } := by
      refine fun covered => ⟨covered.caps, fun row member own found => ?_⟩
      rcases rows row member with old | unknown
      · exact covered.rows row old own found
      · cases unknown.symm.trans found
    refine ⟨covers, fun call both => ⟨covers both.1, ?_⟩⟩
    obtain ⟨req, call⟩ := call
    cases call with
    | requested => exact both.2
    | admitting =>
      obtain ⟨same, asked, rest⟩ := both.2
      exact ⟨same, asks _ _ asked, rest⟩
    | finished => trivial

/-- Where every request names at least what the cards it looks at would give it, what the sessions of a user
hold is within the limits of the policy in both dimensions, however many admissions there are. -/
theorem held_within_limits {first last : Turn Tenancy AdmitCall}
    {moves : List (Move AdmitCall AdmitInput Transaction)} (memory : 0 < policy.limits .gpuMemMb)
    (cores : 0 < policy.limits .gpuCores) (idle : first.current = none)
    (new : first.store.account.sessions.rows = [])
    (run : Run ((admitProgram (some policy)).turn finished) NamesSlices first moves last) :
    last.store.held (fun row => row.gpuMemMb.getD 0) ≤ policy.limits .gpuMemMb ∧
      last.store.held (fun row => row.gpuCores.getD 0) ≤ policy.limits .gpuCores := by
  have nobody : ∀ id, first.store.account.sessions.find? id = none := by
    intro id
    rw [find?_eq_none_iff, new]
    exact fun _ impossible => absurd impossible List.not_mem_nil
  have nothing : ∀ weight, passedSum first.store.account weight = 0 := fun weight =>
    total_eq_zero fun row member => absurd (new ▸ member) List.not_mem_nil
  have initial : first.Holds (Covered policy)
      fun tenancy call => Covered policy tenancy ∧ Ready tenancy call := by
    rw [Turn.Holds, idle]
    refine ⟨⟨fun limit _ => ?_, fun resource _ => ?_⟩, fun row _ own found => ?_⟩
    · rw [nothing]
      exact Nat.zero_le _
    · rw [nothing]
      exact Nat.zero_le _
    · cases (nobody row.session).symm.trans found
  have covered : Covered policy last.store := by
    have holds := keeps_covered.run run initial
    unfold Turn.Holds at holds
    split at holds
    · exact holds
    · exact holds.1
  exact ⟨covered.held_le .mem memory, covered.held_le .cores cores⟩

def limitsOf (mem cores : ℕ) : EffectivePolicy where
  maxConcurrent := none
  maxQueued := none
  cpuSessionMaxConcurrent := 0
  limits
    | .gpuMemMb => mem
    | .gpuCores => cores
    | _ => 0

def exclusiveRequest (mem cores : Option ℕ) : CardRequest :=
  ⟨⟨.gpu, 0, none, mem, cores, some 4, some 16, none⟩, some .exclusive, 0, .cold, false⟩

/-- A user without sessions beside an empty card. -/
def newcomer : Turn Tenancy AdmitCall := ⟨⟨⟨.empty _, .empty _⟩, Samples.oneCard⟩, none⟩

def placesOne (req : CardRequest) : List (Move AdmitCall AdmitInput Transaction) :=
  .enter ⟨req, .requested req.size⟩ ::
    List.replicate 6 (.proceed ⟨0, true, Samples.theCard, Samples.theCard, none⟩)

/-- A request that names the whole card is within limits of one card. -/
theorem held_within_limits_named :
    ∃ last, Run ((admitProgram (some (limitsOf 24576 100))).turn finished) NamesSlices newcomer
        (placesOne (exclusiveRequest (some 24576) (some 100))) last ∧
      last.store.held (fun row => row.gpuMemMb.getD 0) = 24576 ∧
      last.store.held (fun row => row.gpuMemMb.getD 0) ≤ 24576 ∧
        last.store.held (fun row => row.gpuCores.getD 0) ≤ 100 :=
  exists_run_imp (fun last => last.store.held (fun row => row.gpuMemMb.getD 0) = 24576) (by decide +kernel)
    fun _ run holds => ⟨holds, held_within_limits (by decide) (by decide) rfl rfl run⟩

/-- A request that names nothing passes limits of a twenty-fourth of the card and holds all of it. -/
theorem held_above_limits :
    (execute ((admitProgram (some (limitsOf 1024 10))).turn finished) (fun _ _ => True) newcomer
      (placesOne (exclusiveRequest none none))).map (fun last =>
        (last.store.held fun row => row.gpuMemMb.getD 0, last.store.held fun row => row.gpuCores.getD 0))
      = some (24576, 100) := by
  decide +kernel

end GShare.Soundness.Holdings
