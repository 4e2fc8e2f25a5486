import GShare.Model.Session.Tenancy
import GShare.Proofs.Device.Writes
import GShare.Proofs.Session.Quota

/-! # What an admission takes of the cards

What a placement records for a session is at most what the session names, if it names at least the whole
card as an exclusive one and at least the instance on a partitioned card. `AdmitStep` lists what a
transaction of an admission does to the user's rows and to the device tables.
-/

namespace GShare.Model

open Target Card Option

/-- The columns of a session that its limits are checked with. -/
def Holder.size (holder : Holder) : Dimension → ℕ
  | .mem => holder.gpuMemMb.getD 0
  | .cores => holder.gpuCores.getD 0

/-- The session names at least what it would get of the card: all of it if it is exclusive, and on a
partitioned card the instance that its size is rounded up to. -/
def Holder.Names (holder : Holder) (card : Card) : Prop :=
  if holder.mode = some .exclusive then
    card.totalMemMb ≤ holder.size .mem ∧ card.totalCores ≤ holder.size .cores
  else card.mode = some .mig →
    ∀ size ∈ card.migRounded (holder.size .mem) (holder.size .cores),
      size.1 ≤ holder.size .mem ∧ size.2 ≤ holder.size .cores

instance (holder : Holder) (card : Card) : Decidable (holder.Names card) := by
  unfold Holder.Names
  infer_instance

variable {req : CardRequest} {placed : Bool} {other : SessionId} {devices : List DeviceId}

namespace Inventory

variable {inv next : Inventory} {id : SessionId} {holder : Holder} {query spotQuery : Query}
variable {row : Allocation}

/-- It does so for every card of its cluster and mode among the queried ones. -/
def NamesAll (inv : Inventory) (holder : Holder) (devices : List DeviceId) : Prop :=
  ∀ dev ∈ devices, ∀ card ∈ inv.card dev, card.clusterId = holder.clusterId →
    serves holder.mode card → holder.Names card

instance : Decidable (inv.NamesAll holder devices) := by
  unfold Inventory.NamesAll
  infer_instance

theorem slice_le {card : Card} {size share : ℕ} (names : holder.Names card)
    (given : card.slice (holder.size .mem) (holder.size .cores) (holder.mode == some .exclusive)
      = some (size, share)) : size ≤ holder.size .mem ∧ share ≤ holder.size .cores := by
  unfold Holder.Names at names
  by_cases exclusive : holder.mode = some .exclusive
  · rw [if_pos exclusive] at names
    rw [beq_iff_eq.mpr exclusive, slice_exclusive] at given
    split_ifs at given
    cases given
    exact names
  · rw [if_neg exclusive] at names
    rw [beq_eq_false_iff_ne.mpr exclusive] at given
    by_cases partitioned : card.mode = some .mig
    · rw [slice_mig partitioned, filter_eq_some_iff] at given
      exact names partitioned (size, share) given.1
    · rw [slice_shared partitioned] at given
      split_ifs at given
      cases given
      exact ⟨le_rfl, le_rfl⟩

theorem names_setUsed {before after : Card} {mem cores : ℕ} (set : before.setUsed mem cores = some after) :
    holder.Names after ↔ holder.Names before := by
  obtain ⟨_, rfl⟩ := setUsed_eq_some set
  rfl

/-- A live allocation after a reservation was there before, or is the session's new one, which takes at
most what the session names. -/
theorem reserveSlice_names
    (run : inv.reserveSlice id holder query = some (next, placed)) (member : row ∈ next.live.rows) :
    row ∈ inv.live.rows ∨
      row.session = id ∧ (inv.NamesAll holder query.devices → ∀ dim, row.amount dim ≤ holder.size dim) := by
  cases placed with
  | false =>
    cases reserveSlice_reserved run with
    | refused reconciled => exact .inl (reconciled.live ▸ member)
  | true =>
    obtain ⟨middle, target, card, placed⟩ := reserveSlice_placed run
    obtain ⟨_, _, -, -, recorded⟩ := (book_booked placed.booked).card
    rcases (mem_record recorded).mp member with rfl | old
    · refine .inr ⟨rfl, fun names => ?_⟩
      obtain ⟨before, isBefore, meets, counted⟩ := placed.meets
      simp only [placeable, Bool.and_eq_true, beq_iff_eq] at meets
      have named := names target.device placed.listed before isBefore meets.1.2 meets.2
      obtain ⟨mem, cores⟩ := slice_le ((names_setUsed counted).mpr named) placed.given
      rintro (_ | _)
      · exact mem
      · exact cores
    · exact .inl ((reconcile_reconciled placed.reconciled).live ▸ old)

theorem reserveSpotSlice_names (run : inv.reserveSpotSlice id holder query = some (next, placed))
    (member : row ∈ next.live.rows) : row ∈ inv.live.rows ∨
      row.session = id ∧ (inv.NamesAll holder query.devices → ∀ dim, row.amount dim ≤ holder.size dim) := by
  cases reserveSpotSlice_reserved run with
  | refused => exact .inl member
  | @placed _ target _ chosen _ _ borrowed =>
    rcases (mem_record borrowed).mp member with rfl | old
    · refine .inr ⟨rfl, fun names => ?_⟩
      obtain ⟨card, found, lends, room, listed, -⟩ := spotTarget_borrowable chosen
      simp only [lendable, Bool.and_eq_true, beq_iff_eq] at lends
      simp only [borrowable] at room
      split_ifs at room with exclusive _ left
      · have serves : serves holder.mode card := by simp [serves, exclusive, lends.1.2]
        have named := names target.device listed card found lends.1.1.2 serves
        rw [Holder.Names, if_pos exclusive] at named
        have whole := (some.inj room).symm
        rintro (_ | _)
        · exact (congrArg mem whole).trans_le named.1
        · exact (congrArg cores whole).trans_le named.2
      · have own := (some.inj room).symm
        rintro (_ | _)
        · exact (congrArg mem own).le
        · exact (congrArg cores own).le
    · exact .inl (modifyCard_live ▸ old)

theorem namesAll_of_reconciled {others : List DeviceId}
    (reconciled : inv.Reconciled others next) (names : inv.NamesAll holder devices) :
    next.NamesAll holder devices := by
  intro dev member card found cluster serving
  rcases reconciled.card dev with same | ⟨-, before, after, isBefore, isAfter, set⟩
  · exact names dev member card (same ▸ found) cluster serving
  · cases some.inj (found.symm.trans isAfter)
    obtain ⟨_, rfl⟩ := setUsed_eq_some set
    exact names dev member before isBefore cluster serving

theorem place_names (run : inv.place id holder query spotQuery = some next) (member : row ∈ next.live.rows) :
    row ∈ inv.live.rows ∨ row.session = id ∧ (inv.NamesAll holder query.devices →
      inv.NamesAll holder spotQuery.devices → ∀ dim, row.amount dim ≤ holder.size dim) := by
  obtain ⟨⟨middle, placed⟩, reserved, run⟩ := bind_eq_some_iff.mp run
  dsimp only at run
  split_ifs at run with done
  · cases run
    exact (reserveSlice_names reserved member).imp_right fun ⟨own, within⟩ =>
      ⟨own, fun names _ => within names⟩
  · obtain ⟨⟨_, borrowed⟩, spot, rfl⟩ := map_eq_some_iff.mp run
    have refused : placed = false := by
      cases placed
      · rfl
      · simp at done
    subst refused
    cases reserveSlice_reserved reserved with
    | refused reconciled =>
      rcases reserveSpotSlice_names spot member with old | ⟨own, within⟩
      · exact .inl (reconciled.live ▸ old)
      · exact .inr ⟨own, fun _ names => within (namesAll_of_reconciled reconciled names)⟩

theorem reserveSpotSlice_session (run : inv.reserveSpotSlice id holder query = some (next, placed)) :
    next.session = inv.session := by
  cases reserveSpotSlice_reserved run with
  | refused => rfl
  | placed _ _ _ borrowed => exact (record_eq_some borrowed).2.1.trans modifyCard_session

theorem place_session (run : inv.place id holder query spotQuery = some next) :
    next.session = inv.session := by
  obtain ⟨⟨middle, placed⟩, reserved, run⟩ := bind_eq_some_iff.mp run
  dsimp only at run
  split_ifs at run
  · cases run
    exact reserveSlice_session reserved
  · obtain ⟨⟨_, borrowed⟩, spot, rfl⟩ := map_eq_some_iff.mp run
    exact (reserveSpotSlice_session spot).trans (reserveSlice_session reserved)

def Asks (inv : Inventory) (id : SessionId) (req : CardRequest) : Prop :=
  ∃ holder, inv.session id = some holder ∧ holder.mode = req.mode ∧
    holder.clusterId = req.clusterId ∧ ∀ dim, holder.size dim = req.holder.size dim

theorem Asks.of_session (same : next.session = inv.session) (asks : inv.Asks id req) : next.Asks id req := by
  rwa [Asks, same]

/-- A change of the status leaves what a session asks for. -/
theorem Asks.modifySession {alter : Holder → Holder}
    (keeps : ∀ holder, (alter holder).mode = holder.mode ∧ (alter holder).clusterId = holder.clusterId ∧
      (alter holder).gpuMemMb = holder.gpuMemMb ∧ (alter holder).gpuCores = holder.gpuCores)
    (asks : inv.Asks id req) : (inv.modifySession other alter).Asks id req := by
  obtain ⟨holder, found, mode, cluster, size⟩ := asks
  by_cases here : id = other
  · obtain ⟨sameMode, sameCluster, sameMem, sameCores⟩ := keeps holder
    refine ⟨alter holder, ?_, sameMode.trans mode, sameCluster.trans cluster, fun dim => ?_⟩
    · rw [modifySession_session, if_pos here, found, map_some]
    · rw [← size dim]
      cases dim
      · exact congrArg (getD · 0) sameMem
      · exact congrArg (getD · 0) sameCores
  · exact ⟨holder, by rw [modifySession_session, if_neg here, found], mode, cluster, size⟩

theorem pause_yield_live : (inv.pause id .yield).live = inv.live := by
  simp only [pause, setStatus, modifySession_live, setLendState]
  split
  · rfl
  · rw [modifyCard_live]

theorem Asks.pause (asks : inv.Asks id req) : (inv.pause other .yield).Asks id req := by
  refine Asks.modifySession (fun _ => ⟨rfl, rfl, rfl, rfl⟩) (asks.of_session ?_)
  simp only [setLendState]
  split
  · rfl
  · rw [modifyCard_session]

/-- The release of a failed admission takes the session's allocation and leaves what it asks for. -/
theorem mem_releaseReservation :
    row ∈ (inv.releaseReservation id).live.rows ↔ row ∈ inv.live.rows ∧ row.session ≠ id := by
  rw [releaseReservation, modifySession_live, mem_close]

theorem Asks.releaseReservation (asks : inv.Asks id req) : (inv.releaseReservation other).Asks id req := by
  refine Asks.modifySession (fun holder => ?_) (asks.of_session close_session)
  split_ifs <;> exact ⟨rfl, rfl, rfl, rfl⟩

end Inventory

variable (policy : Option EffectivePolicy) (tenancy : Tenancy) (call : AdmitCall) (input : AdmitInput) in
inductive AdmitStep : Tenancy → AdmitCall → Prop
  | persisted {size : SizeRequest} {account : Account} {inv : Inventory}
      (stands : call.call = .requested size)
      (inserted : tenancy.account.persist input.id size = some account)
      (applied : tenancy.inventory.apply (.persist input.id call.request.holder) = some inv) :
      AdmitStep ⟨account, inv⟩
        ⟨call.request, .admitting size input.id .validating⟩
  | aborted {size : SizeRequest} {id : SessionId} {point further : AdmitPoint}
      (stands : call.call = .admitting size id point)
      (onward : further.awaits → point.awaits) :
      AdmitStep tenancy ⟨call.request, .admitting size id further⟩
  | stepped {size : SizeRequest} {id : SessionId} {point : AdmitPoint} {account : Account}
      {inv : Inventory} {after : CreateCall} (stands : call.call = .admitting size id point)
      (step : CreateStep policy tenancy.account (.admitting size id point) account after)
      (tables : match AdmitCall.transaction? call.request input (.admitting size id point) with
        | none => inv = tenancy.inventory
        | some transaction => tenancy.inventory.apply transaction = some inv) :
      AdmitStep ⟨account, inv⟩ ⟨call.request, after⟩

theorem admitStep_of_next {policy : Option EffectivePolicy} {tenancy next : Tenancy}
    {call after : AdmitCall} {input : AdmitInput} (taken : call.next policy tenancy input = some (next, after)) :
    AdmitStep policy tenancy call input next after := by
  obtain ⟨req, call⟩ := call
  cases call with
  | requested size =>
    simp only [AdmitCall.next, AdmitCall.transaction?] at taken
    split at taken
    next inv applied =>
      obtain ⟨⟨account, after⟩, stepped, same⟩ := map_eq_some_iff.mp taken
      obtain ⟨persisted, inserted, isAfter⟩ := map_eq_some_iff.mp stepped
      cases same
      cases isAfter
      exact .persisted rfl inserted applied
    next => cases taken
  | admitting size id point =>
    simp only [AdmitCall.next] at taken
    split at taken
    next none =>
      obtain ⟨⟨account, after⟩, stepped, same⟩ := map_eq_some_iff.mp taken
      cases same
      exact .stepped rfl (createStep_of_next stepped) (by rw [none])
    next transaction known =>
      split at taken
      next inv applied =>
        obtain ⟨⟨account, after⟩, stepped, same⟩ := map_eq_some_iff.mp taken
        cases same
        exact .stepped rfl (createStep_of_next stepped) (by rw [known]; exact applied)
      next =>
        split at taken
        next same =>
          cases same
          cases taken
          exact .aborted rfl fun _ => rfl
        next same =>
          cases same
          cases taken
          exact .aborted rfl fun awaits => by cases awaits
        next impossible => cases impossible
        next impossible => cases impossible
  | finished =>
    simp only [AdmitCall.next, AdmitCall.transaction?, AdmitCall.goOn] at taken
    obtain ⟨_, stepped, -⟩ := map_eq_some_iff.mp taken
    cases stepped

end GShare.Model
