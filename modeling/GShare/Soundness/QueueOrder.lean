import GShare.Model.Session.Queue
import GShare.Proofs.Device.Placement
import GShare.Soundness.Samples

/-! # Whose turn it is

The head of the queue is the entry that ranks first among those that are no resumes, so a turn of the head
never passes anybody over. A new session and a parked one do not ask the queue: each takes a card that has
room for it, whoever waits. The order is kept in every sequence of calls in which nobody who waits for the
same cards ranks ahead when that happens.
-/

namespace GShare.Model

open Accounting Inventory Option List

variable {inv : Inventory} {id : SessionId} {holder : Holder}

namespace Inventory

variable {next : Inventory} {query spotQuery : Query}
variable {victim : Option SessionId}

/-- There is a card for a new session: one that offers a slice, one that lends to a preemptible session, or
one whose resident can be paused for a session with a priority. -/
def Supplies (inv : Inventory) (holder : Holder) (query spotQuery : Query)
    (victim : Option SessionId) : Prop :=
  (∃ dev, inv.Offers holder query dev) ∨
    (holder.preemptible ∧ ∃ dev, inv.Lends holder spotQuery dev) ∨
    (holder.priority ≠ 0 ∧ victim.isSome)

theorem attempt_placed (run : inv.attempt id holder query spotQuery = some (next, true)) :
    (∃ dev, inv.Offers holder query dev) ∨
      (holder.preemptible ∧ ∃ dev, inv.Lends holder spotQuery dev) := by
  obtain ⟨⟨middle, placed⟩, reserved, rest⟩ := bind_eq_some_iff.mp run
  dsimp only at rest
  cases placed with
  | true =>
    obtain ⟨_, target, _, placed⟩ := reserveSlice_placed reserved
    exact .inl ⟨target.device, placed.offers⟩
  | false =>
    cases reserveSlice_reserved reserved with
    | refused reconciled =>
      split_ifs at rest with stays
      · cases rest
      · have preemptible : holder.preemptible := by simpa using stays
        obtain ⟨dev, lends⟩ := reserveSpotSlice_lends rest
        exact .inr ⟨preemptible, dev, reconciled.lends_iff.mp lends⟩

theorem seek_placed (run : inv.seek id holder query spotQuery victim = some (next, true)) :
    inv.Supplies holder query spotQuery victim := by
  obtain ⟨⟨middle, placed⟩, attempted, rest⟩ := bind_eq_some_iff.mp run
  dsimp only at rest
  cases placed with
  | true => exact (attempt_placed attempted).imp_right .inl
  | false =>
    split_ifs at rest with unranked
    · cases rest
    · split at rest
      · cases rest
      · exact .inr (.inr ⟨by simpa using unranked, rfl⟩)

end Inventory

namespace ResumeCall

variable {inputs : List ResumeInput}

theorem runAlone_returned : runAlone id inputs inv .returned = inv := by
  cases inputs <;> rfl

theorem runAlone_resuming : (runAlone id inputs inv .resuming).live = inv.live := by
  cases inputs with
  | nil => rfl
  | cons input rest =>
    simp only [runAlone, next, runAlone_returned]
    rfl

/-- A resume that took a slice found a card that offers one. -/
theorem runAlone_reserving {holder : Holder} (isHolder : inv.session id = some holder)
    (free : inv.live.find? id = none) (held : ((runAlone id inputs inv .reserving).live.find? id).isSome) :
    ∃ input ∈ inputs, ∃ dev, inv.Offers holder input.query dev := by
  cases inputs with
  | nil => simp [runAlone, free] at held
  | cons input rest =>
    simp only [runAlone, next, isHolder, map_some, runAlone_returned] at held
    refine ⟨input, mem_cons_self, ?_⟩
    cases resumed : inv.resumeCold id holder input.query with
    | none => simp [resumed, free] at held
    | some after =>
      obtain ⟨⟨middle, placed⟩, reserved, rest⟩ := bind_eq_some_iff.mp resumed
      cases placed with
      | true =>
        obtain ⟨_, target, _, placed⟩ := reserveSlice_placed reserved
        exact ⟨target.device, placed.offers⟩
      | false =>
        cases reserveSlice_reserved reserved with
        | refused reconciled =>
          cases rest
          simp [resumed, reconciled.live, free] at held

/-- A session without a slice is resumed onto a card that offers one, or stays without. -/
theorem runAlone_placed (free : inv.live.find? id = none)
    (held : ((runAlone id inputs inv .called).live.find? id).isSome) :
    ∃ holder ∈ inv.session id, ∃ input ∈ inputs, ∃ dev, inv.Offers holder input.query dev := by
  cases inputs with
  | nil => simp [runAlone, free] at held
  | cons input rest =>
    cases isHolder : inv.session id with
    | none => simp [runAlone, next, isHolder, free] at held
    | some holder =>
      simp only [runAlone, next, isHolder, map_some, free, isSome_none,
        Bool.false_eq_true, and_false, if_false] at held
      refine ⟨holder, rfl, ?_⟩
      split_ifs at held with allowed
      · obtain ⟨later, member, offers⟩ := runAlone_reserving isHolder free held
        exact ⟨later, mem_cons_of_mem _ member, offers⟩
      · simp [runAlone_resuming, free] at held
      · simp [runAlone_returned, free] at held

end ResumeCall

/-- In a list without repetitions, what stands before an element lies in front of it. -/
theorem mem_front_of_sublist {Row : Type*} {front back : List Row} {first second : Row}
    (once : (front ++ second :: back).Nodup) (pair : [first, second].Sublist (front ++ second :: back)) :
    first ∈ front := by
  induction front with
  | nil =>
    have absent : second ∉ back := (nodup_cons.mp once).1
    rcases sublist_cons_iff.mp pair with later | ⟨rest, same, later⟩
    · exact (absent (later.mem (by simp))).elim
    · cases same
      exact (absent (later.mem (by simp))).elim
  | cons head rest ih =>
    rcases sublist_cons_iff.mp pair with later | ⟨_, same, -⟩
    · exact mem_cons_of_mem _ (ih (nodup_cons.mp once).2 later)
    · cases same
      exact mem_cons_self

/-- What a session waits for: its cluster, its GPU model and its mode. -/
def asks (order : Order) (holder : Holder) : ClusterId × Option String × Option CardMode :=
  (holder.clusterId, order.model, holder.mode)

def RankedEntry.waited (entry : RankedEntry) (now : ℤ) : ℚ :=
  max (((now - entry.enqueuedAt : ℤ) : ℚ) / (60 * second : ℤ)) 0

variable {moment : Moment} {order : Order}

namespace Desk

variable {desk : Desk} {event : Event} {entry other : RankedEntry} {position : ℕ}

/-- What a stored session waits for. -/
def asked? (desk : Desk) (id : SessionId) : Option (ClusterId × Option String × Option CardMode) :=
  (desk.orders.find? id).bind fun order => (desk.inventory.session id).map (asks order)

/-- What the session that a call is about asks for; a new one is not stored yet. -/
def wanted? (desk : Desk) (event : Event) (id : SessionId) : Option (ClusterId × Option String × Option CardMode) :=
  match event with
  | .create order holder _ => some (asks order holder)
  | .start .. | .reschedule _ | .resumeParked .. | .other _ => desk.asked? id

def RanksAhead (desk : Desk) (moment : Moment) (entry : RankedEntry) (id : SessionId) : Prop :=
  ∃ own ∈ desk.queue.find? id, [entry, own].Sublist (desk.rank moment)

instance (entry : RankedEntry) : Decidable (desk.RanksAhead moment entry id) :=
  inferInstanceAs (Decidable (∃ own ∈ desk.queue.find? id, _))

/-- An entry is ahead of the session that a call gives a card. A new session is behind everyone of at least
its priority; a resume by hand takes no turn. -/
def Ahead (desk : Desk) (event : Event) (id : SessionId) (entry : RankedEntry) : Prop :=
  match event with
  | .create _ holder _ => holder.priority ≤ entry.priority
  | .reschedule input => desk.RanksAhead input.moment entry id
  | .resumeParked moment _ => desk.RanksAhead moment entry id
  | .start .. | .other _ => False

instance (entry : RankedEntry) : Decidable (desk.Ahead event id entry) := by
  unfold Desk.Ahead
  split <;> infer_instance

/-- Another pending session waits for the same cards and is ahead. -/
def Rival (desk : Desk) (event : Event) (id : SessionId) (entry : RankedEntry) : Prop :=
  entry.session ≠ id ∧ entry.resume = false ∧
    (∃ holder ∈ desk.inventory.session entry.session, holder.status = .pending) ∧
    (∃ want ∈ desk.wanted? event id, desk.asked? entry.session = some want) ∧
    desk.Ahead event id entry

instance (entry : RankedEntry) : Decidable (desk.Rival event id entry) :=
  inferInstanceAs (Decidable (_ ∧ _ ∧ _ ∧ _ ∧ _))

/-- Nobody is given a card before somebody ahead who waits for the same. -/
def KeepsOrder (desk : Desk) (event : Event) : Prop :=
  ∀ id ∈ (desk.step event).given, ∀ entry ∈ desk.queue.rows, ¬ desk.Rival event id entry

instance : Decidable (desk.KeepsOrder event) :=
  inferInstanceAs (Decidable (∀ id ∈ (desk.step event).given, _))

/-- The session that asks for a card without being the head. -/
def claimant? (desk : Desk) : Event → Option SessionId
  | .create order _ _ => some order.session
  | .resumeParked .. => desk.parked?.map RankedEntry.session
  | .start .. | .reschedule _ | .other _ => none

def HasCard (desk : Desk) (event : Event) (id : SessionId) : Prop :=
  match event with
  | .create _ holder input => desk.inventory.Supplies holder input.query input.spotQuery input.victim
  | .resumeParked _ inputs => ∃ holder ∈ desk.inventory.session id, ∃ input ∈ inputs, ∃ dev,
      desk.inventory.Offers holder input.query dev
  | .start .. | .reschedule _ | .other _ => False

/-- Whoever asks without being the head, while there is a card for it, has nobody ahead. -/
def Undisputed (desk : Desk) (event : Event) : Prop :=
  ∀ id ∈ desk.claimant? event, desk.HasCard event id →
    ∀ entry ∈ desk.queue.rows, ¬ desk.Rival event id entry

theorem rank_nodup (moment : Moment) : (desk.rank moment).Nodup :=
  (perm_insertionSort _ _).nodup_iff.mpr (List.Nodup.of_map _ desk.queue.unique)

instance : Std.Total (desk.RanksBefore moment) where
  total entry other := by
    unfold RanksBefore
    grind

instance : IsTrans RankedEntry (desk.RanksBefore moment) where
  trans entry middle other := by
    unfold RanksBefore
    grind

theorem precedes_of_not_ranksBefore (queued : entry ∈ desk.queue.rows)
    (waits : other ∈ desk.queue.rows) (behind : ¬desk.RanksBefore moment other entry) :
    [entry, other].Sublist (desk.rank moment) := by
  have sorted : (desk.rank moment).Pairwise (desk.RanksBefore moment) := pairwise_insertionSort _ _
  obtain ⟨front, back, split⟩ := append_of_mem (show entry ∈ desk.rank moment from (mem_insertionSort _).mpr queued)
  have ranked : other ∈ desk.rank moment := (mem_insertionSort _).mpr waits
  rw [split] at sorted ranked ⊢
  rcases mem_append.mp ranked with earlier | later
  · exact (behind ((pairwise_append.mp sorted).2.2 other earlier entry mem_cons_self)).elim
  · rcases mem_cons.mp later with rfl | later
    · exact (behind (.inr ⟨rfl, le_rfl⟩)).elim
    · exact ((singleton_sublist.mpr later).cons_cons entry).trans (sublist_append_right front _)

/-- What the usage of an entry's owner takes off its score. -/
def penalty (desk : Desk) (moment : Moment) (entry : RankedEntry) : ℚ :=
  (desk.orders.find? entry.session).elim 0 fun order =>
    activePenalty * min (desk.active order.owner) 10 + recentHoursPenalty * min (moment.recentHours order.owner) 24

theorem score_eq (entry : RankedEntry) : desk.score moment entry =
    priorityWeight * entry.priority + min (entry.waited moment.now) agingCapMin - desk.penalty moment entry := by
  unfold score penalty
  cases desk.orders.find? entry.session <;> simp [RankedEntry.score, RankedEntry.waited]

theorem recentHours_nonneg (owner : UserId) : 0 ≤ moment.recentHours owner := by
  refine sum_nonneg fun hours member => ?_
  obtain ⟨span, -, rfl⟩ := mem_map.mp member
  exact div_nonneg (by exact_mod_cast le_max_right _ _) (by decide +kernel)

theorem penalty_bounds (moment : Moment) (entry : RankedEntry) :
    0 ≤ desk.penalty moment entry ∧ desk.penalty moment entry ≤ 348 := by
  unfold penalty
  cases desk.orders.find? entry.session with
  | none => norm_num
  | some order =>
    have hours : 0 ≤ moment.recentHours order.owner := recentHours_nonneg _
    have active : ((min (desk.active order.owner) 10 : ℕ) : ℚ) ≤ 10 := by exact_mod_cast min_le_right _ _
    simp only [elim_some, activePenalty, recentHoursPenalty]
    constructor
    · positivity
    · linarith [min_le_right (moment.recentHours order.owner) 24]

theorem enqueuedAt_lt_of_waited_lt (now : ℤ) (longer : other.waited now < entry.waited now) :
    entry.enqueuedAt < other.enqueuedAt := by
  by_contra later
  refine longer.not_ge (max_le_max_right 0 (div_le_div_of_nonneg_right ?_ (by decide +kernel)))
  exact_mod_cast sub_le_sub_left (not_lt.mp later) now

theorem waited_le_of_enqueuedAt_lt (now : ℤ) (earlier : entry.enqueuedAt < other.enqueuedAt) :
    other.waited now ≤ entry.waited now := by
  by_contra longer
  exact absurd (enqueuedAt_lt_of_waited_lt now (not_le.mp longer)) earlier.not_gt

/-- The ranking is an order of the whole queue, by priority first. At equal priority it goes by the time of the
entry where the penalties are equal; a whole day of waiting comes before every larger penalty, and 348 minutes
more come before any penalty, as long as the other's waiting is not at the cap. -/
theorem rank_fair (desk : Desk) (moment : Moment) :
    (desk.rank moment).Perm desk.queue.rows ∧ ∀ entry ∈ desk.queue.rows, ∀ other ∈ desk.queue.rows,
      (other.priority < entry.priority → [entry, other].Sublist (desk.rank moment)) ∧
      (entry.priority = other.priority →
        (desk.penalty moment entry = desk.penalty moment other → entry.enqueuedAt < other.enqueuedAt →
          [entry, other].Sublist (desk.rank moment)) ∧
        (24 * 60 ≤ entry.waited moment.now → desk.penalty moment entry < desk.penalty moment other →
          [entry, other].Sublist (desk.rank moment)) ∧
        (other.waited moment.now + 348 ≤ entry.waited moment.now → other.waited moment.now ≤ 1092 →
          [entry, other].Sublist (desk.rank moment))) := by
  refine ⟨perm_insertionSort _ _, fun entry queued other waits => ?_⟩
  obtain ⟨-, most⟩ := desk.penalty_bounds moment entry
  obtain ⟨least, -⟩ := desk.penalty_bounds moment other
  have patient : 0 ≤ entry.waited moment.now := le_max_right _ _
  have beats (behind : ¬desk.RanksBefore moment other entry) := precedes_of_not_ranksBefore queued waits behind
  simp only [RanksBefore, score_eq, agingCapMin, priorityWeight] at beats
  refine ⟨fun higher => beats ?_, fun equal => ⟨fun same earlier => beats ?_, fun day larger => beats ?_,
    fun longer below => beats ?_⟩⟩
  · have step : (other.priority : ℚ) + 1 ≤ entry.priority := by exact_mod_cast higher
    have capped := min_le_right (other.waited moment.now) 1440
    have aged := le_min patient (show (0 : ℚ) ≤ 1440 by norm_num)
    rintro (ahead | ⟨tied, -⟩) <;> linarith
  · have aged := min_le_min_right 1440 (waited_le_of_enqueuedAt_lt moment.now earlier)
    rintro (ahead | ⟨-, older⟩)
    · rw [equal, same] at ahead
      linarith
    · exact older.not_gt earlier
  · have aged := min_le_right (other.waited moment.now) 1440
    have full : 1440 ≤ min (entry.waited moment.now) 1440 := le_min (by linarith) le_rfl
    rw [equal]
    rintro (ahead | ⟨tied, -⟩) <;> linarith
  · have older : entry.enqueuedAt < other.enqueuedAt := enqueuedAt_lt_of_waited_lt moment.now (by linarith)
    have aged : other.waited moment.now + 348 ≤ min (entry.waited moment.now) 1440 := le_min longer (by linarith)
    have capped := min_le_left (other.waited moment.now) 1440
    rw [equal]
    rintro (ahead | ⟨-, younger⟩)
    · linarith
    · exact younger.not_gt older

def ahead (desk : Desk) (moment : Moment) (entry : RankedEntry) : List RankedEntry :=
  (desk.rank moment).takeWhile (· ≠ entry)

/-- In a list without the others, an item is behind those that are left of the ones before it. -/
theorem mem_zipIdx_filter {entries : List RankedEntry} {keeps : RankedEntry → Bool}
    {first : ℕ} (nodup : entries.Nodup) : (entry, position) ∈ (entries.filter keeps).zipIdx first ↔
      entry ∈ entries ∧ keeps entry ∧
        position = first + ((entries.takeWhile (· ≠ entry)).filter keeps).length := by
  induction entries generalizing first with
  | nil => simp
  | cons head rest ih =>
    obtain ⟨fresh, nodup⟩ := nodup_cons.mp nodup
    by_cases own : head = entry
    · subst own
      cases kept : keeps head <;> simp [kept, ih nodup, fresh]
    · cases kept : keeps head <;> simp [kept, ih nodup, own, Ne.symm own]
      omega

theorem mem_myQueue {user : UserId} {cluster : Option ClusterId} :
    (entry, position) ∈ desk.myQueue moment user cluster ↔ entry ∈ desk.queue.rows ∧
      desk.inCluster cluster entry ∧ desk.ownedBy user entry ∧
      position = 1 + ((desk.ahead moment entry).filter (desk.inCluster cluster)).length := by
  rw [myQueue, mem_filter, mem_zipIdx_filter (desk.rank_nodup moment), rank, mem_insertionSort]
  simp only [ahead, rank]
  tauto

/-- Every position shown is the place in line exactly when nobody of another cluster than the one named is
ahead of an entry shown. -/
theorem position_eq_place_iff (desk : Desk) (moment : Moment) (user : UserId) (cluster : Option ClusterId) :
    (∀ shown ∈ desk.myQueue moment user cluster, shown.2 = 1 + (desk.ahead moment shown.1).length) ↔
      ∀ entry ∈ desk.queue.rows, desk.inCluster cluster entry → desk.ownedBy user entry →
        ∀ other ∈ desk.ahead moment entry, desk.inCluster cluster other := by
  constructor
  · intro places entry queued here owned
    have place := places (entry, _) (mem_myQueue.mpr ⟨queued, here, owned, rfl⟩)
    exact length_filter_eq_length_iff.mp (Nat.add_left_cancel place)
  · rintro alone ⟨entry, position⟩ shown
    obtain ⟨queued, here, owned, rfl⟩ := mem_myQueue.mp shown
    rw [filter_eq_self.mpr (alone entry queued here owned)]

theorem resume_of_ahead_head {head : RankedEntry}
    (isHead : desk.head moment = some head) (ahead : [entry, head].Sublist (desk.rank moment)) :
    entry.resume := by
  obtain ⟨-, _, _, split, resumes⟩ := find?_eq_some_iff_append.mp isHead
  rw [split] at ahead
  simpa using resumes entry (mem_front_of_sublist (split ▸ desk.rank_nodup moment) ahead)

theorem reschedule_given {input : PromoteInput} (given : (desk.reschedule input).given = some id) :
    ∃ entry, desk.head input.moment = some entry ∧ entry.session = id := by
  unfold reschedule at given
  dsimp only at given
  split at given
  next => cases given
  next entry isHead =>
    refine ⟨entry, isHead, ?_⟩
    split at given
    next => cases given
    next holder _ =>
      by_cases pending : holder.status = .pending
      · rw [if_neg (not_not.mpr pending)] at given
        split at given
        · cases given
        · cases given
        · split at given <;> exact some.inj given
      · rw [if_pos pending] at given
        cases given

/-- A committed pending row changes no card and no allocation. -/
theorem supplies_of_persist {other : Holder} {query spotQuery : Query}
    {victim : Option SessionId} {next : Desk} (persisted : desk.persist order holder = some next)
    (supplies : next.inventory.Supplies other query spotQuery victim) :
    desk.inventory.Supplies other query spotQuery victim := by
  obtain ⟨inv, applied, rest⟩ := bind_eq_some_iff.mp persisted
  obtain ⟨orders, -, rest⟩ := bind_eq_some_iff.mp rest
  cases rest
  simp only [apply] at applied
  split_ifs at applied
  cases applied
  exact supplies

/-- A new session that is given a card had one. -/
theorem create_given {input : ArrivalInput} (given : (desk.create order holder input).given = some id) :
    id = order.session ∧ desk.inventory.Supplies holder input.query input.spotQuery input.victim := by
  unfold create at given
  dsimp only at given
  split at given
  next => cases given
  next persistedDesk persisted =>
    split at given
    · cases given
    · split at given
      · split at given <;> cases given
      · split at given
        next => cases given
        next next sought =>
          refine ⟨?_, supplies_of_persist persisted (seek_placed sought)⟩
          split at given <;> exact (some.inj given).symm
        next => split at given <;> cases given

theorem resumeParked_given {inputs : List ResumeInput} (given : (desk.resumeParked inputs).given = some id) :
    id ∈ desk.claimant? (.resumeParked moment inputs) ∧ desk.HasCard (.resumeParked moment inputs) id := by
  unfold resumeParked at given
  split at given
  next => cases given
  next entry isParked =>
    have started : (desk.start entry.session inputs).2 = some id := by
      dsimp only at given
      split_ifs at given <;> exact given
    simp only [start] at started
    split_ifs at started with fresh
    cases started
    simp only [Bool.and_eq_true, isNone_iff_eq_none] at fresh
    exact ⟨by simp [claimant?, isParked], ResumeCall.runAlone_placed fresh.1 fresh.2⟩

theorem keepsOrder_of_undisputed (undisputed : desk.Undisputed event) : desk.KeepsOrder event := by
  intro id given entry member rival
  cases event with
  | create order holder input =>
    obtain ⟨rfl, supplies⟩ := create_given given
    exact undisputed _ rfl supplies entry member rival
  | start => exact rival.2.2.2.2
  | reschedule input =>
    obtain ⟨head, isHead, rfl⟩ := reschedule_given given
    obtain ⟨-, fresh, -, -, own, isOwn, ahead⟩ := rival
    have isMember : head ∈ desk.queue.rows :=
      (mem_insertionSort _).mp (mem_of_find?_eq_some isHead)
    obtain rfl : own = head :=
      some.inj ((mem_def.mp isOwn).symm.trans
        (Roster.find?_eq_some_iff.mpr ⟨isMember, rfl⟩))
    exact Bool.false_ne_true (fresh.symm.trans (resume_of_ahead_head isHead ahead))
  | resumeParked moment inputs =>
    obtain ⟨claims, hasCard⟩ := resumeParked_given given
    exact undisputed id claims hasCard entry member rival
  | other => exact rival.2.2.2.2

end Desk

end GShare.Model

namespace GShare.Soundness.QueueOrder

open GShare.Model Samples

/-- The queue keeps its order in every sequence of calls each of whose turns is undisputed. -/
theorem queue_order_kept (desk : Desk) (calls : List QueueCall)
    (undisputed : ∀ turn ∈ desk.history calls, turn.1.Undisputed turn.2) :
    ∀ turn ∈ desk.history calls, turn.1.KeepsOrder turn.2 :=
  fun turn member => Desk.keepsOrder_of_undisputed (undisputed turn member)

def openDesk : Desk where
  inventory :=
    { oneCard with
      card := fun dev => if dev = 0 then some sharedCard else none }
  orders := .empty _
  queue := .empty _

/-- Everything is accepted that finds a place. -/
def welcome (stamp : ℤ) : ArrivalInput := ⟨true, theCard, theCard, none, true, true, stamp⟩

/-- A session of its own owner asks for a slice of the card. -/
def asksSlice (id : SessionId) (mem cores : ℕ) (stamp : ℤ) : Event :=
  .create ⟨id, id, some "A100"⟩ (fractionalHolder mem cores) (welcome stamp)

def headTurn (now : ℤ) : PromoteInput := ⟨⟨now, []⟩, theCard, theCard, true⟩

/-- One session has most of the card, the next waits for as much and gets it after the release. -/
def releasedCalls : List QueueCall :=
  [.single (asksSlice 0 16384 60 0), .single (asksSlice 1 16384 60 second),
    .single (.other (.release 0)), .tick [headTurn (60 * second)] []]

theorem queue_order_kept_release :
    (openDesk.history releasedCalls).map (fun turn => (turn.1.step turn.2).given)
        = [some 0, none, none, some 1] ∧ ∀ turn ∈ openDesk.history releasedCalls, turn.1.KeepsOrder turn.2 := by
  refine ⟨by decide +kernel, queue_order_kept _ _ fun turn member id claims _ => ?_⟩
  have nobody : ∀ turn ∈ openDesk.history releasedCalls, ∀ id ∈ turn.1.claimant? turn.2,
      ∀ entry ∈ turn.1.queue.rows, ¬ turn.1.Rival turn.2 id entry := by decide +kernel
  exact nobody turn member id claims

/-- The card as one session leaves it that has most of it. Another waits for as much, and a paused one was
parked after that. -/
def parkedDesk : Desk where
  inventory :=
    { openDesk.inventory with
      card := fun dev =>
        if dev = 0 then some { sharedCard with
          usedMemMb := 16384, usedCores := 60, noOvercommit := by decide } else none
      session := fun id =>
        if id = 0 then some { fractionalHolder 16384 60 with status := .running }
        else if id = 1 then some (fractionalHolder 16384 60)
        else if id = 2 then some { fractionalHolder 4096 20 with status := .paused }
        else none
      live := ⟨[⟨0, some 0, some 16384, some 60, .resident⟩], by decide⟩ }
  orders := ⟨[⟨0, 0, some "A100"⟩, ⟨1, 1, some "A100"⟩, ⟨2, 2, some "A100"⟩], by decide⟩
  queue := ⟨[⟨1, false, 0, 0⟩, ⟨2, true, 0, second⟩], by decide⟩

/-- A new session that fits passes one that waits for more, and in a tick so does a parked one. -/
theorem waiting_overtaken :
    (∃ turn ∈ openDesk.history [.single (asksSlice 0 16384 60 0), .single (asksSlice 1 16384 60 second),
        .single (asksSlice 2 4096 20 (2 * second))], ¬ turn.1.KeepsOrder turn.2) ∧
      ∃ turn ∈ parkedDesk.history [.tick [headTurn (60 * second)]
        [(⟨60 * second, []⟩, List.replicate 2 ⟨true, false, theCard⟩)]], ¬ turn.1.KeepsOrder turn.2 := by
  decide +kernel

/-- Seen from its own cluster, the second in line is the first. -/
theorem filtered_renumbered :
    let desk :=
      { parkedDesk with inventory.session := fun id => some { fractionalHolder 4096 20 with clusterId := id } }
    desk.myQueue ⟨60 * second, []⟩ 2 none = [(⟨2, true, 0, second⟩, 2)] ∧
      desk.myQueue ⟨60 * second, []⟩ 2 (some 2) = [(⟨2, true, 0, second⟩, 1)] ∧
      ¬∀ shown ∈ desk.myQueue ⟨60 * second, []⟩ 2 (some 2),
        shown.2 = 1 + (desk.ahead ⟨60 * second, []⟩ shown.1).length := by
  decide +kernel

end GShare.Soundness.QueueOrder
