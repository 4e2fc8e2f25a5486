import GShare.Model.Cluster.Reaper

/-! # Whom the idle reaper stops

The start of a streak outlives a tick only if the tick finds the session idle again, so a session is stopped for
its idleness only after an unbroken streak. How long it has to be is what the session's policy says, as long as
that fits a duration.
-/

namespace GShare.Soundness.Reaper

open GShare.Model ReaperEntry List

variable {aware : Bool} {sess : ReapedSession} {tick : ReaperTick} {entry : ReaperEntry} {since : ℤ}

/-- The session is listed and its reading is below the threshold. -/
def SawIdle (tick : ReaperTick) : Bool := tick.session.any (·.util < idleThreshold)

theorem judge_idleSince (idle : (entry.judge aware sess tick).1.idleSince = some since) :
    entry.idleSince = some since := by
  unfold judge terminate warn at idle
  dsimp only at idle
  split_ifs at idle <;> exact idle

theorem next_idleSince (idle : (entry.next aware tick).1.idleSince = some since) :
    SawIdle tick ∧ entry.idleSince.getD tick.now = since := by
  unfold ReaperEntry.next at idle
  cases seen : tick.session with
  | none => simp [seen] at idle
  | some sess =>
    simp only [seen] at idle
    have observed := judge_idleSince idle
    simp only [observe, decide_eq_true_eq] at observed
    split_ifs at observed with busy
    exact ⟨by simpa [SawIdle, seen] using busy, Option.some.inj observed⟩

/-- The streak of an idle session began at a tick since which all found it idle. -/
theorem exists_start (aware : Bool) (log : List ReaperTick) (saw : SawIdle tick) :
    ∃ start ∈ (tick :: log).takeWhile SawIdle, start.now = (after aware log).idleSince.getD tick.now := by
  induction log generalizing tick with
  | nil => exact ⟨tick, by simp [saw], rfl⟩
  | cons last earlier ih =>
    rw [takeWhile_cons_of_pos saw]
    cases idle : (after aware (last :: earlier)).idleSince with
    | none => exact ⟨tick, mem_cons_self, rfl⟩
    | some since =>
      obtain ⟨saw, rfl⟩ := next_idleSince idle
      obtain ⟨start, member, isStart⟩ := ih saw
      exact ⟨start, mem_cons_of_mem _ member, isStart⟩

theorem judge_reaps (reaps : (entry.judge aware sess tick).2 ∈ [.paused, .terminated true]) :
    entry.shouldReapIdle aware sess tick := by
  unfold judge terminate warn at reaps
  dsimp only at reaps
  by_contra busy
  split_ifs at reaps <;> simp_all

/-- The time is long enough for the policy: longer than the window that is set and fits a duration, than the
default one where the policy cannot be read, and than half of it where there is none. -/
def Outlasts (sess : ReapedSession) (idle : ℤ) : Prop :=
  match sess.idleTimeoutSec with
  | some (some count) => 0 < count ∧ (count * timeSecond < 2 ^ 63 → count * timeSecond < idle)
  | some none => sess.defaultIdleTimeout < idle
  | none => sess.defaultIdleTimeout < 2 * idle

theorem duration_of_lt {value : ℤ} (nonneg : 0 ≤ value) (fits : value < 2 ^ 63) : duration value = value :=
  Int.bmod_eq_of_le (by omega) (by omega)

/-- Doubling wraps around to something negative only. -/
theorem le_of_duration_double {value : ℤ} (nonneg : 0 ≤ value) (fits : value < 2 ^ 63)
    (positive : 0 < duration (value * 2)) : value ≤ duration (value * 2) := by
  rw [duration, Int.bmod_def] at positive ⊢
  omega

theorem timeSub_le {time start : ℤ} (positive : 0 < timeSub time start) : timeSub time start ≤ time - start := by
  unfold timeSub at positive ⊢
  omega

theorem effectiveIdleTimeout_zero (unset : sess.idleTimeout = 0) :
    entry.effectiveIdleTimeout aware sess tick = 0 := by
  unfold effectiveIdleTimeout
  rw [unset]
  split_ifs <;> rfl

theorem le_effectiveIdleTimeout (nonneg : 0 ≤ sess.idleTimeout) (fits : sess.idleTimeout < 2 ^ 63)
    (positive : 0 < entry.effectiveIdleTimeout aware sess tick) :
    sess.idleTimeout ≤ entry.effectiveIdleTimeout aware sess tick := by
  unfold effectiveIdleTimeout at positive ⊢
  split_ifs at positive ⊢
  · exact le_of_duration_double nonneg fits positive
  · exact le_rfl

theorem defaultIdleTimeout_fits (sess : ReapedSession) :
    0 ≤ sess.defaultIdleTimeout ∧ sess.defaultIdleTimeout < 2 ^ 63 := by
  unfold ReapedSession.defaultIdleTimeout timeSecond
  split_ifs <;> omega

theorem outlasts {idle : ℤ} (positive : 0 < entry.effectiveIdleTimeout aware sess tick)
    (long : entry.effectiveIdleTimeout aware sess tick < idle ∨
      sess.idleTimeoutSec = none ∧ entry.effectiveIdleTimeout aware sess tick < 2 * idle) : Outlasts sess idle := by
  obtain ⟨nonneg, fits⟩ := defaultIdleTimeout_fits sess
  unfold Outlasts
  cases policy : sess.idleTimeoutSec with
  | none =>
    have isDefault : sess.idleTimeout = sess.defaultIdleTimeout := by rw [ReapedSession.idleTimeout, policy]
    rw [← isDefault] at nonneg fits ⊢
    have base := le_effectiveIdleTimeout nonneg fits positive
    rcases long with long | ⟨-, long⟩ <;> dsimp only <;> omega
  | some explicit =>
    have long := long.resolve_right fun unset => by cases unset.1.symm.trans policy
    cases explicit with
    | none =>
      have isDefault : sess.idleTimeout = sess.defaultIdleTimeout := by rw [ReapedSession.idleTimeout, policy]
      rw [← isDefault] at nonneg fits ⊢
      exact (le_effectiveIdleTimeout nonneg fits positive).trans_lt long
    | some count =>
      have isSet : sess.idleTimeout = duration (count * timeSecond) := by rw [ReapedSession.idleTimeout, policy]
      constructor
      · refine Nat.pos_of_ne_zero fun unset => ?_
        rw [effectiveIdleTimeout_zero (isSet.trans (by rw [unset]; rfl))] at positive
        exact positive.false
      · intro fits
        have nonneg : 0 ≤ count * timeSecond := by unfold timeSecond; omega
        rw [duration_of_lt nonneg fits] at isSet
        rw [← isSet] at nonneg fits ⊢
        exact (le_effectiveIdleTimeout nonneg fits positive).trans_lt long

/-- An idle GPU session with a window of one minute. -/
def idleAt (seconds : ℤ) : ReaperTick :=
  ⟨seconds * timeSecond, seconds * timeSecond, some ⟨.gpu, false, some (some 60), 0, none, some 0⟩, true⟩

end GShare.Soundness.Reaper
