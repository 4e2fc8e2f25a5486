import GShare.Model.Session.Row

/-! # The idle reaper

`IdleReaper.tick` for one session: what the maps of the reaper hold of it, and what becomes of it. Times are in
nanoseconds, and durations have 64 bits. The utilization and its average are exact numbers here.
-/

namespace GShare.Model

/-- `time.Second`. -/
def timeSecond : ℤ := 1000000000

/-- A product of durations, which wraps around. -/
def duration (nanoseconds : ℤ) : ℤ := nanoseconds.bmod (2 ^ 64)

/-- The time between two readings of the clock, up to the longest duration. -/
def timeSub (time start : ℤ) : ℤ := max (-2 ^ 63) (min (2 ^ 63 - 1) (time - start))

def idleThreshold : ℚ := 1 / 100
def recurrenceWindow : ℤ := 7200 * timeSecond
def minPauseInterval : ℤ := 600 * timeSecond
def idleWarnLead : ℤ := 300 * timeSecond

/-- A session in the phase `Running`. The text of its idle policy may be neither a bare zero nor a positive number
of seconds; its utilization is known where its card is metered. -/
structure ReapedSession where
  resourceClass : ResourceClass
  paused : Bool
  idleTimeoutSec : Option (Option ℕ)
  maxRuntimeSec : ℕ
  runStart : Option ℤ
  metered : Option ℚ

namespace ReapedSession

variable (sess : ReapedSession)

def util : ℚ := sess.metered.getD 0

def defaultIdleTimeout : ℤ := if sess.resourceClass = .cpu then 1800 * timeSecond else 3600 * timeSecond

def idleTimeout : ℤ :=
  match sess.idleTimeoutSec with
  | some (some count) => duration (count * timeSecond)
  | _ => sess.defaultIdleTimeout

def maxRuntimeExceeded (now : ℤ) : Bool :=
  0 < sess.maxRuntimeSec ∧ sess.runStart.any (duration (sess.maxRuntimeSec * timeSecond) < timeSub now ·)

-- A policy of 585 years is one of 0.29 seconds.
example : idleTimeout ⟨.gpu, false, some (some 18446744074), 0, none, none⟩ = 290448384 := by decide

end ReapedSession

/-- The clock at the start of a tick and later in it, the session if it is listed, and whether the call to the
cluster goes through. -/
structure ReaperTick where
  now : ℤ
  later : ℤ
  session : Option ReapedSession
  ok : Bool

inductive Reaping where
  | kept
  | warned (left : ℤ)
  | paused
  | terminated (idle : Bool)
deriving DecidableEq, Repr

structure ReaperEntry where
  idleSince : Option ℤ := none
  history : List (ℤ × Bool) := []
  ewma : Option ℚ := none
  lastPausedAt : Option ℤ := none
  warned : Bool := false

namespace ReaperEntry

variable (entry : ReaperEntry)

def appendSample (now : ℤ) (busy : Bool) : List (ℤ × Bool) :=
  let recent := (entry.history ++ [(now, busy)]).dropWhile (·.1 < now - recurrenceWindow)
  recent.drop (recent.length - 160)

def observe (util : ℚ) (now : ℤ) : ReaperEntry :=
  let busy : Bool := idleThreshold ≤ util
  { entry with
    ewma := some (entry.ewma.elim util (2 / 5 * util + 3 / 5 * ·))
    history := entry.appendSample now busy
    idleSince := if busy then none else some (entry.idleSince.getD now) }

/-- At least two busy episodes begin within the window. -/
def recurringWorkload (now : ℤ) : Bool :=
  let busy := (entry.history.filter (now - recurrenceWindow ≤ ·.1)).map Prod.snd
  2 ≤ ((false :: busy).zip busy).count (false, true)

variable (aware : Bool) (sess : ReapedSession) (tick : ReaperTick)

def effectiveIdleTimeout : ℤ :=
  if aware ∧ entry.recurringWorkload tick.now then duration (sess.idleTimeout * 2) else sess.idleTimeout

def idleFor : ℤ := entry.idleSince.elim 0 (timeSub tick.later ·)

def shouldReapIdle : Prop :=
  let idle := entry.idleFor tick
  let base := entry.effectiveIdleTimeout aware sess tick
  sess.util < idleThreshold ∧ 0 < base ∧ (base < idle ∨ sess.idleTimeoutSec = none ∧ aware ∧
    ¬entry.recurringWorkload tick.now ∧ entry.ewma.getD 0 < idleThreshold ∧ base < 2 * idle)

instance : Decidable (entry.shouldReapIdle aware sess tick) := by
  unfold shouldReapIdle
  infer_instance

def terminate (idle : Bool) : ReaperEntry × Reaping :=
  if tick.ok then ({ lastPausedAt := entry.lastPausedAt }, .terminated idle) else (entry, .kept)

/-- The notice before a pause, once for each time the session is forgotten. -/
def warn : ReaperEntry × Reaping :=
  let window := entry.effectiveIdleTimeout aware sess tick
  let idle := entry.idleFor tick
  if sess.resourceClass = .gpu ∧ sess.metered.isSome ∧ !sess.paused ∧ 2 * idleWarnLead < window ∧ 0 < idle ∧
      window - idleWarnLead ≤ idle ∧ !entry.warned then
    ({ entry with warned := true }, .warned ((window - idle) / timeSecond))
  else (entry, .kept)

/-- The rest of the loop after the sample. -/
def judge : ReaperEntry × Reaping :=
  if sess.maxRuntimeExceeded tick.now then entry.terminate tick false
  else if (sess.resourceClass = .gpu → sess.metered.isSome) ∧ entry.shouldReapIdle aware sess tick then
    if sess.resourceClass = .gpu ∧ !sess.paused then
      if entry.lastPausedAt.any (timeSub tick.now · < minPauseInterval) ∨ !tick.ok then (entry, .kept)
      else ({ lastPausedAt := some tick.now }, .paused)
    else entry.terminate tick true
  else entry.warn aware sess tick

/-- One tick; `prune` keeps the warning and a recent pause of a session that is not listed. -/
def next : ReaperEntry × Reaping :=
  let visited : ReaperEntry × Reaping := match tick.session with
    | none => ({ lastPausedAt := entry.lastPausedAt, warned := entry.warned }, .kept)
    | some sess => (entry.observe sess.util tick.now).judge aware sess tick
  ({ visited.1 with lastPausedAt := visited.1.lastPausedAt.filter (timeSub tick.later · ≤ 2 * minPauseInterval) },
    visited.2)

/-- What is held after some ticks, the latest first. -/
def after : List ReaperTick → ReaperEntry
  | [] => {}
  | tick :: earlier => ((after earlier).next aware tick).1

end ReaperEntry

end GShare.Model
