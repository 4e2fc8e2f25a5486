import GShare.Model.Session.Row

/-! # What a run owes

The share of a card a session occupies, the billed hours of its current run and the amount owed at a
clock reading. Each decimal operation is followed by the decimal context's rounding, in the order in
which the credit engine applies them.
-/

namespace GShare.Model

/-- A whole number read as true, as the source tests an optional column. -/
def positive? : Option ℕ → Option ℕ
  | some 0 => none
  | value => value

variable {earlier later : ℤ}

namespace Session

/-- The larger of the memory share and the core share; a session that states neither takes it all. -/
def occupancy (sess : Session) : ℚ :=
  let memRatio : ℚ :=
    match positive? sess.deviceTotalMemMb, positive? sess.gpuMemMb with
    | some total, some mem => decimal (mem / total)
    | _, _ => 0
  let coreRatio : ℚ := decimal (sess.gpuCores.getD 0 / 100)
  let share := max memRatio coreRatio
  if share ≤ 0 then 1 else share

/-- Billed minutes of the run at `now`: whole elapsed seconds, rounded up, and at least one. -/
def activeMinutes (sess : Session) (now : ℤ) : ℤ :=
  match sess.startedAt with
  | none => 0
  | some started =>
    let elapsed := now - started
    if elapsed ≤ 0 then 0
    else
      let minutes := -(-(elapsed / second) / 60)
      if minutes < 1 then 1 else minutes

/-- Billed hours of the run at `now`. -/
def activeHours (sess : Session) (now : ℤ) : ℚ :=
  decimal (sess.activeMinutes now / 60)

/-- The amount owed for the current run at `now`. -/
def owed (sess : Session) (now : ℤ) : ℤ :=
  round2 (decimal (decimal (credits sess.creditPerHourSnapshot * sess.occupancy)
    * sess.activeHours now))

variable (sess : Session)

theorem occupancy_pos : 0 < sess.occupancy := by
  unfold occupancy
  dsimp only
  split_ifs with share
  · exact one_pos
  · exact not_le.mp share

theorem activeMinutes_nonneg (now : ℤ) : 0 ≤ sess.activeMinutes now := by
  unfold activeMinutes
  split
  · exact le_rfl
  · dsimp only
    split_ifs <;> omega

theorem activeMinutes_mono (le : earlier ≤ later) :
    sess.activeMinutes earlier ≤ sess.activeMinutes later := by
  unfold activeMinutes second
  split
  · exact le_rfl
  · dsimp only
    split_ifs <;> omega

theorem activeHours_nonneg (now : ℤ) : 0 ≤ sess.activeHours now :=
  decimal_nonneg (div_nonneg (by exact_mod_cast sess.activeMinutes_nonneg now) (by norm_num))

theorem activeHours_mono (le : earlier ≤ later) :
    sess.activeHours earlier ≤ sess.activeHours later := by
  refine decimal_mono (div_nonneg (by exact_mod_cast sess.activeMinutes_nonneg earlier)
    (by norm_num)) (div_le_div_of_nonneg_right ?_ (by norm_num))
  exact_mod_cast sess.activeMinutes_mono le

private theorem hourlyCharge_nonneg :
    0 ≤ decimal (credits sess.creditPerHourSnapshot * sess.occupancy) := by
  refine decimal_nonneg (mul_nonneg ?_ sess.occupancy_pos.le)
  rw [credits]
  exact div_nonneg (by exact_mod_cast Nat.zero_le _) (by norm_num)

theorem owed_mono (le : earlier ≤ later) : sess.owed earlier ≤ sess.owed later := by
  refine round2_mono (decimal_mono ?_ ?_)
  · exact mul_nonneg sess.hourlyCharge_nonneg (sess.activeHours_nonneg earlier)
  · exact mul_le_mul_of_nonneg_left (sess.activeHours_mono le) sess.hourlyCharge_nonneg

/-- Nothing is owed before the run starts. -/
theorem owed_eq_zero_of_le_start {started now : ℤ}
    (start : sess.startedAt = some started) (le : now ≤ started) : sess.owed now = 0 := by
  have minutes : sess.activeMinutes now = 0 := by
    rw [activeMinutes, start]
    exact if_pos (by omega)
  simp [owed, activeHours, minutes, decimal]

theorem owed_eq_zero_of_not_started (now : ℤ) (start : sess.startedAt = none) : sess.owed now = 0 := by
  have minutes : sess.activeMinutes now = 0 := by rw [activeMinutes, start]
  simp [owed, activeHours, minutes, decimal]

theorem owed_nonneg (now : ℤ) : 0 ≤ sess.owed now := by
  cases start : sess.startedAt with
  | none => exact (sess.owed_eq_zero_of_not_started now start).ge
  | some started =>
    rcases le_total now started with before | after
    · exact (sess.owed_eq_zero_of_le_start start before).ge
    · have floor := sess.owed_mono after
      rwa [sess.owed_eq_zero_of_le_start start le_rfl] at floor

theorem owed_eq_zero_of_free (now : ℤ) (free : sess.creditPerHourSnapshot = 0) : sess.owed now = 0 := by
  simp [owed, credits, free, decimal]

end Session

end GShare.Model
