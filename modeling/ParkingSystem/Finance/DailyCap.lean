import ParkingSystem.Finance.LongerStay

/-!
# The Daily Cap

What the cap of a tariff is meant to count: the periods of 24 hours that a stay has begun, or the
local dates that it touches. A stay that ends at midnight does not touch the next date, but the
code takes the date of the exit as touched.
-/

namespace ParkingSystem

/-! ## Days of a stay -/

/-- The periods of 24 hours that a stay has begun. -/
def begunPeriods (d : ℤ) : Set ℕ := {k | (k : ℤ) * 86400 < d}

/-- The local dates of `[start, stop)`. -/
def touchedDates (start stop : ℤ) : Set ℤ := {date | ∃ t, start ≤ t ∧ t < stop ∧ t / dayLength = date}

/-- The days that the cap is meant to count. -/
noncomputable def stayDays (dayDefinition : String) (start d : ℤ) : ℕ :=
  if dayDefinition = "CALENDAR" then (touchedDates start (start + d * 1000000)).ncard
  else (begunPeriods d).ncard

theorem ncard_begunPeriods {d : ℤ} (hd : 0 < d) : ((begunPeriods d).ncard : ℤ) = ceilDiv d 86400 := by
  have hset : begunPeriods d = (Finset.range (ceilDiv d 86400).toNat : Set ℕ) := by
    ext k
    simp only [begunPeriods, Set.mem_ofPred_eq, Finset.coe_range, Set.mem_Iio]
    unfold ceilDiv
    omega
  rw [hset, Set.ncard_coe_finset, Finset.card_range]
  unfold ceilDiv
  omega

theorem ncard_touchedDates {start stop : ℤ} (h : start < stop) :
    ((touchedDates start stop).ncard : ℤ) = (stop - 1) / dayLength - start / dayLength + 1 := by
  have hset : touchedDates start stop =
      (Finset.Icc (start / dayLength) ((stop - 1) / dayLength) : Set ℤ) := by
    ext date
    simp only [touchedDates, Set.mem_ofPred_eq, Finset.coe_Icc, Set.mem_Icc]
    constructor
    · rintro ⟨t, hstart, hstop, rfl⟩
      unfold dayLength
      omega
    · rintro ⟨hfirst, hlast⟩
      -- the first instant of the date, or the start of the stay
      refine ⟨max start (date * dayLength), ?_⟩
      unfold dayLength at *
      omega
  rw [hset, Set.ncard_coe_finset, Int.card_Icc]
  unfold dayLength
  omega

/-- **The days the code counts**: one too many where the exit is at midnight. -/
theorem cappedDays_eq (tz : ℤ → ℤ) (entry : ℤ) {d : ℤ} (hd : 0 < d) (day : String) :
    cappedDays tz d day (some entry) = stayDays day (tz entry) d +
      if day = "CALENDAR" ∧ (tz entry + d * 1000000) % dayLength = 0 then 1 else 0 := by
  unfold cappedDays stayDays
  dsimp only
  generalize tz entry = start
  by_cases hcalendar : day = "CALENDAR"
  · rw [if_pos hcalendar, if_pos hcalendar, ncard_touchedDates (by omega)]
    simp only [hcalendar, true_and]
    unfold dayLength
    split <;> omega
  · rw [if_neg hcalendar, if_neg hcalendar, ncard_begunPeriods hd, if_neg fun h => hcalendar h.1]
    unfold ceilDiv
    omega

/-! ## What the cap leaves -/

/-- The amount without the cap. -/
def uncapped (tz : ℤ → ℤ) (t : Tariff) (d entry : ℤ) (p : TariffPolicy) : ℤ :=
  (calculateAmounts tz (some { t with dailyMaxAmount := none }) d (some entry) p).final

section

variable {tz : ℤ → ℤ} {t : Tariff} {p : TariffPolicy} {d : ℤ}

/-- A stay beyond its free time costs the price of the rest, up to the cap. -/
theorem final_capped (hrounding : p.rounding = "HOUR_UP") (hmin : p.minChargeAmount = 0)
    (hfree : 0 ≤ t.freeMinutes) (hd : t.freeMinutes * 60 < d) (entry : ℤ) :
    (calculateAmounts tz (some t) d (some entry) p).final =
      if t.dailyMaxAmount.getD 0 = 0 then billablePrice tz t entry p (d - t.freeMinutes * 60)
      else min (billablePrice tz t entry p (d - t.freeMinutes * 60))
        (t.dailyMaxAmount.getD 0 * cappedDays tz d p.dayDefinition (some entry)) := by
  have hstay : max 0 d = d := by omega
  rw [final_hourUp hrounding, hstay, if_neg (by omega), hmin, applyDailyCap_eq]
  exact if_neg fun h => lt_irrefl 0 h.1

theorem uncapped_eq (hrounding : p.rounding = "HOUR_UP") (hmin : p.minChargeAmount = 0)
    (hfree : 0 ≤ t.freeMinutes) (hd : t.freeMinutes * 60 < d) (entry : ℤ) :
    uncapped tz t d entry p = billablePrice tz t entry p (d - t.freeMinutes * 60) :=
  final_capped (t := { t with dailyMaxAmount := none }) hrounding hmin hfree hd entry

end

/-- An hourly tariff with a daily maximum. -/
def cappedTariff : Tariff :=
  { id := 1, title := "", hourlyAmount := 100, dailyMaxAmount := some 120, createdAt := 0 }

/-- Days that are dates. -/
def calendarPolicy : TariffPolicy :=
  { rounding := "HOUR_UP", dayDefinition := "CALENDAR", nightEnabled := false, nightStartHour := 22
    nightEndHour := 6, minChargeAmount := 0 }

end ParkingSystem
