import Mathlib.Algebra.Order.Ring.Int
import ParkingSystem.Finance.NightSteps
import ParkingSystem.Finance.OnePrice

/-!
# A Longer Stay

Whether a longer stay ever costs less. The price is a night part and a day part, each rounded up to
hours, then capped by the day and raised to a minimum. Both parts grow with the stay as long as
the nights are counted as they pass.

## Where it fails

A night that is taken in late moves hours of the day part to the night part, all at once. What this
costs does not depend on the date: it is a number of hours at the night rate, for a number of hours
at the day rate.
-/

namespace ParkingSystem

open PyText

/-! ## Hours -/

/-- Seconds as hours, rounded up. -/
def hoursUp (seconds : ℤ) : ℤ := max 0 (ceilDiv seconds 3600)

theorem hoursUp_nonneg (seconds : ℤ) : 0 ≤ hoursUp seconds := le_max_left _ _

theorem hoursUp_mono {seconds more : ℤ} (h : seconds ≤ more) : hoursUp seconds ≤ hoursUp more := by
  unfold hoursUp ceilDiv
  omega

theorem cost_hourUp (seconds rate : ℤ) :
    cost "HOUR_UP" seconds rate = ((hoursUp seconds * rate : ℤ) : ℚ) := by
  unfold cost
  split
  · rename_i hle
    have hzero : hoursUp seconds = 0 := by
      unfold hoursUp ceilDiv
      omega
    simp [hzero]
  · rename_i hpos
    have hhours : hoursUp seconds = ceilDiv seconds 3600 := by
      unfold hoursUp ceilDiv
      omega
    rw [if_neg (by decide), hhours]

/-- The price of a stay of `b` seconds, `n` of them in the night. -/
def splitPrice (hourly night n b : ℤ) : ℤ := hoursUp n * night + hoursUp (b - n) * hourly

theorem roundHalfEven_split (hourly night n b : ℤ) :
    roundHalfEven ((if 0 < n then cost "HOUR_UP" n night else 0) + cost "HOUR_UP" (b - n) hourly) =
      splitPrice hourly night n b := by
  have hnight : (if 0 < n then cost "HOUR_UP" n night else 0) = ((hoursUp n * night : ℤ) : ℚ) := by
    split
    · exact cost_hourUp n night
    · rename_i hnone
      have hzero : hoursUp n = 0 := by
        unfold hoursUp ceilDiv
        omega
      simp [hzero]
  rw [hnight, cost_hourUp, ← Int.cast_add, roundHalfEven_intCast]
  rfl

/-- Both parts may grow. -/
theorem splitPrice_mono {hourly night n n' b b' : ℤ} (hhourly : 0 ≤ hourly) (hnight : 0 ≤ night)
    (hn : n ≤ n') (hb : b - n ≤ b' - n') :
    splitPrice hourly night n b ≤ splitPrice hourly night n' b' :=
  add_le_add (mul_le_mul_of_nonneg_right (hoursUp_mono hn) hnight)
    (mul_le_mul_of_nonneg_right (hoursUp_mono hb) hhourly)

/-! ## Hours that are taken in late -/

section

variable (startHour endHour hour offset : ℤ)

/-- The hours by which the night part grows where a night is taken in late. -/
def nightGain : ℤ :=
  if hour - startHour < nightLength startHour endHour then
    if offset = 0 then hour - startHour + 1 else hour - startHour
  else nightLength startHour endHour

/-- The hours by which the day part shrinks. -/
def dayLoss : ℤ :=
  if hour - startHour < nightLength startHour endHour then
    if offset % 1000000 = 0 then hour - startHour else hour - startHour - 1
  else if offset = 0 ∨ 3599000000 < offset then nightLength startHour endHour - 1
  else nightLength startHour endHour

variable {startHour endHour hour offset} {b : ℤ}

/-- The stay before a night that is taken in late ends with the hour of the entry, but for the
seconds that were missing from it. -/
theorem TakenLate.eq {i : ℤ} (h : TakenLate startHour hour offset b i) :
    b = (i - 1) * 86400 - startedSeconds offset := by
  unfold TakenLate dayLength at h
  unfold startedSeconds
  omega

/-- **The parts of the price** at a night that is taken in late. -/
theorem hoursUp_late (h : EntryTime startHour endHour hour offset) {k : ℕ}
    (hk : k < nightMaxDays) (hlate : TakenLate startHour hour offset b k) {n n' : ℤ}
    (hn : nightSum startHour endHour hour offset b = n)
    (hn' : nightSum startHour endHour hour offset (b + 1) = n') :
    hoursUp n' = hoursUp n + nightGain startHour endHour hour offset ∧
      hoursUp (b - n) ≤ hoursUp (b + 1 - n') + dayLoss startHour endHour hour offset ∧
      (0 ≤ b + 1 - n' →
        hoursUp (b - n) = hoursUp (b + 1 - n') + dayLoss startHour endHour hour offset) := by
  have hb := hlate.eq
  have hdvd := dvd_nightSum h hlate
  have hgrown := nightSum_late h hk hlate
  have hnonneg : 0 ≤ nightSum startHour endHour hour offset b := nightSum_nonneg
  rw [hn] at hdvd hgrown hnonneg
  rw [hn'] at hgrown
  have hlater := hlate.2.1
  obtain ⟨⟨h₁, h₂, h₃, h₄, h₅⟩, h₆, h₇, h₈, h₉⟩ := h
  have hlength : nightLength startHour endHour = (endHour - startHour) % 24 := rfl
  unfold hourMicros at h₉
  unfold startedSeconds at hb hdvd
  unfold lateSeconds at hgrown
  unfold hoursUp nightGain dayLoss ceilDiv
  by_cases hinside : hour - startHour < nightLength startHour endHour
  · simp only [if_pos hinside] at hdvd hgrown ⊢
    refine ⟨?_, ?_, fun _ => ?_⟩ <;> split <;> split at hgrown <;> omega
  · simp only [if_neg hinside] at hdvd hgrown ⊢
    refine ⟨by omega, ?_, fun _ => ?_⟩ <;> split <;> omega

end

/-! ## From second to second -/

/-- The hour of a local time. -/
def hourOf (start : ℤ) : ℤ := start % dayLength / hourMicros

theorem entryTime {startHour endHour : ℤ} (h : NightHours startHour endHour) (start : ℤ) :
    EntryTime startHour endHour (hourOf start) (start % hourMicros) := by
  refine ⟨h, ?_, ?_, ?_, ?_⟩ <;> simp only [hourOf, dayLength, hourMicros] <;> omega

/-- For the stays that start at some local time, no night is taken in late, or the hours it adds to
the night part cost no less than those it takes from the day part. -/
def LateHoursCovered (p : TariffPolicy) (start hourly night : ℤ) : Prop :=
  p.nightEnabled = false ∨ night = 0 ∨ p.nightStartHour = p.nightEndHour ∨
    hourOf start ≤ p.nightStartHour ∨
    dayLoss p.nightStartHour p.nightEndHour (hourOf start) (start % hourMicros) * hourly ≤
      nightGain p.nightStartHour p.nightEndHour (hourOf start) (start % hourMicros) * night

instance (p : TariffPolicy) (start hourly night : ℤ) :
    Decidable (LateHoursCovered p start hourly night) := inferInstanceAs (Decidable (_ ∨ _))

/-- The hours of a night window. -/
structure WindowHours (p : TariffPolicy) : Prop where
  start_nonneg : 0 ≤ p.nightStartHour
  start_le : p.nightStartHour ≤ 23
  end_nonneg : 0 ≤ p.nightEndHour
  end_le : p.nightEndHour ≤ 23

/-- The hours of a resolved policy are hours of a day. -/
theorem windowHours_tariffPolicy (cfg : Config) (s : Store) : WindowHours (tariffPolicy cfg s) := by
  constructor <;> simp only [tariffPolicy, TariffPolicy.ofRaw] <;> omega

section

variable {tz : ℤ → ℤ} {t : Tariff} {p : TariffPolicy} {entry : ℤ}

theorem nightSeconds_zero (b : ℤ)
    (h : p.nightEnabled = false ∨ t.nightAmount.getD 0 ≤ 0 ∨ p.nightStartHour = p.nightEndHour) :
    (nightSeconds tz t b (some entry) p).1 = 0 := by
  unfold nightSeconds
  split
  · rename_i hnight
    have hsame : p.nightStartHour = p.nightEndHour := by
      rcases h with hoff | hfree | hsame
      · rw [hoff] at hnight
        cases hnight.1
      · omega
      · exact hsame
    show nightOverlapSeconds tz entry b p.nightStartHour p.nightEndHour = 0
    unfold nightOverlapSeconds
    split
    · rfl
    · exact nightLoop_empty _ hsame _ _ _
  · rfl

theorem nightSeconds_eq_nightSum {b : ℤ} (hb : 0 < b) (hon : p.nightEnabled = true)
    (hrate : 0 < t.nightAmount.getD 0) (hne : p.nightStartHour ≠ p.nightEndHour) :
    (nightSeconds tz t b (some entry) p).1 =
      nightSum p.nightStartHour p.nightEndHour (hourOf (tz entry)) (tz entry % hourMicros) b := by
  rw [nightSeconds, if_pos ⟨hon, hrate⟩]
  exact nightOverlapSeconds_eq_nightSum hne hb

/-- The price of the billable seconds. -/
def billablePrice (tz : ℤ → ℤ) (t : Tariff) (entry : ℤ) (p : TariffPolicy) (b : ℤ) : ℤ :=
  splitPrice t.hourlyAmount (t.nightAmount.getD 0) (nightSeconds tz t b (some entry) p).1 b

/-- **One second longer** costs no less. -/
theorem billablePrice_step (hours : WindowHours p) (hhourly : 0 ≤ t.hourlyAmount)
    (hnight : 0 ≤ t.nightAmount.getD 0)
    (h : LateHoursCovered p (tz entry) t.hourlyAmount (t.nightAmount.getD 0)) {b : ℤ} (hb : 0 < b) :
    billablePrice tz t entry p b ≤ billablePrice tz t entry p (b + 1) := by
  unfold billablePrice
  by_cases hnone : p.nightEnabled = false ∨ t.nightAmount.getD 0 ≤ 0 ∨
      p.nightStartHour = p.nightEndHour
  · rw [nightSeconds_zero b hnone, nightSeconds_zero (b + 1) hnone]
    exact splitPrice_mono hhourly hnight le_rfl (by omega)
  · obtain ⟨hon, hrate, hne⟩ : p.nightEnabled = true ∧ 0 < t.nightAmount.getD 0 ∧
        p.nightStartHour ≠ p.nightEndHour := by
      simpa [not_or] using hnone
    have hentry := entryTime ⟨hours.start_nonneg, hours.start_le, hours.end_nonneg, hours.end_le, hne⟩
      (tz entry)
    rw [nightSeconds_eq_nightSum hb hon hrate hne,
      nightSeconds_eq_nightSum (by omega : 0 < b + 1) hon hrate hne]
    by_cases hlate : ∃ k < nightMaxDays,
        TakenLate p.nightStartHour (hourOf (tz entry)) (tz entry % hourMicros) b (k : ℕ)
    · obtain ⟨k, hk, hlate⟩ := hlate
      have hcovered : dayLoss p.nightStartHour p.nightEndHour (hourOf (tz entry))
            (tz entry % hourMicros) * t.hourlyAmount ≤
          nightGain p.nightStartHour p.nightEndHour (hourOf (tz entry))
            (tz entry % hourMicros) * t.nightAmount.getD 0 := by
        have hbefore := hlate.2.1
        rcases h with hoff | hfree | hsame | hintime | hcovered
        · rw [hoff] at hon
          cases hon
        · omega
        · exact absurd hsame hne
        · omega
        · exact hcovered
      obtain ⟨hgain, hloss, -⟩ := hoursUp_late hentry hk hlate rfl rfl
      have hday := mul_le_mul_of_nonneg_right hloss hhourly
      unfold splitPrice
      rw [hgain, add_mul]
      rw [add_mul] at hday
      omega
    · obtain ⟨hle, hstep⟩ := nightSum_step hentry (le_of_lt hb) fun k hk hk' => hlate ⟨k, hk, hk'⟩
      exact splitPrice_mono hhourly hnight hle (by omega)

/-- A longer stay costs no less, before the cap and the minimum. -/
theorem billablePrice_mono (hours : WindowHours p) (hhourly : 0 ≤ t.hourlyAmount)
    (hnight : 0 ≤ t.nightAmount.getD 0)
    (h : LateHoursCovered p (tz entry) t.hourlyAmount (t.nightAmount.getD 0)) {b b' : ℤ} (hb : 0 < b)
    (hle : b ≤ b') : billablePrice tz t entry p b ≤ billablePrice tz t entry p b' := by
  induction b', hle using Int.leInduction with
  | base => exact le_rfl
  | succ c hc ih => exact ih.trans (billablePrice_step hours hhourly hnight h (by omega))

end

/-! ## The cap and the minimum -/

section

variable {tz : ℤ → ℤ} {t : Tariff} {p : TariffPolicy} {entry : ℤ}

theorem cappedDays_mono {d d' : ℤ} (h : d ≤ d') (day : String) :
    cappedDays tz d day (some entry) ≤ cappedDays tz d' day (some entry) := by
  unfold cappedDays ceilDiv
  dsimp only
  split <;> omega

/-- The cap of a tariff that has one. -/
theorem applyDailyCap_eq (tz : ℤ → ℤ) (base : ℤ) (t : Tariff) (d : ℤ) (day : String)
    (entryAt : Option ℤ) : (applyDailyCap tz base t d day entryAt).1 =
      if t.dailyMaxAmount.getD 0 = 0 then base
      else min base (t.dailyMaxAmount.getD 0 * cappedDays tz d day entryAt) := by
  unfold applyDailyCap
  cases t.dailyMaxAmount with
  | none => rfl
  | some limit =>
    simp only [Option.getD_some]
    by_cases hzero : limit = 0
    · rw [if_pos hzero, if_pos hzero]
    · rw [if_neg hzero, if_neg hzero]
      by_cases hcapped : limit * cappedDays tz d day entryAt < base
      · rw [if_pos hcapped, min_eq_right (le_of_lt hcapped)]
      · rw [if_neg hcapped, min_eq_left (not_lt.1 hcapped)]

/-- The capped amount grows with the amount and with the duration. -/
theorem applyDailyCap_mono (hmax : 0 ≤ t.dailyMaxAmount.getD 0) {base base' d d' : ℤ}
    (hbase : base ≤ base') (hd : d ≤ d') (day : String) :
    (applyDailyCap tz base t d day (some entry)).1 ≤
      (applyDailyCap tz base' t d' day (some entry)).1 := by
  rw [applyDailyCap_eq, applyDailyCap_eq]
  split
  · exact hbase
  · exact min_le_min hbase (mul_le_mul_of_nonneg_left (cappedDays_mono hd day) hmax)

theorem applyDailyCap_nonneg (hmax : 0 ≤ t.dailyMaxAmount.getD 0) {base : ℤ} (hbase : 0 ≤ base)
    (d : ℤ) (day : String) : 0 ≤ (applyDailyCap tz base t d day (some entry)).1 := by
  rw [applyDailyCap_eq]
  split
  · exact hbase
  · refine le_min hbase (mul_nonneg hmax ?_)
    unfold cappedDays
    dsimp only
    split <;> omega

/-- The minimum of a charge. -/
def raisedTo (minimum amount : ℤ) : ℤ :=
  if 0 < minimum ∧ 0 < amount ∧ amount < minimum then minimum else amount

theorem raisedTo_mono (minimum : ℤ) {amount more : ℤ} (h : amount ≤ more) :
    raisedTo minimum amount ≤ raisedTo minimum more := by
  unfold raisedTo
  split <;> split <;> omega

theorem raisedTo_nonneg (minimum : ℤ) {amount : ℤ} (h : 0 ≤ amount) :
    0 ≤ raisedTo minimum amount := by
  unfold raisedTo
  split <;> omega

/-- **What a stay costs by the hour**: nothing in its free time, and the price of the rest with the
cap and the minimum. -/
theorem final_hourUp (hrounding : p.rounding = "HOUR_UP") (tz : ℤ → ℤ) (t : Tariff) (d entry : ℤ) :
    (calculateAmounts tz (some t) d (some entry) p).final =
      if max 0 d - t.freeMinutes * 60 ≤ 0 then 0
      else raisedTo p.minChargeAmount (applyDailyCap tz
        (billablePrice tz t entry p (max 0 d - t.freeMinutes * 60)) t (max 0 d) p.dayDefinition
        (some entry)).1 := by
  have hduration : (if d < 0 then 0 else d) = max 0 d := by
    split <;> omega
  unfold calculateAmounts
  dsimp only
  rw [hduration]
  by_cases hfree : max 0 d - t.freeMinutes * 60 ≤ 0
  · rw [if_pos (by omega), if_pos hfree]
    rfl
  · have hbillable : max 0 (max 0 d - t.freeMinutes * 60) = max 0 d - t.freeMinutes * 60 := by omega
    rw [if_neg (by omega), if_neg hfree, hbillable, hrounding]
    simp only [roundHalfEven_split]
    rfl

theorem cost_nonneg (rounding : String) (seconds : ℤ) {rate : ℤ} (h : 0 ≤ rate) :
    0 ≤ cost rounding seconds rate := by
  unfold cost
  split
  · exact le_rfl
  · split
    · have hrate : (0 : ℚ) ≤ rate := by exact_mod_cast h
      have hseconds : (0 : ℚ) ≤ seconds := by exact_mod_cast (by omega : (0 : ℤ) ≤ seconds)
      exact mul_nonneg (div_nonneg hseconds (by decide +kernel)) hrate
    · exact_mod_cast mul_nonneg (by unfold ceilDiv; omega) h

/-- **No stay costs less than nothing**, whatever the rounding. -/
theorem final_nonneg (hhourly : 0 ≤ t.hourlyAmount) (hmax : 0 ≤ t.dailyMaxAmount.getD 0) (d : ℤ) :
    0 ≤ (calculateAmounts tz (some t) d (some entry) p).final := by
  unfold calculateAmounts
  dsimp only
  generalize hduration : (if d < 0 then 0 else d) = duration
  split
  · exact le_rfl
  · have hnight (n : ℤ × List String)
        (hn : n = nightSeconds tz t (max 0 (duration - t.freeMinutes * 60)) (some entry) p) :
        0 ≤ if 0 < n.1 then cost p.rounding n.1 (t.nightAmount.getD 0) else 0 := by
      split
      · refine cost_nonneg _ _ ?_
        -- only a tariff with a night rate has seconds at night
        by_contra hrate
        rw [nightSeconds, if_neg (by rintro ⟨-, hpos⟩; omega)] at hn
        simp_all
      · exact le_rfl
    exact raisedTo_nonneg p.minChargeAmount (applyDailyCap_nonneg hmax (roundHalfEven_nonneg
      (add_nonneg (hnight _ rfl) (cost_nonneg _ _ hhourly))) _ _)

end

/-! ## Staying longer -/

/-- A tariff with some rates by the hour, and a cap that is not negative. -/
structure HasRates (t : Tariff) (hourly night : ℤ) : Prop where
  hourly_eq : t.hourlyAmount = hourly
  night_eq : t.nightAmount.getD 0 = night
  max_nonneg : 0 ≤ t.dailyMaxAmount.getD 0

/-- A policy by the hour with the night of another: its days and its minimum are its own. -/
structure SameNight (p q : TariffPolicy) : Prop where
  rounding : q.rounding = "HOUR_UP"
  enabled : q.nightEnabled = p.nightEnabled
  start : q.nightStartHour = p.nightStartHour
  stop : q.nightEndHour = p.nightEndHour

/-- A longer stay costs no less, for an entry, the rates of a tariff and the night of a policy. -/
def NeverCheaper (tz : ℤ → ℤ) (entry hourly night : ℤ) (p : TariffPolicy) : Prop :=
  ∀ (t : Tariff) (q : TariffPolicy) (d d' : ℤ), HasRates t hourly night → SameNight p q → d ≤ d' →
    (calculateAmounts tz (some t) d (some entry) q).final ≤
      (calculateAmounts tz (some t) d' (some entry) q).final

section

variable {tz : ℤ → ℤ} {entry hourly night : ℤ} {p : TariffPolicy}

theorem neverCheaper_of_covered (hours : WindowHours p) (hhourly : 0 ≤ hourly) (hnight : 0 ≤ night)
    (h : LateHoursCovered p (tz entry) hourly night) : NeverCheaper tz entry hourly night p := by
  rintro t q d d' ⟨rfl, rfl, hmax⟩ ⟨hrounding, henabled, hstart, hstop⟩ hle
  have hours' : WindowHours q :=
    ⟨hstart ▸ hours.start_nonneg, hstart ▸ hours.start_le, hstop ▸ hours.end_nonneg,
      hstop ▸ hours.end_le⟩
  have hcovered : LateHoursCovered q (tz entry) t.hourlyAmount (t.nightAmount.getD 0) := by
    unfold LateHoursCovered at h ⊢
    rwa [henabled, hstart, hstop]
  by_cases hfree : max 0 d - t.freeMinutes * 60 ≤ 0
  · rw [final_hourUp hrounding tz t d, if_pos hfree]
    exact final_nonneg hhourly hmax d'
  · rw [final_hourUp hrounding, final_hourUp hrounding, if_neg hfree, if_neg (by omega)]
    refine raisedTo_mono _ (applyDailyCap_mono hmax ?_ (by omega) _)
    exact billablePrice_mono hours' hhourly hnight hcovered (by omega) (by omega)

/-- A day before the loop comes to the night of the next date, and a second later. -/
theorem takenLate_firstDay {startHour endHour : ℤ} (h : NightHours startHour endHour) (start : ℤ)
    (hlater : startHour < hourOf start) : TakenLate startHour (hourOf start) (start % hourMicros)
      (86400 - startedSeconds (start % hourMicros)) (2 : ℕ) := by
  have hentry := entryTime h start
  obtain ⟨-, -, -, hoffset, hlt⟩ := hentry
  unfold TakenLate startedSeconds dayLength
  unfold hourMicros at *
  omega

/-- The night seconds are some of the seconds of a stay, for ten years. -/
theorem nightOverlapSeconds_le {startHour endHour : ℤ} (h : NightHours startHour endHour) {b : ℤ}
    (hb : 0 < b) (hmax : b ≤ 3650 * 86400) :
    nightOverlapSeconds tz entry b startHour endHour ≤ b := by
  rw [nightOverlapSeconds_eq_sum h.ne tz hb rfl rfl]
  generalize tz entry = start
  generalize hstop : start + b * 1000000 = stop
  have hlength : stop ≤ start + 3650 * dayLength := by
    unfold dayLength
    omega
  have hcount : ((inNights startHour endHour start stop).ncard : ℤ) ≤ b * 1000000 := by
    have hsubset : inNights startHour endHour start stop ⊆ (Finset.Ico start stop : Set ℤ) :=
      fun u hu => Finset.mem_coe.2 (Finset.mem_Ico.2 hu.1)
    have hcard := Set.ncard_le_ncard hsubset (Finset.Ico start stop).finite_toSet
    rw [Set.ncard_coe_finset, Int.card_Ico] at hcard
    omega
  rw [ncard_inNights h hlength] at hcount
  have hshares : (∑ i ∈ Finset.range nightMaxDays,
      if start - start % hourMicros - dayLength + i * dayLength < stop then
        nightShare startHour endHour start stop (start / dayLength - 1 + i) / 1000000 else 0) *
        1000000 ≤
      ∑ i ∈ Finset.range nightMaxDays,
        nightShare startHour endHour start stop (start / dayLength - 1 + i) := by
    rw [Finset.sum_mul]
    refine Finset.sum_le_sum fun i _ => ?_
    have hnonneg := @nightShare_nonneg startHour endHour start stop (start / dayLength - 1 + i)
    split <;> omega
  omega

/-- A tariff by the hour, and a policy with no minimum, that let every fall of the price be seen. -/
theorem covered_of_neverCheaper (hours : WindowHours p) (hnight : 0 ≤ night)
    (h : NeverCheaper tz entry hourly night p) : LateHoursCovered p (tz entry) hourly night := by
  unfold LateHoursCovered
  by_contra hnot
  simp only [not_or, not_le] at hnot
  obtain ⟨hon, hrate, hne, hlater, hfall⟩ := hnot
  have hon : p.nightEnabled = true := by simpa using hon
  have hnights : NightHours p.nightStartHour p.nightEndHour :=
    ⟨hours.start_nonneg, hours.start_le, hours.end_nonneg, hours.end_le, hne⟩
  have hentry := entryTime hnights (tz entry)
  have hlate := takenLate_firstDay hnights (tz entry) hlater
  generalize hb : 86400 - startedSeconds (tz entry % hourMicros) = b at hlate
  have hoffset := hentry.offset_nonneg
  have hlt := hentry.offset_lt
  have hpos : 0 < b := by
    unfold startedSeconds at hb
    unfold hourMicros at *
    omega
  let t : Tariff :=
    { id := 1, title := "", hourlyAmount := hourly, nightAmount := some night, createdAt := 0 }
  let q : TariffPolicy :=
    { p with rounding := "HOUR_UP", dayDefinition := "24H", minChargeAmount := 0 }
  have hprice (c : ℤ) (hc : 0 < c) : (calculateAmounts tz (some t) c (some entry) q).final =
      billablePrice tz t entry q c := by
    have hstay : max 0 c - t.freeMinutes * 60 = c := by
      show max 0 c - 0 * 60 = c
      omega
    rw [final_hourUp rfl, hstay, if_neg (by omega)]
    rfl
  have hsum (c : ℤ) (hc : 0 < c) :=
    @nightSeconds_eq_nightSum tz t q entry c hc hon (by show 0 < night; omega) hne
  have hcheaper := h t q b (b + 1) ⟨rfl, rfl, le_rfl⟩ ⟨rfl, rfl, rfl, rfl⟩ (by omega)
  rw [hprice b hpos, hprice (b + 1) (by omega), billablePrice, billablePrice, hsum b hpos,
    hsum (b + 1) (by omega)] at hcheaper
  obtain ⟨hgain, -, hloss⟩ := hoursUp_late hentry (by decide) hlate rfl rfl
  have hinside : nightOverlapSeconds tz entry (b + 1) p.nightStartHour p.nightEndHour ≤ b + 1 := by
    refine nightOverlapSeconds_le hnights (by omega) ?_
    unfold startedSeconds at hb
    unfold hourMicros at *
    omega
  rw [nightOverlapSeconds_eq_nightSum hne (by omega : 0 < b + 1)] at hinside
  have hloss := hloss (sub_nonneg.2 hinside)
  have hqs : q.nightStartHour = p.nightStartHour := rfl
  have hqe : q.nightEndHour = p.nightEndHour := rfl
  have hth : t.hourlyAmount = hourly := rfl
  have htn : t.nightAmount.getD 0 = night := rfl
  rw [hqs, hqe, hth, htn] at hcheaper
  unfold splitPrice at hcheaper
  rw [show hourOf (tz entry) = tz entry % dayLength / hourMicros from rfl] at *
  rw [hgain, hloss, add_mul, add_mul] at hcheaper
  omega

end

/-- A night from ten to six. -/
def nightConfig : Config := { nightTariffEnabled := true }

end ParkingSystem
