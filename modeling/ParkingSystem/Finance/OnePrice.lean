import Mathlib.Tactic.Ring
import ParkingSystem.Finance.TariffAdmin
import ParkingSystem.Gate.Outcome

/-!
# One Price

Three places price a stay: the preview of a tariff, the preview of an exit that the policy may
refuse, and the closing of the session. The last two use the stored policy and the entry time;
the first uses neither, and no tariff at all where the request names none.
-/

namespace ParkingSystem

open PyText Table Transaction

/-! ## The night -/

section

variable (start : ℤ) {stop startHour endHour : ℤ}

/-- A window that starts where it ends is empty. -/
theorem nightLoop_empty (h : startHour = endHour) (fuel : ℕ) (cursor total : ℤ) :
    nightLoop start stop startHour endHour fuel cursor total = total := by
  induction fuel generalizing cursor with
  | zero => rfl
  | succ fuel ih =>
    have hwindow : (nightWindow startHour endHour cursor).1 =
        (nightWindow startHour endHour cursor).2 := by
      simp [nightWindow, h]
    rw [nightLoop]
    split
    · dsimp only
      rw [if_neg (by rw [hwindow]; omega), ih]
    · rfl

/-- A day of the loop adds its overlap, which is not negative. -/
theorem nightLoop_step (startHour endHour : ℤ) (fuel : ℕ) {cursor : ℤ} (hcursor : cursor < stop) (total : ℤ) :
    ∃ x, 0 ≤ x ∧ (min (nightWindow startHour endHour cursor).2 stop -
        max (nightWindow startHour endHour cursor).1 start) / 1000000 ≤ x ∧
      nightLoop start stop startHour endHour (fuel + 1) cursor total =
        nightLoop start stop startHour endHour fuel (cursor + 86400000000) (total + x) := by
  rw [nightLoop, if_pos hcursor]
  dsimp only
  split
  · exact ⟨_, Int.ediv_nonneg (by omega) (by decide), Int.le_refl _, rfl⟩
  · exact ⟨0, Int.le_refl 0, by omega, by rw [Int.add_zero]⟩

theorem nightLoop_le (fuel : ℕ) (cursor total : ℤ) :
    total ≤ nightLoop start stop startHour endHour fuel cursor total := by
  induction fuel generalizing cursor total with
  | zero => exact Int.le_refl _
  | succ fuel ih =>
    by_cases hcursor : cursor < stop
    · obtain ⟨x, hx, _, heq⟩ :=
        nightLoop_step start startHour endHour fuel hcursor total
      have hle := ih (cursor + 86400000000) (total + x)
      omega
    · rw [nightLoop, if_neg hcursor]

/-- **Three days have a night**: between hours that are not the same, at least one of them. -/
theorem nightOverlap_pos (tz : ℤ → ℤ) (entryAt : ℤ) (hstart : 0 ≤ startHour ∧ startHour ≤ 23)
    (hend : 0 ≤ endHour ∧ endHour ≤ 23) (hne : startHour ≠ endHour) :
    0 < nightOverlapSeconds tz entryAt 259200 startHour endHour := by
  have hfuel : nightMaxDays = 3657 + 1 + 1 + 1 := rfl
  rw [nightOverlapSeconds, if_neg (by decide), hfuel]
  generalize tz entryAt = start
  dsimp only
  generalize hcursor : start - start % hourMicros - 86400000000 = cursor
  unfold hourMicros at hcursor
  -- the loop starts a day early; the window of its third day begins an hour before the end
  have h₁ : cursor < start + 259200 * 1000000 := by omega
  have h₂ : cursor + 86400000000 < start + 259200 * 1000000 := by omega
  have h₃ : cursor + 86400000000 + 86400000000 < start + 259200 * 1000000 := by omega
  obtain ⟨x, hx, _, hfirst⟩ := nightLoop_step start startHour endHour (3657 + 1 + 1) h₁ 0
  obtain ⟨y, hy, _, hsecond⟩ := nightLoop_step start startHour endHour (3657 + 1) h₂ (0 + x)
  obtain ⟨z, _, hz, hthird⟩ := nightLoop_step start startHour endHour 3657 h₃ (0 + x + y)
  have hpositive : 0 < z := by
    unfold nightWindow startOfDay hourMicros at hz
    split at hz <;> dsimp only at hz <;> omega
  have hle : 0 + x + y + z ≤ nightLoop start (start + 259200 * 1000000) startHour endHour 3657
    (cursor + 86400000000 + 86400000000 + 86400000000) (0 + x + y + z) := nightLoop_le _ _ _ _
  rw [hfirst, hsecond, hthird]
  omega

end

/-! ## Prices -/

theorem roundHalfEven_intCast (n : ℤ) : roundHalfEven (n : ℚ) = n := by
  simp [roundHalfEven]

/-- A policy under which a stay costs what it costs by default. -/
structure Neutral (p : TariffPolicy) : Prop where
  rounding : p.rounding = "HOUR_UP"
  day : p.dayDefinition = "24H"
  night : p.nightEnabled = true → p.nightStartHour = p.nightEndHour
  minimum : p.minChargeAmount ≤ 1

theorem neutral_default : Neutral defaultPolicy where
  rounding := rfl
  day := rfl
  night h := by cases h
  minimum := by decide

/-- The price by the hour, within the daily cap. -/
def hourPrice (t : Tariff) (duration : ℤ) : ℤ :=
  let billable := max 0 ((if duration < 0 then 0 else duration) - t.freeMinutes * 60)
  if billable = 0 then 0
  else (applyDailyCap id (roundHalfEven (cost "HOUR_UP" billable t.hourlyAmount)) t
    (if duration < 0 then 0 else duration) "24H" none).1

theorem nightSeconds_neutral {p : TariffPolicy} (hp : Neutral p) (tz : ℤ → ℤ) (t : Tariff)
    (billable : ℤ) (entryAt : Option ℤ) : (nightSeconds tz t billable entryAt p).1 = 0 := by
  unfold nightSeconds
  split
  · rename_i hnight
    cases entryAt with
    | none => rfl
    | some entry =>
      dsimp only
      unfold nightOverlapSeconds
      split
      · rfl
      · exact nightLoop_empty _ (hp.night hnight.1) _ _ _
  · rfl

/-- The days of a cap are those of the duration, where a day is 24 hours. -/
theorem applyDailyCap_24H (tz : ℤ → ℤ) (base : ℤ) (t : Tariff) (duration : ℤ)
    (entryAt : Option ℤ) : (applyDailyCap tz base t duration "24H" entryAt).1 =
      (applyDailyCap id base t duration "24H" none).1 := by
  have hdays : cappedDays tz duration "24H" entryAt = cappedDays id duration "24H" none := by
    unfold cappedDays
    cases entryAt <;> simp
  unfold applyDailyCap
  split
  · rfl
  · rw [hdays]
    dsimp only
    split
    · rfl
    · split <;> rfl

/-- **Neutral policies** make no difference, and neither does the entry time. -/
theorem final_neutral {p : TariffPolicy} (hp : Neutral p) (tz : ℤ → ℤ) (t : Tariff)
    (duration : ℤ) (entryAt : Option ℤ) :
    (calculateAmounts tz (some t) duration entryAt p).final = hourPrice t duration := by
  unfold calculateAmounts hourPrice
  dsimp only
  generalize (if duration < 0 then 0 else duration) = d
  by_cases hfree : max 0 (d - t.freeMinutes * 60) = 0
  · rw [if_pos hfree, if_pos hfree]
    rfl
  · rw [if_neg hfree, if_neg hfree]
    have hmin (n : ℤ) : ¬ (0 < p.minChargeAmount ∧ 0 < n ∧ n < p.minChargeAmount) := by
      have := hp.minimum
      omega
    simp only [nightSeconds_neutral hp, hp.rounding, hp.day, hmin, if_false, lt_irrefl, zero_add,
      Int.sub_zero]
    exact applyDailyCap_24H _ _ _ _ _

/-! ## Three places -/

/-- How a preview names its tariff: a stored one, one given with the request, or none. -/
inductive PreviewForm where
  | stored
  | adHoc
  | unnamed
  deriving DecidableEq, Repr

/-- A stored tariff as a request would give it. -/
def Tariff.asCreate (t : Tariff) : TariffCreate :=
  { title := t.title, freeMinutes := t.freeMinutes, hourlyAmount := t.hourlyAmount
    dailyMaxAmount := t.dailyMaxAmount, nightAmount := t.nightAmount, validFrom := t.validFrom
    validUntil := t.validUntil, priority := t.priority }

/-- The preview of a stay under a tariff. -/
def PreviewForm.request (t : Tariff) (duration : ℤ) : PreviewForm → TariffPreview
  | stored => { durationSeconds := duration, tariffId := some t.id }
  | adHoc => { durationSeconds := duration, tariff := some t.asCreate }
  | unnamed => { durationSeconds := duration }

/-- The refusal of an unpaid exit rests on what the closing would charge, and the preview shows
it, for every tariff in force and every stay. -/
def OnePrice (cfg : Config) (settings : List AppSetting) (form : PreviewForm) : Prop :=
  ∀ (clk : ℕ → ℤ) (w : Session Store) (t : Tariff) (loaded session : ParkingSession)
    (closedAt : ℤ), w.broken = false → w.view.appSettings = settings →
    tariffById t.id w.view = some t → activeTariff closedAt w.view = some t →
    ∀ shown w₁ refused w₂ closing w₃,
      (previewTariff cfg (form.request t (secondsBetween session.entryAt closedAt))).exec clk w =
        (.ok shown, w₁) →
      (exitPreview cfg "DENY" session (secondsBetween session.entryAt closedAt) closedAt).exec clk w =
        (.ok refused, w₂) →
      (closeSessionAmounts cfg loaded session).exec (fun _ => closedAt) w = (.ok closing, w₃) →
      shown.final = closing.amounts.final ∧
        refused = if 0 < closing.amounts.final then some closing.amounts else none

/-- What the preview of a tariff in force shows. -/
def PreviewForm.shown (cfg : Config) (t : Tariff) (duration : ℤ) : PreviewForm → Amounts
  | unnamed => calculateAmounts cfg.tehran none duration none defaultPolicy
  | _ => calculateAmounts cfg.tehran (some t) duration none defaultPolicy

/-- A preview that answers shows this. -/
theorem exec_previewTariff_ok {cfg : Config} {form : PreviewForm} {t : Tariff} {duration : ℤ}
    {clk : ℕ → ℤ} {w w' : Session Store} (hw : w.broken = false)
    (ht : tariffById t.id w.view = some t) {a : Amounts}
    (h : (previewTariff cfg (form.request t duration)).exec clk w = (.ok a, w')) :
    a = form.shown cfg t duration := by
  unfold previewTariff at h
  split at h
  · obtain ⟨tariff, w₁, hfound, hpriced⟩ := Prog.exec_bind_ok h
    obtain rfl := (Except.ok.inj (congrArg Prod.fst hpriced)).symm
    cases form with
    | stored =>
      have hselect := (Prog.exec_bind_of_ok (Prog.exec_select clk (tariffById t.id) hw)).symm.trans
        hfound
      simp only [ht] at hselect
      obtain rfl := (Except.ok.inj (congrArg Prod.fst hselect)).symm
      rfl
    | adHoc =>
      obtain rfl := (Except.ok.inj (congrArg Prod.fst hfound)).symm
      rfl
    | unnamed =>
      obtain rfl := (Except.ok.inj (congrArg Prod.fst hfound)).symm
      rfl
  · cases h

/-- The preview of a valid tariff that is stored under its identifier answers. -/
theorem exec_previewTariff (cfg : Config) (form : PreviewForm) {t : Tariff} {duration : ℤ}
    (hduration : 0 ≤ duration) (hvalid : t.asCreate.valid = true) (clk : ℕ → ℤ)
    {w : Session Store} (hw : w.broken = false) (ht : tariffById t.id w.view = some t) :
    (previewTariff cfg (form.request t duration)).exec clk w = (.ok (form.shown cfg t duration), w) := by
  have hbody : (form.request t duration).valid = true := by
    cases form <;> simp [PreviewForm.request, TariffPreview.valid, hduration, hvalid]
  rw [previewTariff, if_pos hbody]
  cases form with
  | stored =>
    have hfound : (previewedTariff (PreviewForm.request t duration .stored)).exec clk w =
        (.ok (some t), w) := by
      refine (Prog.exec_bind_of_ok (Prog.exec_select clk (tariffById t.id) hw)).trans ?_
      simp [ht]
    exact (Prog.exec_bind_of_ok hfound).trans rfl
  | adHoc => rfl
  | unnamed => rfl

/-- The preview of a refusal. -/
theorem exec_exitPreview_deny (cfg : Config) (clk : ℕ → ℤ) {w : Session Store}
    (hw : w.broken = false) (session : ParkingSession) (now : ℤ) :
    (exitPreview cfg "DENY" session (secondsBetween session.entryAt now) now).exec clk w =
      (.ok (if 0 < (stayAmounts cfg session now w.view).final then
        some (stayAmounts cfg session now w.view) else none), w) := by
  rw [exitPreview, if_pos rfl]
  refine (Prog.exec_bind_of_ok (Prog.exec_select clk _ hw)).trans ?_
  exact (Prog.exec_bind_of_ok (reads_resolveTariffPolicy cfg clk w hw)).trans rfl

/-- The policy depends on the settings only. -/
theorem tariffPolicy_settings (cfg : Config) (s : Store) :
    tariffPolicy cfg s = tariffPolicy cfg { appSettings := s.appSettings } := rfl

/-! ## What one price asks of the policy -/

/-- A tariff by the hour, with or without a cap and a night rate. -/
def probe (hourly : ℤ) (dailyMax night : Option ℤ) : Tariff :=
  { id := 1, title := "", hourlyAmount := hourly, dailyMaxAmount := dailyMax, nightAmount := night
    createdAt := 0 }

/-- One price, for a tariff that is alone in the table and a stay that starts at the epoch. -/
theorem OnePrice.at_probe {cfg : Config} {settings : List AppSetting} {form : PreviewForm}
    (h : OnePrice cfg settings form) (hourly : ℤ) (dailyMax night : Option ℤ) (d : ℤ)
    (hvalid : (probe hourly dailyMax night).asCreate.valid = true) (hd : 0 ≤ d)
    (hfits : fitsInt d = true) :
    (form.shown cfg (probe hourly dailyMax night) d).final =
      (calculateAmounts cfg.tehran (some (probe hourly dailyMax night)) d (some 0)
        (tariffPolicy cfg { appSettings := settings })).final := by
  let t := probe hourly dailyMax night
  let s : Store := { tariffs := [t], appSettings := settings }
  let session : ParkingSession :=
    { id := 1, vehicleId := none, plateNormalized := "", entryEventId := none, entryAt := 0 }
  have hstay : secondsBetween session.entryAt (d * 1000000) = d := by
    show max 0 ((d * 1000000 - 0) / 1000000) = d
    omega
  have hstored : tariffById t.id s = some t := by simp [tariffById, s]
  have hactive : activeTariff (d * 1000000) s = some t := by
    simp [activeTariff, activeTariffs, orderByDesc, Tariff.inForce, s, t, probe]
  have hshown := exec_previewTariff cfg form hd hvalid (fun _ => 0)
    (w := Session.fresh s 0 0) rfl hstored
  have hrefused := exec_exitPreview_deny cfg (fun _ => 0) (w := Session.fresh s 0 0) rfl
    session (d * 1000000)
  have hcheck : (updateSession session (session.stayed (d * 1000000))).check s = none := by
    simp only [updateSession, ParkingSession.stayed, hstay, Option.all_some, hfits]
    rfl
  obtain ⟨w₃, hclosed, _⟩ := @exec_closeSessionAmounts cfg (fun _ => d * 1000000) session session
    (Session.fresh s 0 0) rfl hcheck
  rw [hstay] at hrefused
  have hprice := (h (fun _ => 0) (Session.fresh s 0 0) t session session (d * 1000000) rfl rfl hstored
    hactive _ _ _ _ _ _ (by rw [hstay]; exact hshown) (by rw [hstay]; exact hrefused) hclosed).1
  rw [hprice]
  show (calculateAmounts cfg.tehran (activeTariff (d * 1000000) s)
    (secondsBetween session.entryAt (d * 1000000)) (some 0) (tariffPolicy cfg s)).final = _
  rw [hactive, hstay]
  rfl

/-! ### The probes -/

section

variable {tz : ℤ → ℤ} {p : TariffPolicy}

/-- The final amount of a probe, from its night seconds, its base and its cap. -/
theorem final_probe {hourly : ℤ} {dailyMax night : Option ℤ} {d seconds base capped : ℤ}
    (hd : 0 < d)
    (hnight : (nightSeconds tz (probe hourly dailyMax night) d (some 0) p).1 = seconds)
    (hbase : roundHalfEven ((if 0 < seconds then cost p.rounding seconds (night.getD 0) else 0) +
      cost p.rounding (d - seconds) hourly) = base)
    (hcapped : (applyDailyCap tz base (probe hourly dailyMax night) d p.dayDefinition
      (some 0)).1 = capped) :
    (calculateAmounts tz (some (probe hourly dailyMax night)) d (some 0) p).final =
      if 0 < p.minChargeAmount ∧ 0 < capped ∧ capped < p.minChargeAmount then p.minChargeAmount
      else capped := by
  have hstay : (if d < 0 then 0 else d) = d := if_neg (by omega)
  have hbillable : max 0 (d - (probe hourly dailyMax night).freeMinutes * 60) = d := by
    show max 0 (d - 0 * 60) = d
    omega
  unfold calculateAmounts
  simp only [hstay, hbillable, if_neg (show ¬ d = 0 by omega), hnight]
  have hrate : (probe hourly dailyMax night).nightAmount.getD 0 = night.getD 0 := rfl
  have hhour : (probe hourly dailyMax night).hourlyAmount = hourly := rfl
  rw [hrate, hhour, hbase, hcapped]

/-- A cap that the base does not reach. -/
theorem applyDailyCap_none (tz : ℤ → ℤ) (base hourly : ℤ) (night : Option ℤ) (d : ℤ)
    (day : String) (entryAt : Option ℤ) :
    (applyDailyCap tz base (probe hourly none night) d day entryAt).1 = base := rfl

/-- A tariff without a night rate has no night seconds, and the base is the price by day. -/
theorem final_daytime {hourly : ℤ} {dailyMax : Option ℤ} {d base capped : ℤ} (hd : 0 < d)
    (hbase : roundHalfEven (cost p.rounding d hourly) = base)
    (hcapped : (applyDailyCap tz base (probe hourly dailyMax none) d p.dayDefinition
      (some 0)).1 = capped) :
    (calculateAmounts tz (some (probe hourly dailyMax none)) d (some 0) p).final =
      if 0 < p.minChargeAmount ∧ 0 < capped ∧ capped < p.minChargeAmount then p.minChargeAmount
      else capped := by
  have hnight : (nightSeconds tz (probe hourly dailyMax none) d (some 0) p).1 = 0 := by
    simp [nightSeconds, probe]
  refine final_probe hd hnight ?_ hcapped
  rw [if_neg (lt_irrefl 0), zero_add, Int.sub_zero, hbase]

/-- A second at the rate of one an hour: rounded away by the minute, a whole hour otherwise. -/
theorem final_second :
    (calculateAmounts tz (some (probe 1 none none)) 1 (some 0) p).final =
      if p.rounding = "MINUTE" then 0 else max 1 p.minChargeAmount := by
  have hbase : roundHalfEven (cost p.rounding 1 1) = if p.rounding = "MINUTE" then 0 else 1 := by
    unfold cost
    rw [if_neg (by decide)]
    split
    · decide +kernel
    · decide +kernel
  rw [final_daytime (by decide) hbase (applyDailyCap_none _ _ _ _ _ _ _)]
  -- nothing is not raised to the minimum, one is
  by_cases hround : p.rounding = "MINUTE"
  · rw [if_pos hround, if_pos hround]
    exact if_neg fun hraised => absurd hraised.2.1 (lt_irrefl 0)
  · rw [if_neg hround, if_neg hround]
    split <;> omega

/-- A day of 24 hours that is two days of the calendar. -/
theorem final_day (hround : p.rounding = "HOUR_UP") (hday : p.dayDefinition = "CALENDAR")
    (hmin : p.minChargeAmount ≤ 1) :
    (calculateAmounts tz (some (probe 2 (some 2) none)) 86400 (some 0) p).final = 4 := by
  have hbase : roundHalfEven (cost p.rounding 86400 2) = 48 := by
    rw [hround]
    decide +kernel
  have hdays : cappedDays tz 86400 p.dayDefinition (some 0) = 2 := by
    unfold cappedDays
    dsimp only
    rw [if_pos hday]
    omega
  have hcapped : (applyDailyCap tz 48 (probe 2 (some 2) none) 86400 p.dayDefinition
      (some 0)).1 = 4 := by
    simp [applyDailyCap, probe, hdays]
  rw [final_daytime (by decide) hbase hcapped]
  exact if_neg (by omega)

/-- Three days that cost nothing but their nights. -/
theorem final_nights (hnight : p.nightEnabled = true) (hround : p.rounding = "HOUR_UP")
    (hstart : 0 ≤ p.nightStartHour ∧ p.nightStartHour ≤ 23)
    (hend : 0 ≤ p.nightEndHour ∧ p.nightEndHour ≤ 23) (hne : p.nightStartHour ≠ p.nightEndHour) :
    0 < (calculateAmounts tz (some (probe 0 none (some 1))) 259200 (some 0) p).final := by
  have hpos := nightOverlap_pos tz 0 hstart hend hne
  have hseconds : (nightSeconds tz (probe 0 none (some 1)) 259200 (some 0) p).1 =
      nightOverlapSeconds tz 0 259200 p.nightStartHour p.nightEndHour := by
    simp [nightSeconds, probe, hnight]
  revert hseconds hpos
  generalize nightOverlapSeconds tz 0 259200 p.nightStartHour p.nightEndHour = night
  intro hpos hseconds
  have hbase : roundHalfEven ((if 0 < night then cost p.rounding night ((some (1 : ℤ)).getD 0)
      else 0) + cost p.rounding (259200 - night) 0) = ceilDiv night 3600 := by
    have hday : cost p.rounding (259200 - night) 0 = 0 := by
      unfold cost
      split
      · rfl
      · split <;> simp
    rw [if_pos hpos, hday, add_zero, cost, if_neg (by omega), hround, if_neg (by decide),
      Option.getD_some, Int.mul_one, roundHalfEven_intCast]
  have hceil : 0 < ceilDiv night 3600 := by
    unfold ceilDiv
    omega
  rw [final_probe (by decide) hseconds hbase (applyDailyCap_none _ _ _ _ _ _ _)]
  split <;> omega

/-- The words a policy may have. -/
theorem tariffPolicy_words (cfg : Config) (s : Store) :
    ((tariffPolicy cfg s).rounding = "HOUR_UP" ∨ (tariffPolicy cfg s).rounding = "MINUTE") ∧
      ((tariffPolicy cfg s).dayDefinition = "24H" ∨
        (tariffPolicy cfg s).dayDefinition = "CALENDAR") := by
  have hword (a b : String) (j : PyValue.Json) :
      wordOr [a, b] a j = a ∨ wordOr [a, b] a j = b := by
    unfold wordOr
    split
    · split
      · rename_i hmem
        exact List.mem_pair.1 (List.contains_iff_mem.1 hmem)
      · exact Or.inl rfl
    · exact Or.inl rfl
  exact ⟨hword _ _ _, hword _ _ _⟩

theorem tariffPolicy_hours (cfg : Config) (s : Store) :
    (0 ≤ (tariffPolicy cfg s).nightStartHour ∧ (tariffPolicy cfg s).nightStartHour ≤ 23) ∧
      (0 ≤ (tariffPolicy cfg s).nightEndHour ∧ (tariffPolicy cfg s).nightEndHour ≤ 23) := by
  have hclamp (n : ℤ) : 0 ≤ max 0 (min 23 n) ∧ max 0 (min 23 n) ≤ 23 := by omega
  exact ⟨hclamp _, hclamp _⟩

theorem tariffPolicy_minimum (cfg : Config) (s : Store) :
    0 ≤ (tariffPolicy cfg s).minChargeAmount := le_max_left _ _

/-- An hour at the rate of one an hour is never free. -/
theorem final_hour :
    (calculateAmounts tz (some (probe 1 none none)) 3600 (some 0) p).final =
      max 1 p.minChargeAmount := by
  have hbase : roundHalfEven (cost p.rounding 3600 1) = 1 := by
    unfold cost
    rw [if_neg (by decide)]
    split
    · decide +kernel
    · decide +kernel
  rw [final_daytime (by decide) hbase (applyDailyCap_none _ _ _ _ _ _ _)]
  split <;> omega

/-- A policy under which the probes cost what they cost by default is neutral. -/
theorem neutral_of_agreement
    (hwords : (p.rounding = "HOUR_UP" ∨ p.rounding = "MINUTE") ∧
      (p.dayDefinition = "24H" ∨ p.dayDefinition = "CALENDAR"))
    (hhours : (0 ≤ p.nightStartHour ∧ p.nightStartHour ≤ 23) ∧
      (0 ≤ p.nightEndHour ∧ p.nightEndHour ≤ 23))
    (hagree : ∀ (hourly : ℤ) (dailyMax night : Option ℤ) (d : ℤ),
      (probe hourly dailyMax night).asCreate.valid = true → 0 ≤ d → fitsInt d = true →
      hourPrice (probe hourly dailyMax night) d =
        (calculateAmounts tz (some (probe hourly dailyMax night)) d (some 0) p).final) :
    Neutral p := by
  -- the second settles the rounding and the minimum, which the other two probes rest on
  have hsecond := hagree 1 none none 1 (by decide) (by decide) (by decide)
  have hone : hourPrice (probe 1 none none) 1 = 1 := by decide +kernel
  rw [hone, final_second] at hsecond
  have hround : p.rounding = "HOUR_UP" := by
    refine hwords.1.resolve_right fun hminute => ?_
    rw [if_pos hminute] at hsecond
    omega
  have hmin : p.minChargeAmount ≤ 1 := by
    rw [hround, if_neg (by decide)] at hsecond
    omega
  refine ⟨hround, hwords.2.resolve_right fun hday => ?_, fun hnight => ?_, hmin⟩
  · have hcap := hagree 2 (some 2) none 86400 (by decide) (by decide) (by decide)
    have htwo : hourPrice (probe 2 (some 2) none) 86400 = 2 := by decide +kernel
    rw [htwo, final_day hround hday hmin] at hcap
    omega
  · by_contra hne
    have hnights := hagree 0 none (some 1) 259200 (by decide) (by decide) (by decide)
    have hfree : hourPrice (probe 0 none (some 1)) 259200 = 0 := by decide +kernel
    have hpos := @final_nights tz p hnight hround hhours.1 hhours.2 hne
    omega

end

/-- Whether a preview names its tariff. -/
def PreviewForm.named : PreviewForm → Bool
  | unnamed => false
  | _ => true

/-- The preview of a named tariff is the price by the hour. -/
theorem PreviewForm.shown_named {form : PreviewForm} (h : form.named = true) (cfg : Config)
    (t : Tariff) (duration : ℤ) : (form.shown cfg t duration).final = hourPrice t duration := by
  cases form with
  | stored => exact final_neutral neutral_default cfg.tehran t duration none
  | adHoc => exact final_neutral neutral_default cfg.tehran t duration none
  | unnamed => cases h

/-- A preview that names no tariff shows an hour as free, whatever tariff is in force. -/
theorem unnamed_free : ¬ ∀ (cfg : Config) (settings : List AppSetting) (form : PreviewForm),
    OnePrice cfg settings form := fun h => by
  have hhour := (h {} [] .unnamed).at_probe 1 none none 3600 (by decide) (by decide) (by decide)
  rw [final_hour] at hhour
  have hshown : (PreviewForm.unnamed.shown {} (probe 1 none none) 3600).final = 0 := rfl
  omega

/-- **One price**: the three places agree on every tariff in force and every stay, exactly where
the preview names its tariff and the stored policy is neutral. -/
theorem one_price_iff (cfg : Config) (settings : List AppSetting) (form : PreviewForm) :
    OnePrice cfg settings form ↔
      form.named = true ∧ Neutral (tariffPolicy cfg { appSettings := settings }) := by
  constructor
  · intro h
    have hnamed : form.named = true := by
      cases form with
      | stored => rfl
      | adHoc => rfl
      | unnamed =>
        -- without a tariff an hour is shown as free
        have hhour := h.at_probe 1 none none 3600 (by decide) (by decide) (by decide)
        rw [final_hour] at hhour
        have hshown : (PreviewForm.unnamed.shown cfg (probe 1 none none) 3600).final = 0 := rfl
        omega
    refine ⟨hnamed, @neutral_of_agreement cfg.tehran _ (tariffPolicy_words cfg _)
      (tariffPolicy_hours cfg _) fun hourly dailyMax night d hvalid hd hfits => ?_⟩
    rw [← PreviewForm.shown_named hnamed cfg]
    exact h.at_probe hourly dailyMax night d hvalid hd hfits
  · rintro ⟨hnamed, hneutral⟩ clk w t loaded session closedAt hw hsettings hstored hactive shown w₁
      refused w₂ closing w₃ hshown hrefused hclosing
    have hcharged : (stayAmounts cfg session closedAt w.view).final =
        hourPrice t (secondsBetween session.entryAt closedAt) := by
      have hpolicy : tariffPolicy cfg w.view = tariffPolicy cfg { appSettings := settings } := by
        rw [tariffPolicy_settings, hsettings]
      rw [stayAmounts, hactive, hpolicy, final_neutral hneutral]
    obtain ⟨rfl, -, -⟩ := exec_closeSessionAmounts_ok hclosing
    have hdeny := (exec_exitPreview_deny cfg clk hw session closedAt).symm.trans hrefused
    refine ⟨?_, (Except.ok.inj (congrArg Prod.fst hdeny)).symm⟩
    rw [exec_previewTariff_ok hw hstored hshown, PreviewForm.shown_named hnamed]
    exact hcharged.symm

end ParkingSystem
