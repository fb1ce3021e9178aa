import ParkingSystem.Registry.Dates

/-!
# Jalali Dates in the Browser

The forms show Jalali dates and send Gregorian ones: `JalaliDateTime.tsx` has its own conversions
in both directions, with another epoch than the server's, and `JalaliDatePicker.tsx` its own rule
for leap years. All of them count the days of the two calendars.

Numbers of the browser are whole numbers here; `%` keeps the sign of its first argument.
-/

namespace ParkingSystem.Frontend

open Calendar

/-! ## The conversions -/

/-- `gDm`: the days of a common year before each month. -/
def gDm : List ℤ := [0, 31, 59, 90, 120, 151, 181, 212, 243, 273, 304, 334]

/-- `gregorianToJalali`. -/
def gregorianToJalali (gy gm gd : ℤ) : ℤ × ℤ × ℤ :=
  let jy := if gy ≤ 1600 then 0 else 979
  let gy := gy - if gy ≤ 1600 then 621 else 1600
  let gy2 := if 2 < gm then gy + 1 else gy
  let days := 365 * gy + (gy2 + 3) / 4 - (gy2 + 99) / 100 + (gy2 + 399) / 400 - 80 + gd +
    gDm.getD (gm - 1).toNat 0
  let jy := jy + 33 * (days / 12053)
  let days := days.tmod 12053
  let jy := jy + 4 * (days / 1461)
  let days := days.tmod 1461
  let year := if 365 < days then (jy + (days - 1) / 365, (days - 1).tmod 365) else (jy, days)
  let jm := if year.2 < 186 then 1 + year.2 / 31 else 7 + (year.2 - 186) / 30
  let jd := 1 + if year.2 < 186 then year.2.tmod 31 else (year.2 - 186).tmod 30
  (year.1, jm, jd)

/-- `while (gm <= 12 && gd > md[gm])`, with the months that are left. -/
def skipMonths (gd gm : ℤ) : List ℤ → ℤ × ℤ
  | [] => (gm, gd)
  | length :: rest => if length < gd then skipMonths (gd - length) (gm + 1) rest else (gm, gd)

/-- The middle part of `jalaliToGregorian`: the year of a numbered day, and the place of the day
in it. -/
def yearOf (gy days : ℤ) : ℤ × ℤ :=
  let gy := gy + 400 * (days / 146097)
  let days := days.tmod 146097
  let century := if 36524 < days then
      let rest := (days - 1).tmod 36524
      (gy + 100 * ((days - 1) / 36524), if 365 ≤ rest then rest + 1 else rest)
    else (gy, days)
  let gy := century.1 + 4 * (century.2 / 1461)
  let days := century.2.tmod 1461
  if 365 < days then (gy + (days - 1) / 365, (days - 1).tmod 365) else (gy, days)

/-- `jalaliToGregorian`. -/
def jalaliToGregorian (jy jm jd : ℤ) : ℤ × ℤ × ℤ :=
  let gy := if jy ≤ 979 then 621 else 1600
  let jy := jy - if jy ≤ 979 then 0 else 979
  let days := 365 * jy + jy / 33 * 8 + (jy.tmod 33 + 3) / 4 + 78 + jd +
    (if jm < 7 then (jm - 1) * 31 else (jm - 7) * 30 + 186)
  let year := yearOf gy days
  let leap := (year.1.tmod 4 == 0 && year.1.tmod 100 != 0) || year.1.tmod 400 == 0
  let month := skipMonths (year.2 + 1) 1
    [31, if leap then 29 else 28, 31, 30, 31, 30, 31, 31, 30, 31, 30, 31]
  (year.1, month.1, month.2)

/-- `monthLen`. -/
def monthLen (jy jm : ℤ) : ℤ :=
  if jm ≤ 6 then 31
  else if jm ≤ 11 then 30
  else if [1, 5, 9, 13, 17, 22, 26, 30].contains (jy.tmod 33) then 30 else 29

/-- A date of the picker: a month of the year, and a day of the month. -/
def PickerDate (jy jm jd : ℤ) : Prop := 1 ≤ jm ∧ jm ≤ 12 ∧ 1 ≤ jd ∧ jd ≤ monthLen jy jm

instance (jy jm jd : ℤ) : Decidable (PickerDate jy jm jd) := by
  unfold PickerDate
  infer_instance

/-- The picker's leap years. -/
theorem leap_eq_contains {jy : ℤ} (hy : 0 ≤ jy) :
    jalali.leap jy = [1, 5, 9, 13, 17, 22, 26, 30].contains (jy.tmod 33) := by
  rw [Int.tmod_eq_emod_of_nonneg hy]
  rfl

/-- The picker has the days of the Jalali calendar. -/
theorem isDate_iff_pickerDate {jy jm jd : ℤ} (hy : 0 ≤ jy) :
    jalali.IsDate jy jm jd ↔ PickerDate jy jm jd := by
  have hlength : (jalali.monthsOf jy).length = 12 := rfl
  have hall : ∀ leap, ∀ k < 12, (jalali.months leap).getD k 0 =
      if k < 6 then 31 else if k < 11 then 30 else if leap then 30 else 29 := by decide
  have hlen (hm : 1 ≤ jm) (hm' : jm ≤ 12) :
      (jalali.monthsOf jy).getD (jm - 1).toNat 0 = monthLen jy jm := by
    rw [monthsOf, hall _ _ (by omega), monthLen, leap_eq_contains hy]
    refine if_congr (by omega) rfl (if_congr (by omega) rfl rfl)
  rw [IsDate, hlength, PickerDate]
  constructor
  · rintro ⟨-, hm, hm', hd, hd'⟩
    have hm12 : jm ≤ 12 := hm'
    rw [hlen hm hm12] at hd'
    exact ⟨hm, hm12, hd, hd'⟩
  · rintro ⟨hm, hm', hd, hd'⟩
    rw [← hlen hm hm'] at hd'
    exact ⟨hy, hm, hm', hd, hd'⟩

/-! ## From Jalali to Gregorian -/

/-- Where the year has such a day, the loop over the months ends in its month. -/
theorem skipMonths_eq {d : ℤ} (month : ℤ) {months : List ℤ} (h : 1 ≤ d) (hd : d ≤ months.sum) :
    skipMonths d month months = monthOfDay d month months := by
  induction months generalizing d month with
  | nil =>
    rw [List.sum_nil] at hd
    omega
  | cons length rest ih =>
    rw [List.sum_cons] at hd
    rw [skipMonths, monthOfDay]
    by_cases hle : d ≤ length
    · rw [if_neg (by omega), if_pos hle]
    · rw [if_pos (by omega), if_neg hle]
      exact ih (month + 1) (by omega) (by omega)

/-- The years from 1600 on: four times 400 years are left out, and no remainder is negative. -/
theorem yearOf_eq {days : ℤ} (h : 0 ≤ days) : yearOf 1600 days = yearOfDays (days + 584388) := by
  have hdiv : (days + 584388) / 146097 = days / 146097 + 4 := by omega
  have hmod : (days + 584388) % 146097 = days % 146097 := by omega
  have htmod : days.tmod 146097 = days % 146097 := Int.tmod_eq_emod_of_nonneg h
  -- the last two steps, for a place in the century that is not negative
  have hlast {gy gy' t : ℤ} (ht : 0 ≤ t) (hgy : gy = gy') :
      (if 365 < t.tmod 1461 then (gy + (t.tmod 1461 - 1) / 365, (t.tmod 1461 - 1).tmod 365)
        else (gy, t.tmod 1461)) =
      if 365 < t % 1461 then (gy' + (t % 1461 - 1) / 365, (t % 1461 - 1) % 365)
        else (gy', t % 1461) := by
    rw [Int.tmod_eq_emod_of_nonneg ht, hgy]
    split
    · rw [Int.tmod_eq_emod_of_nonneg (by omega)]
    · rfl
  unfold yearOf yearOfDays
  dsimp only
  rw [hdiv, hmod, htmod]
  by_cases hcentury : 36524 < days % 146097
  · have hrest : (days % 146097 - 1).tmod 36524 = (days % 146097 - 1) % 36524 :=
      Int.tmod_eq_emod_of_nonneg (by omega)
    simp only [if_pos hcentury, hrest]
    exact hlast (by split <;> omega) (by omega)
  · simp only [if_neg hcentury]
    exact hlast (by omega) (by omega)

/-- **Both conversions to Gregorian dates agree** from the year 980 on. -/
theorem jalaliToGregorian_eq {jy jm jd : ℤ} (h : jalali.IsDate jy jm jd) (hy : 980 ≤ jy) :
    jalaliToGregorian jy jm jd = ParkingSystem.jalaliToGregorian jy jm jd := by
  have hlength : (jalali.monthsOf jy).length = 12 := rfl
  obtain ⟨-, hm, hm', hd, -⟩ := h
  rw [hlength] at hm'
  -- the two epochs are 1600 years apart, which are four times 400
  have hdays : 365 * (jy - 979) + (jy - 979) / 33 * 8 + ((jy - 979) % 33 + 3) / 4 + 78 + jd +
      (if jm < 7 then (jm - 1) * 31 else (jm - 7) * 30 + 186) + 584388 =
      jalaliDays jy jm jd := by
    rw [jalaliDays]
    omega
  have hpos : 584388 ≤ jalaliDays jy jm jd := by
    rw [← hdays]
    split <;> omega
  obtain ⟨y, t, hyear, hplace⟩ := exists_place (show 0 ≤ jalaliDays jy jm jd by omega)
  have hleap : ((y.tmod 4 == 0 && y.tmod 100 != 0) || y.tmod 400 == 0) = isLeapYear y := by
    have hy₀ := hplace.1
    rw [Int.tmod_eq_emod_of_nonneg hy₀, Int.tmod_eq_emod_of_nonneg hy₀,
      Int.tmod_eq_emod_of_nonneg hy₀]
    rfl
  have hmonth := skipMonths_eq 1 (by have := hplace.2.2.1; omega) hplace.le_sum
  have hyearOf := @yearOf_eq (jalaliDays jy jm jd - 584388) (by omega)
  rw [sub_add_cancel, hyear, ← hdays, add_sub_cancel_right] at hyearOf
  rw [ParkingSystem.jalaliToGregorian_eq, gregorianOfDays_eq, hyear, ← hmonth]
  unfold jalaliToGregorian
  dsimp only
  rw [if_neg (by omega), if_neg (by omega), Int.tmod_eq_emod_of_nonneg (by omega), hyearOf]
  dsimp only
  rw [hleap]
  rfl

/-! ## From Gregorian to Jalali -/

/-- The last part of `gregorianToJalali`: the month and the day of a place in a year. -/
theorem month_of_place {y t : ℤ} (hy : 0 ≤ y) (ht : 0 ≤ t)
    (hlast : t < 365 ∨ t = 365 ∧ jalali.leap y = true) :
    let jm := if t < 186 then 1 + t / 31 else 7 + (t - 186) / 30
    let jd := 1 + if t < 186 then t % 31 else (t - 186) % 30
    jalali.IsDate y jm jd ∧ jalali.dayNumber y jm jd = jalali.daysBefore y.toNat + t := by
  intro jm jd
  have hrange : 1 ≤ jm ∧ jm ≤ 12 ∧ 1 ≤ jd ∧
      (if jm < 7 then (jm - 1) * 31 else (jm - 7) * 30 + 186) + (jd - 1) = t := by
    dsimp only [jm, jd]
    split <;> split <;> omega
  obtain ⟨hm, hm', hd, hplace⟩ := hrange
  have hdate : jalali.IsDate y jm jd := by
    refine (isDate_iff_pickerDate hy).2 ⟨hm, hm', hd, ?_⟩
    rw [monthLen, ← leap_eq_contains hy]
    dsimp only [jm, jd]
    by_cases hleap : jalali.leap y = true
    · simp only [if_pos hleap]
      split_ifs <;> omega
    · -- a common year ends a day earlier
      have hcommon := hlast.resolve_right fun hlong => hleap hlong.2
      simp only [if_neg hleap]
      split_ifs <;> omega
  refine ⟨hdate, ?_⟩
  rw [dayNumber, sum_take_jalali y hm hm', ← hplace]
  omega

/-- **The place of a day** that is counted from the year 979 on: eight times four years, the first
of them the long one, and a year more, make a cycle. -/
theorem place_of_days {days : ℤ} (h : 0 ≤ days) :
    ∃ y t, (let jy := 979 + 33 * (days / 12053)
        let days := days.tmod 12053
        let jy := jy + 4 * (days / 1461)
        let days := days.tmod 1461
        if 365 < days then (jy + (days - 1) / 365, (days - 1).tmod 365) else (jy, days)) = (y, t) ∧
      979 ≤ y ∧ jalali.daysBefore y.toNat + t = days + jalali.daysBefore 979 ∧ 0 ≤ t ∧
      (t < 365 ∨ t = 365 ∧ jalali.leap y = true) := by
  obtain ⟨b, t, hyear, ht, hb⟩ := four_spec
    (979 + 33 * (days / 12053) + 4 * (days % 12053 / 1461)) (days % 12053 % 1461) (by omega)
  refine ⟨979 + 33 * (days / 12053) + 4 * (days % 12053 / 1461) + b, t, ?_, by omega, ?_, ht, ?_⟩
  · rw [← hyear]
    dsimp only
    rw [Int.tmod_eq_emod_of_nonneg h, Int.tmod_eq_emod_of_nonneg (by omega)]
    split
    · rw [Int.tmod_eq_emod_of_nonneg (by omega)]
    · rfl
  · rw [daysBefore_jalali, daysBefore_jalali, Int.toNat_of_nonneg (by omega)]
    omega
  · rcases hb with ⟨rfl, hv, hle⟩ | ⟨-, -, hlt, -⟩
    · rw [leap_jalali_iff]
      rcases lt_or_eq_of_le hle with hlt | heq
      · exact Or.inl hlt
      · -- the ninth part of a cycle is one common year
        refine Or.inr ⟨heq, ?_⟩
        have hpart : 0 ≤ days % 12053 / 1461 ∧ days % 12053 / 1461 ≤ 7 := by omega
        generalize days % 12053 / 1461 = a at hpart
        obtain rfl | rfl | rfl | rfl | rfl | rfl | rfl | rfl :
          a = 0 ∨ a = 1 ∨ a = 2 ∨ a = 3 ∨ a = 4 ∨ a = 5 ∨ a = 6 ∨ a = 7 := by omega
        all_goals omega
    · exact Or.inl hlt

/-- The days of the months before one, in a common year and after a leap day. -/
theorem sum_take_gregorian (y : ℤ) {m : ℤ} (h : 1 ≤ m) (h' : m ≤ 12) :
    ((gregorian.monthsOf y).take (m - 1).toNat).sum =
      gDm.getD (m - 1).toNat 0 + if 2 < m ∧ gregorian.leap y = true then 1 else 0 := by
  have hall : ∀ leap, ∀ k < 12, ((gregorian.months leap).take k).sum =
      gDm.getD k 0 + if 2 < k + 1 ∧ leap = true then 1 else 0 := by decide
  rw [monthsOf, hall _ _ (by omega)]
  congr 1
  exact if_congr (and_congr_left' (by omega)) rfl rfl

/-- **The Jalali date of a Gregorian one** is that of the same day. -/
theorem gregorianToJalali_spec {gy gm gd : ℤ} (h : gregorian.IsDate gy gm gd) (hy : 1600 < gy) :
    let j := gregorianToJalali gy gm gd
    jalali.IsDate j.1 j.2.1 j.2.2 ∧
      jalali.dayNumber j.1 j.2.1 j.2.2 + jalaliEpoch = gregorian.dayNumber gy gm gd := by
  have hbounds := dayNumber_bounds regular_gregorian h
  obtain ⟨hy₀, hm, hm', hd, -⟩ := h
  have hm12 : gm ≤ 12 := hm'
  have hleap := leap_gregorian_iff gy
  have hepoch := jalaliEpoch_eq
  have h979 := daysBefore_jalali 979
  -- the days since the first day of 979
  have hdays : 365 * (gy - 1600) + ((if 2 < gm then gy - 1600 + 1 else gy - 1600) + 3) / 4 -
      ((if 2 < gm then gy - 1600 + 1 else gy - 1600) + 99) / 100 +
      ((if 2 < gm then gy - 1600 + 1 else gy - 1600) + 399) / 400 - 80 + gd +
      gDm.getD (gm - 1).toNat 0 =
      gregorian.dayNumber gy gm gd - jalaliEpoch - jalali.daysBefore 979 := by
    rw [dayNumber, sum_take_gregorian gy hm hm12, daysBefore_gregorian, Int.toNat_of_nonneg hy₀,
      hepoch, h979]
    by_cases hmarch : 2 < gm
    · -- from March on, the leap day of the year itself is counted
      have h4 : (gy - 1600 + 1 + 3) / 4 = (gy + 3) / 4 - 400 + if gy % 4 = 0 then 1 else 0 := by
        split <;> omega
      have h100 : (gy - 1600 + 1 + 99) / 100 =
          (gy + 99) / 100 - 16 + if gy % 100 = 0 then 1 else 0 := by
        split <;> omega
      have h400 : (gy - 1600 + 1 + 399) / 400 =
          (gy + 399) / 400 - 4 + if gy % 400 = 0 then 1 else 0 := by
        split <;> omega
      simp only [hmarch, true_and, hleap]
      split_ifs <;> omega
    · simp only [hmarch, false_and, if_false]
      omega
  have hpos : 0 ≤ gregorian.dayNumber gy gm gd - jalaliEpoch - jalali.daysBefore 979 := by
    have hlow := hbounds.1
    rw [daysBefore_gregorian, Int.toNat_of_nonneg hy₀] at hlow
    rw [hepoch, h979]
    omega
  obtain ⟨y, t, hplace, hy979, hnumber, ht, hlast⟩ := place_of_days hpos
  obtain ⟨hdate, hday⟩ := month_of_place (by omega) ht hlast
  intro j
  have hj : j = (y, (if t < 186 then 1 + t / 31 else 7 + (t - 186) / 30),
      1 + if t < 186 then t % 31 else (t - 186) % 30) := by
    dsimp only [j]
    unfold gregorianToJalali
    dsimp only at hplace ⊢
    simp only [if_neg (show ¬ gy ≤ 1600 by omega)]
    rw [hdays, hplace]
    dsimp only
    split
    · rw [Int.tmod_eq_emod_of_nonneg ht]
    · rw [Int.tmod_eq_emod_of_nonneg (by omega)]
  rw [hj]
  exact ⟨hdate, by dsimp only; rw [hday]; omega⟩

/-! ## Both directions -/

/-- The Gregorian date of a Jalali one is that of the same day. -/
theorem jalaliToGregorian_spec {jy jm jd : ℤ} (h : jalali.IsDate jy jm jd) (hy : 980 ≤ jy) :
    let g := jalaliToGregorian jy jm jd
    gregorian.IsDate g.1 g.2.1 g.2.2 ∧
      gregorian.dayNumber g.1 g.2.1 g.2.2 = jalali.dayNumber jy jm jd + jalaliEpoch ∧
      1600 < g.1 := by
  have hdays := jalaliDays_eq h
  have hlow : 584833 ≤ jalaliDays jy jm jd := by
    have hmono := daysBefore_mono regular_jalali (show 980 ≤ jy.toNat by omega)
    have h980 := daysBefore_jalali 980
    have hfirst := (dayNumber_bounds regular_jalali h).1
    rw [hdays, jalaliEpoch_eq]
    omega
  obtain ⟨hdate, hnumber, -, -⟩ := gregorianOfDays_spec (show 0 ≤ jalaliDays jy jm jd by omega)
  intro g
  have hg : g = gregorianOfDays (jalaliDays jy jm jd) := by
    dsimp only [g]
    rw [jalaliToGregorian_eq h hy, ParkingSystem.jalaliToGregorian_eq]
  rw [hg]
  refine ⟨hdate, hnumber.trans hdays, ?_⟩
  by_contra hsmall
  -- the first day of the year 980 is after the last day of 1600
  have hend := (dayNumber_bounds regular_gregorian hdate).2.2
  have hmono := daysBefore_mono regular_gregorian
    (show (gregorianOfDays (jalaliDays jy jm jd)).1.toNat + 1 ≤ 1601 by omega)
  have h1601 := daysBefore_gregorian 1601
  omega

/-- **All conversions of dates agree** from the year 980 on: the server's and the browser's give
the same Gregorian date, the browser leads back to the date it came from, and the next Jalali day
is the next Gregorian day. -/
theorem conversions_agree {jy jm jd : ℤ} (hdate : PickerDate jy jm jd) (hy : 980 ≤ jy) :
    let g := jalaliToGregorian jy jm jd
    let next := jalali.next jy jm jd
    ParkingSystem.jalaliToGregorian jy jm jd = g ∧
      gregorian.IsDate g.1 g.2.1 g.2.2 ∧
      gregorianToJalali g.1 g.2.1 g.2.2 = (jy, jm, jd) ∧
      jalaliToGregorian next.1 next.2.1 next.2.2 = gregorian.next g.1 g.2.1 g.2.2 := by
  have h := (isDate_iff_pickerDate (by omega)).2 hdate
  obtain ⟨hg, hnumber, hyear⟩ := jalaliToGregorian_spec h hy
  intro g next
  refine ⟨(jalaliToGregorian_eq h hy).symm, hg, ?_, ?_⟩
  · obtain ⟨hj, hback⟩ := gregorianToJalali_spec hg hyear
    have heq := dayNumber_inj regular_jalali hj h (by omega)
    exact heq
  · have hnext := isDate_next regular_jalali h
    have hnextYear : 980 ≤ next.1 := by
      dsimp only [next]
      unfold Calendar.next
      split_ifs <;> dsimp only <;> omega
    obtain ⟨hg', hnumber', -⟩ := jalaliToGregorian_spec hnext hnextYear
    have hday := dayNumber_next h
    have hday' := dayNumber_next hg
    have heq := dayNumber_inj regular_gregorian hg' (isDate_next regular_gregorian hg) (by omega)
    exact heq

/-- The last day of a leap year. -/
theorem conversions_agree_leap_day :
    PickerDate 1403 12 30 ∧
      jalaliToGregorian 1404 1 1 = gregorian.next (jalaliToGregorian 1403 12 30).1
        (jalaliToGregorian 1403 12 30).2.1 (jalaliToGregorian 1403 12 30).2.2 := by
  have hdate : PickerDate 1403 12 30 := by decide
  exact ⟨hdate, (conversions_agree hdate (by decide)).2.2.2⟩

end ParkingSystem.Frontend
