import ParkingSystem.Registry.Sheet
import ParkingSystem.Library.Calendar

/-!
# Dates of a Sheet

`parse_any_date` reads a Gregorian date from 1901 on, and a Jalali date before. What it has to
return is said by the two calendars, day by day; the conversion of the source is arithmetic on
the number of a day.
-/

namespace ParkingSystem

open PyText Calendar

/-! ## Gregorian dates -/

/-- The start of a day, numbered from the first day of year 0. -/
def utcMidnight (day : ℤ) : ℤ := (day - 719528) * 86400000000

theorem utcMidnight_epoch : utcMidnight (gregorian.dayNumber 1970 1 1) = 0 := by
  rw [dayNumber, daysBefore_gregorian]
  decide

theorem daysBeforeYear_eq {y : ℤ} (h : 0 ≤ y) :
    daysBeforeYear y = gregorian.daysBefore y.toNat - 719528 := by
  rw [daysBefore_gregorian, Int.toNat_of_nonneg h, daysBeforeYear]
  omega

/-- `datetime` has the Gregorian dates of years 1 to 9999. -/
theorem utcDate_eq {y : ℤ} (m d : ℤ) (hy : 1 ≤ y) (hmax : y ≤ 9999) : utcDate y m d =
    if gregorian.IsDate y m d then some (utcMidnight (gregorian.dayNumber y m d)) else none := by
  have hmonths : gregorian.monthsOf y = monthLengths (isLeapYear y) := rfl
  have hlength : (gregorian.monthsOf y).length = 12 := rfl
  have hvalue : (daysBeforeYear y + ((monthLengths (isLeapYear y)).take (m - 1).toNat).sum +
      (d - 1)) * 86400000000 = utcMidnight (gregorian.dayNumber y m d) := by
    rw [utcMidnight, dayNumber, hmonths, daysBeforeYear_eq (by omega)]
    congr 1
    omega
  unfold utcDate
  dsimp only
  rw [hvalue]
  refine if_congr ?_ rfl rfl
  rw [IsDate, hlength, hmonths]
  constructor
  · rintro ⟨-, -, hm, hm', hd, hd'⟩
    exact ⟨by omega, hm, hm', hd, hd'⟩
  · rintro ⟨-, hm, hm', hd, hd'⟩
    exact ⟨hy, hmax, hm, hm', hd, hd'⟩

/-! ## The date of a day -/

/-- The second part of `_jalali_to_gregorian`: the date of a numbered day. -/
def gregorianOfDays (days : ℤ) : ℤ × ℤ × ℤ :=
  let gy := 400 * (days / 146097)
  let days := days % 146097
  let century := if 36524 < days then
      let rest := (days - 1) % 36524
      (gy + 100 * ((days - 1) / 36524), if 365 ≤ rest then rest + 1 else rest)
    else (gy, days)
  let gy := century.1 + 4 * (century.2 / 1461)
  let days := century.2 % 1461
  let year := if 365 < days then (gy + (days - 1) / 365, (days - 1) % 365) else (gy, days)
  let month := monthOfDay (year.2 + 1) 1 (monthLengths (isLeapYear year.1))
  (year.1, month.1, month.2)

/-- The year of a numbered day, and the place of the day in it. -/
def yearOfDays (days : ℤ) : ℤ × ℤ :=
  let gy := 400 * (days / 146097)
  let days := days % 146097
  let century := if 36524 < days then
      let rest := (days - 1) % 36524
      (gy + 100 * ((days - 1) / 36524), if 365 ≤ rest then rest + 1 else rest)
    else (gy, days)
  let gy := century.1 + 4 * (century.2 / 1461)
  let days := century.2 % 1461
  if 365 < days then (gy + (days - 1) / 365, (days - 1) % 365) else (gy, days)

theorem gregorianOfDays_eq (days : ℤ) : gregorianOfDays days = ((yearOfDays days).1,
    monthOfDay ((yearOfDays days).2 + 1) 1 (monthLengths (isLeapYear (yearOfDays days).1))) := rfl

/-- Day `t` of year `y` is the numbered day. -/
def PlaceOf (days y t : ℤ) : Prop :=
  0 ≤ y ∧ 365 * y + (y + 3) / 4 - (y + 99) / 100 + (y + 399) / 400 + t = days ∧ 0 ≤ t ∧
    (t < 365 ∨ t = 365 ∧ (y % 4 = 0 ∧ y % 100 ≠ 0 ∨ y % 400 = 0))

/-- A year by its 400 years, its century, its four years and its place in them. The first year of
three centuries in four is no leap year. -/
theorem placeOf_parts {q c a b t : ℤ} (hq : 0 ≤ q) (hc : 0 ≤ c ∧ c ≤ 3) (ha : 0 ≤ a ∧ a ≤ 24)
    (hb : 0 ≤ b ∧ b ≤ 3) (ht : 0 ≤ t) (hlast : t < 365 ∨ t = 365 ∧ b = 0 ∧ (c = 0 ∨ 1 ≤ a)) :
    PlaceOf (146097 * q + (if c = 0 then 0 else 36524 * c + 1) + 1461 * a +
      (if c ≠ 0 ∧ (1 ≤ a ∨ 1 ≤ b) then -1 else 0) + (if b = 0 then 0 else 365 * b + 1) + t)
      (400 * q + 100 * c + 4 * a + b) t := by
  unfold PlaceOf
  obtain rfl | rfl | rfl | rfl : c = 0 ∨ c = 1 ∨ c = 2 ∨ c = 3 := by omega
  all_goals
    obtain rfl | rfl | rfl | rfl : b = 0 ∨ b = 1 ∨ b = 2 ∨ b = 3 := by omega
    all_goals
      obtain rfl | hpos : a = 0 ∨ 1 ≤ a := by omega
      all_goals
        split <;> omega

/-- A day of a year falls into one of its months. -/
theorem monthOfDay_spec (d month : ℤ) (months : List ℤ) (h : 1 ≤ d) (hd : d ≤ months.sum) :
    ∃ k, k < months.length ∧ (monthOfDay d month months).1 = month + k ∧
      (monthOfDay d month months).2 + (months.take k).sum = d ∧
      1 ≤ (monthOfDay d month months).2 ∧
      (monthOfDay d month months).2 ≤ months.getD k 0 := by
  induction months generalizing d month with
  | nil => simp at hd; omega
  | cons length rest ih =>
    rw [monthOfDay]
    split
    · exact ⟨0, by simp, by simp, by simp, h, by simpa⟩
    · rename_i hlong
      rw [List.sum_cons] at hd
      obtain ⟨k, hk, hmonth, hday, hpos, hle⟩ := ih (d - length) (month + 1) (by omega) (by omega)
      refine ⟨k + 1, by simpa using hk, ?_, ?_, hpos, by simpa using hle⟩
      · rw [hmonth]
        omega
      · rw [List.take_succ_cons, List.sum_cons]
        omega

/-- What is left of 400 years, by centuries: the first is longer, and the others get a day for
the leap year they start without. -/
theorem century_spec (gy r : ℤ) (h : 0 ≤ r ∧ r < 146097) : ∃ c s,
    (if 36524 < r then
      (gy + 100 * ((r - 1) / 36524),
        if 365 ≤ (r - 1) % 36524 then (r - 1) % 36524 + 1 else (r - 1) % 36524)
    else (gy, r)) = (gy + 100 * c, s) ∧ 0 ≤ s ∧ s ≤ 36524 ∧
      (c = 0 ∧ s = r ∨ 1 ≤ c ∧ c ≤ 3 ∧ s < 365 ∧ r = 36524 * c + 1 + s ∨
        1 ≤ c ∧ c ≤ 3 ∧ 365 < s ∧ r = 36524 * c + s) := by
  split
  · refine ⟨(r - 1) / 36524, _, rfl, ?_⟩
    split <;> omega
  · exact ⟨0, r, by simp, by omega⟩

/-- What is left of four years: the first is the long one. -/
theorem four_spec (gy v : ℤ) (h : 0 ≤ v ∧ v < 1461) : ∃ b t,
    (if 365 < v then (gy + (v - 1) / 365, (v - 1) % 365) else (gy, v)) = (gy + b, t) ∧ 0 ≤ t ∧
      (b = 0 ∧ t = v ∧ t ≤ 365 ∨ 1 ≤ b ∧ b ≤ 3 ∧ t < 365 ∧ v = 365 * b + 1 + t) := by
  split
  · exact ⟨(v - 1) / 365, _, rfl, by omega⟩
  · exact ⟨0, v, by simp, by omega⟩

/-- The arithmetic finds the place of a day. -/
theorem exists_place {days : ℤ} (h : 0 ≤ days) :
    ∃ y t, yearOfDays days = (y, t) ∧ PlaceOf days y t := by
  obtain ⟨c, s, hcentury, hs, hs', hc⟩ := century_spec (400 * (days / 146097)) (days % 146097)
    (by omega)
  obtain ⟨b, t, hyear, ht, hb⟩ := four_spec (400 * (days / 146097) + 100 * c + 4 * (s / 1461))
    (s % 1461) (by omega)
  refine ⟨400 * (days / 146097) + 100 * c + 4 * (s / 1461) + b, t, ?_, ?_⟩
  · simp only [yearOfDays, hcentury, hyear]
  · have hplace := @placeOf_parts (days / 146097) c (s / 1461) b t (by omega) (by omega) (by omega)
      (by omega) ht (by omega)
    convert hplace using 1
    split_ifs <;> omega

/-- A place in a year is one of its days. -/
theorem PlaceOf.le_sum {days y t : ℤ} (h : PlaceOf days y t) :
    t + 1 ≤ (monthLengths (isLeapYear y)).sum := by
  obtain ⟨-, -, -, hlast⟩ := h
  have hdays : (monthLengths (isLeapYear y)).sum = gregorian.yearDays y := rfl
  rw [hdays, yearDays_gregorian]
  have hleap := leap_gregorian_iff y
  split
  · omega
  · have hnot := mt hleap.2 (by assumption)
    omega

/-- **The date of a numbered day.** -/
theorem gregorianOfDays_spec {days : ℤ} (h : 0 ≤ days) :
    let g := gregorianOfDays days
    gregorian.IsDate g.1 g.2.1 g.2.2 ∧ gregorian.dayNumber g.1 g.2.1 g.2.2 = days ∧
      365 * g.1 ≤ days ∧ days < 366 * (g.1 + 1) := by
  obtain ⟨y, t, hyear, hplaceOf⟩ := exists_place h
  have hmonths : gregorian.monthsOf y = monthLengths (isLeapYear y) := rfl
  have hlength : (gregorian.monthsOf y).length = 12 := rfl
  have hsum := hplaceOf.le_sum
  obtain ⟨hy, hplace, ht, hlast⟩ := hplaceOf
  obtain ⟨k, hk, hmonth, hday, hpos, hle⟩ :=
    monthOfDay_spec (t + 1) 1 (monthLengths (isLeapYear y)) (by omega) hsum
  have hindex : (1 + (k : ℤ) - 1).toNat = k := by omega
  have hk' : k < 12 := hk
  intro g
  have hg : g = (y, monthOfDay (t + 1) 1 (monthLengths (isLeapYear y))) := by
    change gregorianOfDays days = _
    rw [gregorianOfDays_eq, hyear]
  rw [hg]
  dsimp only
  rw [IsDate, dayNumber, hlength, hmonths, hmonth, hindex, daysBefore_gregorian,
    Int.toNat_of_nonneg hy]
  exact ⟨⟨hy, by omega, by omega, hpos, hle⟩, by omega, by omega, by omega⟩

/-! ## Jalali dates -/

/-- The first part of `_jalali_to_gregorian`: the number of a day. -/
def jalaliDays (jy jm jd : ℤ) : ℤ :=
  let jy := jy + 1595
  let days := -355668 + 365 * jy + jy / 33 * 8 + (jy % 33 + 3) / 4 + jd +
    (if jm < 7 then (jm - 1) * 31 else (jm - 7) * 30 + 186)
  days

theorem jalaliToGregorian_eq (jy jm jd : ℤ) :
    jalaliToGregorian jy jm jd = gregorianOfDays (jalaliDays jy jm jd) := rfl

/-- The days of the months before one, but for the last month. -/
theorem sum_take_jalali (y : ℤ) {m : ℤ} (h : 1 ≤ m) (h' : m ≤ 12) :
    ((jalali.monthsOf y).take (m - 1).toNat).sum =
      if m < 7 then (m - 1) * 31 else (m - 7) * 30 + 186 := by
  have hall : ∀ leap, ∀ k < 12, ((jalali.months leap).take k).sum =
      if (k : ℤ) + 1 < 7 then (k : ℤ) * 31 else ((k : ℤ) + 1 - 7) * 30 + 186 := by decide
  have hk := hall (jalali.leap y) (m - 1).toNat (by omega)
  have hm : (((m - 1).toNat : ℕ) : ℤ) = m - 1 := Int.toNat_of_nonneg (by omega)
  rw [hm, sub_add_cancel] at hk
  exact hk

/-- The first day of the Jalali calendar, by one day that both calendars have: 1403-05-21 is
2024-08-11. -/
def jalaliEpoch : ℤ := gregorian.dayNumber 2024 8 11 - jalali.dayNumber 1403 5 21

theorem jalaliEpoch_eq : jalaliEpoch = 226895 := by
  rw [jalaliEpoch, dayNumber, dayNumber, daysBefore_gregorian, daysBefore_jalali]
  decide

/-- **The closed form** of the source counts the days of the Jalali calendar. -/
theorem jalaliDays_eq {y m d : ℤ} (h : jalali.IsDate y m d) :
    jalaliDays y m d = jalali.dayNumber y m d + jalaliEpoch := by
  obtain ⟨hy, hm, hm', -, -⟩ := h
  have hlength : (jalali.monthsOf y).length = 12 := rfl
  rw [hlength] at hm'
  rw [dayNumber, sum_take_jalali y hm hm', daysBefore_jalali, Int.toNat_of_nonneg hy,
    jalaliEpoch_eq, jalaliDays]
  omega

theorem jalali_day_le {y m d : ℤ} (h : jalali.IsDate y m d) : 1 ≤ d ∧ d ≤ 31 := by
  obtain ⟨-, hm, hm', hd, hd'⟩ := h
  have hlength : (jalali.monthsOf y).length = 12 := rfl
  have hall : ∀ leap, ∀ k < 12, (jalali.months leap).getD k 0 ≤ 31 := by decide
  have hle := hall (jalali.leap y) (m - 1).toNat (by omega)
  exact ⟨hd, hd'.trans hle⟩

/-- A Jalali date is converted to its day. -/
theorem utcDate_jalaliToGregorian {y m d : ℤ} (h : jalali.IsDate y m d) (hy : y ≤ 1900) :
    utcDate (jalaliToGregorian y m d).1 (jalaliToGregorian y m d).2.1
        (jalaliToGregorian y m d).2.2 =
      some (utcMidnight (jalali.dayNumber y m d + jalaliEpoch)) := by
  have hdays := jalaliDays_eq h
  obtain ⟨hd, hd'⟩ := jalali_day_le h
  have hlength : (jalali.monthsOf y).length = 12 := rfl
  have hrange : 226895 ≤ jalaliDays y m d ∧ jalaliDays y m d < 1000000 := by
    obtain ⟨hy', hm, hm', -, -⟩ := h
    rw [hlength] at hm'
    rw [jalaliDays]
    split <;> omega
  obtain ⟨hdate, hnumber, hlow, hhigh⟩ := gregorianOfDays_spec
    (show 0 ≤ jalaliDays y m d by omega)
  rw [← jalaliToGregorian_eq] at hdate hnumber hlow hhigh
  rw [utcDate_eq _ _ (by omega) (by omega), if_pos hdate, hnumber, hdays]

/-! ## Reading a cell -/

/-- The start of the date that three numbers name: Gregorian from 1901 to the last year of
`datetime`, Jalali before. -/
def dateNamed (y m d : ℤ) : Option ℤ :=
  if 1900 < y then
    if y ≤ 9999 ∧ gregorian.IsDate y m d then some (utcMidnight (gregorian.dayNumber y m d)) else none
  else if 1 ≤ y ∧ jalali.IsDate y m d then
    some (utcMidnight (jalali.dayNumber y m d + jalaliEpoch))
  else none

/-- A cell without a date: no text, or a word for none. -/
def blankDate (cfg : Config) (value : Cell) : Prop :=
  value = .null ∨ (let s := strip (value.text cfg).toList
    (s.isEmpty || ["none", "null", "-"].contains (String.ofList (s.map Char.toLower))) = true)

instance (cfg : Config) (value : Cell) : Decidable (blankDate cfg value) := by
  unfold blankDate
  infer_instance

/-- The text of a cell, without the joiners. -/
def dateText (cfg : Config) (value : Cell) : List Char :=
  strip ((strip (value.text cfg).toList).filter fun c => c.toNat != 0x200C)

/-- The three numbers of a text, between dashes or slashes. -/
def dateNumbers (cfg : Config) (value : Cell) : Option (ℤ × ℤ × ℤ) :=
  match split '-' ((dateText cfg value).map fun c => if c == '/' then '-' else c) with
  | [y, m, d] => match pyInt y, pyInt m, pyInt d with
    | some y, some m, some d => some (y, m, d)
    | _, _, _ => none
  | _ => none

/-- What has to be returned for a date, or for none. -/
inductive Answers : Option ℤ → Option ParsedDate → Prop
  | date (t : ℤ) : Answers (some t) (some (.date t))
  | malformed (message : String) : Answers none (some (.malformed message))

/-- **What a cell has to give**: nothing where it is blank, the date its numbers name, and an error
otherwise. -/
structure GivesDate (cfg : Config) (value : Cell) (result : Option ParsedDate) : Prop where
  blank : blankDate cfg value → result = some .empty
  text : ¬ blankDate cfg value →
    Answers ((dateNumbers cfg value).bind fun n => dateNamed n.1 n.2.1 n.2.2) result

theorem parseAnyDate_blank {cfg : Config} {value : Cell} (h : blankDate cfg value) :
    parseAnyDate cfg value = some .empty := by
  unfold parseAnyDate
  rcases h with hnull | hword
  · rw [if_pos hnull]
  · split
    · rfl
    · exact if_pos hword

/-- What a cell that is not blank gives. -/
theorem parseAnyDate_text {cfg : Config} {value : Cell} (h : ¬ blankDate cfg value) :
    (dateNumbers cfg value = none ∧ ∃ message, parseAnyDate cfg value = some (.malformed message)) ∨
      ∃ y m d, dateNumbers cfg value = some (y, m, d) ∧
        parseAnyDate cfg value = dateOfParts (dateText cfg value) y m d := by
  unfold parseAnyDate dateNumbers
  rw [blankDate, not_or] at h
  rw [if_neg h.1]
  dsimp only
  rw [if_neg h.2, ← dateText]
  generalize dateText cfg value = text
  generalize split '-' (text.map fun c => if c == '/' then '-' else c) = parts
  match parts with
  | [y, m, d] =>
    dsimp only
    cases pyInt y with
    | none => exact Or.inl ⟨rfl, _, rfl⟩
    | some y => cases pyInt m with
      | none => exact Or.inl ⟨rfl, _, rfl⟩
      | some m => cases pyInt d with
        | none => exact Or.inl ⟨rfl, _, rfl⟩
        | some d => exact Or.inr ⟨y, m, d, rfl, rfl⟩
  | [] | [_] | [_, _] | _ :: _ :: _ :: _ :: _ => exact Or.inl ⟨rfl, _, rfl⟩

/-- The numbers that are converted as they have to be. -/
def SoundNumbers (y m d : ℤ) : Prop :=
  if 1900 < y then [y, m, d].all fitsCInt = true else 1 ≤ y ∧ jalali.IsDate y m d

/-- A Gregorian date. -/
theorem answers_gregorian (s : List Char) {y : ℤ} (m d : ℤ) (hy : 1900 < y) :
    Answers (dateNamed y m d) (dateOfParts s y m d) ↔ [y, m, d].all fitsCInt = true := by
  rw [dateNamed, if_pos hy, dateOfParts, if_pos hy]
  by_cases hfits : [y, m, d].all fitsCInt = true
  · rw [if_pos hfits]
    refine iff_of_true ?_ hfits
    by_cases hdate : y ≤ 9999 ∧ gregorian.IsDate y m d
    · rw [if_pos hdate, utcDate_eq m d (by omega) hdate.1, if_pos hdate.2]
      exact .date _
    · have hnone : utcDate y m d = none := by
        by_cases hmax : y ≤ 9999
        · rw [utcDate_eq m d (by omega) hmax, if_neg fun h => hdate ⟨hmax, h⟩]
        · exact if_neg fun h => hmax h.2.1
      rw [if_neg hdate, hnone]
      exact .malformed _
  · rw [if_neg hfits]
    refine iff_of_false (fun h => ?_) hfits
    have hsome (named : Option ℤ) (h : Answers named none) : False := by cases h
    exact hsome _ h

/-- A Jalali date. What is no date of the calendar is taken for one, or raises. -/
theorem answers_jalali (s : List Char) {y : ℤ} (m d : ℤ) (hy : ¬ 1900 < y) :
    Answers (dateNamed y m d) (dateOfParts s y m d) ↔ 1 ≤ y ∧ jalali.IsDate y m d := by
  rw [dateNamed, if_neg hy, dateOfParts, if_neg hy]
  by_cases hdate : 1 ≤ y ∧ jalali.IsDate y m d
  · rw [if_pos hdate]
    refine iff_of_true ?_ hdate
    dsimp only
    rw [utcDate_jalaliToGregorian hdate.2 (by omega)]
    exact .date _
  · rw [if_neg hdate]
    refine iff_of_false (fun h => ?_) hdate
    dsimp only at h
    generalize utcDate _ _ _ = t at h
    cases t <;> cases h

/-- **Dates of a sheet**: a cell gives what it has to exactly where its numbers, if it has three,
are sound. -/
theorem parseAnyDate_iff (cfg : Config) (value : Cell) :
    GivesDate cfg value (parseAnyDate cfg value) ↔
      ∀ y m d, ¬ blankDate cfg value → dateNumbers cfg value = some (y, m, d) →
        SoundNumbers y m d := by
  by_cases hblank : blankDate cfg value
  · exact iff_of_true ⟨fun _ => parseAnyDate_blank hblank, absurd hblank⟩
      fun _ _ _ hnot => absurd hblank hnot
  · have hgives : GivesDate cfg value (parseAnyDate cfg value) ↔
        Answers ((dateNumbers cfg value).bind fun n => dateNamed n.1 n.2.1 n.2.2)
          (parseAnyDate cfg value) :=
      ⟨fun h => h.text hblank, fun h => ⟨fun hyes => absurd hyes hblank, fun _ => h⟩⟩
    rw [hgives]
    rcases parseAnyDate_text hblank with ⟨hnone, message, herror⟩ | ⟨y, m, d, hnumbers, hparts⟩
    · rw [hnone, herror]
      refine iff_of_true (.malformed message) fun y m d _ hsome => ?_
      cases hsome
    · have hsound : Answers (dateNamed y m d) (dateOfParts (dateText cfg value) y m d) ↔
          SoundNumbers y m d := by
        unfold SoundNumbers
        split
        · exact answers_gregorian _ m d (by assumption)
        · exact answers_jalali _ m d (by assumption)
      rw [hnumbers, hparts, Option.bind_some, hsound]
      constructor
      · rintro h y' m' d' - hsame
        cases hsame
        exact h
      · intro h
        exact h y m d hblank rfl

/-- A thirteenth month is taken for a date. -/
theorem thirteenth_month_accepted :
    ¬ ∀ (cfg : Config) (value : Cell), GivesDate cfg value (parseAnyDate cfg value) := by
  intro h
  have hnumbers : dateNumbers {} (.str "1402-13-01") = some (1402, 13, 1) := by decide +kernel
  have hnamed : dateNamed 1402 13 1 = none := by decide
  have hblank : ¬ blankDate {} (.str "1402-13-01") := by decide +kernel
  have hdate : parseAnyDate {} (.str "1402-13-01") = some (.date 1710979200000000) := by
    decide +kernel
  have htext := (h {} (.str "1402-13-01")).text hblank
  rw [hnumbers, Option.bind_some, hnamed, hdate] at htext
  cases htext

end ParkingSystem
