import Mathlib.Algebra.Order.Ring.Int
import Mathlib.Algebra.BigOperators.Group.List.Basic
import Mathlib.Algebra.Order.BigOperators.Group.List
import Mathlib.Data.List.GetD

/-!
# Calendars

A calendar says which years are leap years and how long the months are. Its dates are numbered day
by day from the first day of year 0, so two calendars agree once one day of each is the same.
-/

/-- Leap years, and the lengths of the months of both kinds of years. -/
structure Calendar where
  leap : ℤ → Bool
  months : Bool → List ℤ

namespace Calendar

variable (c : Calendar)

/-- The lengths of the months of a year. -/
def monthsOf (y : ℤ) : List ℤ := c.months (c.leap y)

/-- The days of a year. -/
def yearDays (y : ℤ) : ℤ := (c.monthsOf y).sum

/-- The days before a year. -/
def daysBefore : ℕ → ℤ
  | 0 => 0
  | y + 1 => daysBefore y + c.yearDays y

/-- A day that the calendar has. -/
def IsDate (y m d : ℤ) : Prop :=
  0 ≤ y ∧ 1 ≤ m ∧ m ≤ (c.monthsOf y).length ∧ 1 ≤ d ∧ d ≤ (c.monthsOf y).getD (m - 1).toNat 0

instance (y m d : ℤ) : Decidable (c.IsDate y m d) := by
  unfold IsDate
  infer_instance

/-- The number of a day. -/
def dayNumber (y m d : ℤ) : ℤ :=
  c.daysBefore y.toNat + ((c.monthsOf y).take (m - 1).toNat).sum + (d - 1)

variable {c}

/-- **A closed form** that grows by the days of each year counts the days between two years. -/
theorem daysBefore_sub {f : ℤ → ℤ} (h : ∀ y, 0 ≤ y → f (y + 1) = f y + c.yearDays y) (y : ℕ) :
    c.daysBefore y = f y - f 0 := by
  induction y with
  | zero => simp [daysBefore]
  | succ y ih =>
    have hstep := h y (Int.natCast_nonneg y)
    rw [daysBefore, ih, Int.natCast_succ, hstep]
    omega

/-! ## Days one after the other -/

/-- The day after a day. -/
def next (c : Calendar) (y m d : ℤ) : ℤ × ℤ × ℤ :=
  if d < (c.monthsOf y).getD (m - 1).toNat 0 then (y, m, d + 1)
  else if m < (c.monthsOf y).length then (y, m + 1, 1)
  else (y + 1, 1, 1)

/-- Every year has a month, and every month a day. -/
def Regular (c : Calendar) : Prop := ∀ leap, c.months leap ≠ [] ∧ ∀ n ∈ c.months leap, 1 ≤ n

/-- What the months before the next one add up to. -/
theorem sum_take_next {l : List ℤ} {m : ℤ} (h : 1 ≤ m) (h' : m ≤ l.length) :
    (l.take m.toNat).sum = (l.take (m - 1).toNat).sum + l.getD (m - 1).toNat 0 := by
  have hm : m.toNat = (m - 1).toNat + 1 := by omega
  have hlt : (m - 1).toNat < l.length := by omega
  rw [hm, List.sum_take_succ _ _ hlt, List.getD_eq_getElem _ _ hlt]

/-- The next day has the next number. -/
theorem dayNumber_next {y m d : ℤ} (h : c.IsDate y m d) :
    c.dayNumber (c.next y m d).1 (c.next y m d).2.1 (c.next y m d).2.2 =
      c.dayNumber y m d + 1 := by
  obtain ⟨hy, hm, hm', hd, hd'⟩ := h
  have hsum := sum_take_next hm hm'
  unfold next
  split
  next =>
    simp only [dayNumber]
    omega
  next hlast =>
    split
    next =>
      simp only [dayNumber, add_sub_cancel_right, hsum]
      omega
    next hend =>
      -- the last day of a year: its months are all of them
      have hyear : (y + 1).toNat = y.toNat + 1 := by omega
      have hall : (c.monthsOf y).take m.toNat = c.monthsOf y := List.take_of_length_le (by omega)
      rw [hall] at hsum
      simp only [dayNumber, hyear, daysBefore, yearDays, Int.toNat_of_nonneg hy, sub_self,
        Int.toNat_zero, List.take_zero, List.sum_nil]
      omega

/-- The next day is a day of the calendar. -/
theorem isDate_next (hc : c.Regular) {y m d : ℤ} (h : c.IsDate y m d) :
    c.IsDate (c.next y m d).1 (c.next y m d).2.1 (c.next y m d).2.2 := by
  have hfirst (y : ℤ) {m : ℤ} (hm : 1 ≤ m) (hm' : m ≤ (c.monthsOf y).length) :
      1 ≤ (c.monthsOf y).getD (m - 1).toNat 0 := by
    have hlt : (m - 1).toNat < (c.monthsOf y).length := by omega
    rw [List.getD_eq_getElem _ _ hlt]
    exact (hc (c.leap y)).2 _ (List.getElem_mem hlt)
  obtain ⟨hy, hm, hm', hd, hd'⟩ := h
  unfold next
  split
  next hlt => exact ⟨hy, hm, hm', by dsimp only; omega, by dsimp only; omega⟩
  next =>
    split
    next hlt =>
      dsimp only
      exact ⟨hy, by omega, by omega, le_rfl, hfirst y (by omega) (by omega)⟩
    next =>
      have hpos : 0 < (c.monthsOf (y + 1)).length :=
        List.length_pos_of_ne_nil (hc (c.leap (y + 1))).1
      dsimp only
      exact ⟨by omega, le_rfl, by omega, le_rfl, hfirst (y + 1) le_rfl (by omega)⟩

/-- Longer parts of a year have no fewer days. -/
theorem sum_take_mono {l : List ℤ} (hl : ∀ n ∈ l, 1 ≤ n) {j k : ℕ} (h : j ≤ k) :
    (l.take j).sum ≤ (l.take k).sum := by
  have hsplit := List.sum_take_add_sum_drop (l.take k) j
  rw [List.take_take, min_eq_left h] at hsplit
  have hrest : 0 ≤ ((l.take k).drop j).sum :=
    List.sum_nonneg fun n hn =>
      zero_le_one.trans (hl n (List.mem_of_mem_take (List.mem_of_mem_drop hn)))
  omega

theorem daysBefore_mono (hc : c.Regular) {j k : ℕ} (h : j ≤ k) :
    c.daysBefore j ≤ c.daysBefore k := by
  induction h with
  | refl => exact le_rfl
  | @step k _ ih =>
    have hyear := sum_take_mono (hc (c.leap k)).2 (Nat.zero_le (c.months (c.leap k)).length)
    rw [List.take_zero, List.sum_nil, List.take_length] at hyear
    exact ih.trans (le_add_of_nonneg_right hyear)

/-- A day lies in its month, and in its year. -/
theorem dayNumber_bounds (hc : c.Regular) {y m d : ℤ} (h : c.IsDate y m d) :
    c.daysBefore y.toNat ≤ c.dayNumber y m d ∧
      c.dayNumber y m d < c.daysBefore y.toNat + ((c.monthsOf y).take m.toNat).sum ∧
      c.dayNumber y m d < c.daysBefore (y.toNat + 1) := by
  obtain ⟨hy, hm, hm', hd, hd'⟩ := h
  have hsum := sum_take_next hm hm'
  have hmonths : ∀ n ∈ c.monthsOf y, 1 ≤ n := (hc (c.leap y)).2
  have hlow := sum_take_mono hmonths (Nat.zero_le (m - 1).toNat)
  have hhigh := sum_take_mono hmonths (show m.toNat ≤ (c.monthsOf y).length by omega)
  rw [List.take_zero, List.sum_nil] at hlow
  rw [List.take_of_length_le (le_refl (c.monthsOf y).length)] at hhigh
  simp only [dayNumber, daysBefore, yearDays, Int.toNat_of_nonneg hy]
  omega

/-- An earlier date has a smaller number. -/
theorem dayNumber_lt (hc : c.Regular) {y m d y' m' d' : ℤ} (h : c.IsDate y m d)
    (h' : c.IsDate y' m' d') (hlt : y < y' ∨ y = y' ∧ (m < m' ∨ m = m' ∧ d < d')) :
    c.dayNumber y m d < c.dayNumber y' m' d' := by
  obtain ⟨-, hmonth, hyear⟩ := dayNumber_bounds hc h
  rcases hlt with hlt | ⟨rfl, hlt | ⟨rfl, hlt⟩⟩
  · have hmono := daysBefore_mono hc (show y.toNat + 1 ≤ y'.toNat by
      have := h.1
      omega)
    exact hyear.trans_le (hmono.trans (dayNumber_bounds hc h').1)
  · have hmono := sum_take_mono (hc (c.leap y)).2 (show m.toNat ≤ (m' - 1).toNat by
      have := h.2.1
      omega)
    have hd' := h'.2.2.2.1
    rw [← monthsOf] at hmono
    simp only [dayNumber] at hmonth ⊢
    omega
  · simp only [dayNumber]
    omega

/-- **A number is that of one date.** -/
theorem dayNumber_inj (hc : c.Regular) {y m d y' m' d' : ℤ} (h : c.IsDate y m d)
    (h' : c.IsDate y' m' d') (heq : c.dayNumber y m d = c.dayNumber y' m' d') :
    (y, m, d) = (y', m', d') := by
  by_contra hne
  simp only [Prod.mk.injEq] at hne
  have hlt : (y < y' ∨ y = y' ∧ (m < m' ∨ m = m' ∧ d < d')) ∨
      (y' < y ∨ y' = y ∧ (m' < m ∨ m' = m ∧ d' < d)) := by omega
  rcases hlt with hlt | hlt
  · exact (dayNumber_lt hc h h' hlt).ne heq
  · exact (dayNumber_lt hc h' h hlt).ne heq.symm

/-! ## The two calendars -/

/-- The Gregorian calendar, also before it was there. -/
def gregorian : Calendar where
  leap y := (y % 4 == 0 && y % 100 != 0) || y % 400 == 0
  months leap := [31, if leap then 29 else 28, 31, 30, 31, 30, 31, 31, 30, 31, 30, 31]

/-- The Jalali calendar, with eight leap years in 33. -/
def jalali : Calendar where
  leap y := [1, 5, 9, 13, 17, 22, 26, 30].contains (y % 33)
  months leap := [31, 31, 31, 31, 31, 31, 30, 30, 30, 30, 30, if leap then 30 else 29]

theorem regular_gregorian : gregorian.Regular := by
  unfold Regular
  decide

theorem regular_jalali : jalali.Regular := by
  unfold Regular
  decide

theorem yearDays_gregorian (y : ℤ) :
    gregorian.yearDays y = if gregorian.leap y then 366 else 365 := by
  have hsum : ∀ leap, (gregorian.months leap).sum = if leap then 366 else 365 := by decide
  exact hsum (gregorian.leap y)

theorem yearDays_jalali (y : ℤ) : jalali.yearDays y = if jalali.leap y then 366 else 365 := by
  have hsum : ∀ leap, (jalali.months leap).sum = if leap then 366 else 365 := by decide
  exact hsum (jalali.leap y)

theorem leap_gregorian_iff (y : ℤ) :
    gregorian.leap y = true ↔ (y % 4 = 0 ∧ y % 100 ≠ 0) ∨ y % 400 = 0 := by
  simp [gregorian]

theorem leap_jalali_iff (y : ℤ) : jalali.leap y = true ↔ y % 33 = 1 ∨ y % 33 = 5 ∨ y % 33 = 9 ∨
    y % 33 = 13 ∨ y % 33 = 17 ∨ y % 33 = 22 ∨ y % 33 = 26 ∨ y % 33 = 30 := by
  simp [jalali]

/-- The days before a Gregorian year, from the numbers of leap years. -/
theorem daysBefore_gregorian (y : ℕ) : gregorian.daysBefore y =
    365 * (y : ℤ) + ((y : ℤ) + 3) / 4 - ((y : ℤ) + 99) / 100 + ((y : ℤ) + 399) / 400 := by
  have hclosed := @daysBefore_sub gregorian
    (fun y => 365 * y + (y + 3) / 4 - (y + 99) / 100 + (y + 399) / 400) ?_ y
  · rw [hclosed]
    omega
  · intro y hy
    rw [yearDays_gregorian]
    have hleap := leap_gregorian_iff y
    split
    · have hcases := hleap.1 (by assumption)
      omega
    · have hnot := mt hleap.2 (by assumption)
      omega

/-- The days before a Jalali year. -/
theorem daysBefore_jalali (y : ℕ) : jalali.daysBefore y =
    365 * (y : ℤ) + ((y : ℤ) + 1595) / 33 * 8 + (((y : ℤ) + 1595) % 33 + 3) / 4 - 387 := by
  have hclosed := @daysBefore_sub jalali
    (fun y => 365 * y + (y + 1595) / 33 * 8 + ((y + 1595) % 33 + 3) / 4) ?_ y
  · rw [hclosed]
    omega
  · intro y hy
    rw [yearDays_jalali]
    have hleap := leap_jalali_iff y
    split
    · have hcases := hleap.1 (by assumption)
      omega
    · have hnot := mt hleap.2 (by assumption)
      omega

end Calendar
