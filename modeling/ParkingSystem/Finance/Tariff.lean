import Mathlib.Algebra.Order.BigOperators.Group.List
import ParkingSystem.Settings

/-!
# Tariffs

What a stay costs: `calculate_amounts` with its rounding, night, daily-cap and minimum
policies, and the amounts a payment is split into. Everything here is pure.

Local times are wall-clock microseconds: two `datetime`s with the same zone are compared and
subtracted on the wall clock. The one float of the computation, the cost by the minute, is an
exact rational until it is rounded.
-/

namespace ParkingSystem

open PyText Transaction

/-- Microseconds in an hour. -/
def hourMicros : ℤ := 3600000000

/-- `_NIGHT_MAX_DAYS`. -/
def nightMaxDays : ℕ := 3660

/-- `_ceil_div`. -/
def ceilDiv (a b : ℤ) : ℤ := -((-a) / b)

/-! ## Night hours -/

/-- Midnight of the day of a wall-clock time. -/
def startOfDay (t : ℤ) : ℤ := t - t % 86400000000

/-- The night window of the cursor's day; it ends the next day when it starts after its end. -/
def nightWindow (startHour endHour cursor : ℤ) : ℤ × ℤ :=
  let day := startOfDay cursor
  if startHour ≤ endHour then (day + startHour * hourMicros, day + endHour * hourMicros)
  else (day + startHour * hourMicros, day + 86400000000 + endHour * hourMicros)

/-- The loop of `night_overlap_seconds`, for at most `fuel` more days. -/
def nightLoop (start stop startHour endHour : ℤ) : ℕ → ℤ → ℤ → ℤ
  | 0, _, total => total
  | fuel + 1, cursor, total =>
    if cursor < stop then
      let window := nightWindow startHour endHour cursor
      let from' := max window.1 start
      let to' := min window.2 stop
      let total := if from' < to' then total + (to' - from') / 1000000 else total
      nightLoop start stop startHour endHour fuel (cursor + 86400000000) total
    else total

/-- `night_overlap_seconds`; `tz` is the local time of an instant. -/
def nightOverlapSeconds (tz : ℤ → ℤ) (entryAt durationSeconds startHour endHour : ℤ) : ℤ :=
  if durationSeconds ≤ 0 then 0
  else
    let start := tz entryAt
    let stop := start + durationSeconds * 1000000
    nightLoop start stop startHour endHour nightMaxDays
      (start - start % hourMicros - 86400000000) 0

/-! ## Amounts -/

/-- What `calculate_amounts` returns. -/
structure Amounts where
  base : ℤ
  penalty : ℤ
  discount : ℤ
  final : ℤ
  warnings : List String
  deriving DecidableEq, Repr

/-- The free result, with its warnings. -/
def Amounts.zero (warnings : List String) : Amounts :=
  { base := 0, penalty := 0, discount := 0, final := 0, warnings }

/-- `_cost`. -/
def cost (rounding : String) (seconds rate : ℤ) : ℚ :=
  if seconds ≤ 0 then 0
  else if rounding = "MINUTE" then seconds / 3600 * rate
  else (ceilDiv seconds 3600 * rate : ℤ)

/-- The days the daily cap counts. -/
def cappedDays (tz : ℤ → ℤ) (durationSeconds : ℤ) (dayDefinition : String)
    (entryAt : Option ℤ) : ℤ :=
  match entryAt with
  | some entry =>
    if dayDefinition = "CALENDAR" then
      let start := tz entry
      let stop := start + durationSeconds * 1000000
      max 1 (stop / 86400000000 - start / 86400000000 + 1)
    else max 1 (ceilDiv (max 0 durationSeconds) 86400)
  | none => max 1 (ceilDiv (max 0 durationSeconds) 86400)

/-- `_apply_daily_cap`: the amount and the warnings it adds. -/
def applyDailyCap (tz : ℤ → ℤ) (base : ℤ) (tariff : Tariff) (durationSeconds : ℤ)
    (dayDefinition : String) (entryAt : Option ℤ) : ℤ × List String :=
  match tariff.dailyMaxAmount with
  | none => (base, [])
  | some limit =>
    if limit = 0 then (base, [])
    else
      let fallback := if dayDefinition = "CALENDAR" ∧ entryAt = none then
        ["DAY_DEFINITION_FALLBACK_24H"] else []
      let cap := limit * cappedDays tz durationSeconds dayDefinition entryAt
      if cap < base then (cap, fallback ++ ["DAILY_CAP_APPLIED"]) else (base, fallback)

/-- The seconds charged at the night rate, and the warnings. -/
def nightSeconds (tz : ℤ → ℤ) (tariff : Tariff) (billable : ℤ) (entryAt : Option ℤ)
    (policy : TariffPolicy) : ℤ × List String :=
  if policy.nightEnabled ∧ 0 < tariff.nightAmount.getD 0 then
    match entryAt with
    | some entry =>
      (nightOverlapSeconds tz entry billable policy.nightStartHour policy.nightEndHour, [])
    | none => (0, ["NIGHT_SKIPPED_NO_ENTRY_TIME"])
  else (0, [])

/-- `calculate_amounts`. -/
def calculateAmounts (tz : ℤ → ℤ) (tariff : Option Tariff) (durationSeconds : ℤ)
    (entryAt : Option ℤ) (policy : TariffPolicy) : Amounts :=
  let duration := if durationSeconds < 0 then 0 else durationSeconds
  match tariff with
  | none => .zero ["NO_ACTIVE_TARIFF"]
  | some tariff =>
    let billable := max 0 (duration - tariff.freeMinutes * 60)
    if billable = 0 then .zero []
    else
      let night := nightSeconds tz tariff billable entryAt policy
      let nightCost := if 0 < night.1 then
        cost policy.rounding night.1 (tariff.nightAmount.getD 0) else 0
      let nightWarnings := if 0 < night.1 then ["NIGHT_TARIFF_APPLIED"] else []
      let base := roundHalfEven
        (nightCost + cost policy.rounding (billable - night.1) tariff.hourlyAmount)
      let capped := applyDailyCap tz base tariff duration policy.dayDefinition entryAt
      let raised := 0 < policy.minChargeAmount ∧ 0 < capped.1 ∧ capped.1 < policy.minChargeAmount
      let final := if raised then policy.minChargeAmount else capped.1
      { base := final, penalty := 0, discount := 0, final
        warnings := night.2 ++ nightWarnings ++ capped.2 ++
          if raised then ["MIN_AMOUNT_APPLIED"] else [] }

/-! ## Outstanding amounts -/

/-- `charge_outstanding`. -/
def chargeOutstanding (c : Charge) : ℤ := max 0 (c.amount - c.paidAmount)

/-- `allocate_payment_amounts`: how much each charge gets, in the given order, and what is
left. -/
def allocatePaymentAmounts : List Charge → ℤ → List (Charge × ℤ) × ℤ
  | [], remaining => ([], remaining)
  | c :: cs, remaining =>
    if remaining ≤ 0 then ([], remaining)
    else
      let outstanding := chargeOutstanding c
      if outstanding ≤ 0 then allocatePaymentAmounts cs remaining
      else
        let alloc := min remaining outstanding
        let rest := allocatePaymentAmounts cs (remaining - alloc)
        ((c, alloc) :: rest.1, rest.2)

/-- `payment_unallocated_credit`. -/
def paymentUnallocatedCredit (payment : Payment) (allocatedSum : ℤ) : ℤ :=
  max 0 (payment.amount - allocatedSum)

/-- Every allocation is positive and within what its charge still owes. -/
theorem allocate_bounds {cs : List Charge} {amount : ℤ} {c : Charge} {a : ℤ}
    (h : (c, a) ∈ (allocatePaymentAmounts cs amount).1) :
    c ∈ cs ∧ 0 < a ∧ a ≤ chargeOutstanding c := by
  induction cs generalizing amount with
  | nil => simp [allocatePaymentAmounts] at h
  | cons d ds ih =>
    simp only [allocatePaymentAmounts] at h
    split at h
    · simp at h
    · split at h
      · obtain ⟨hc, ha⟩ := ih h
        exact ⟨List.mem_cons_of_mem _ hc, ha⟩
      · rcases List.mem_cons.1 h with heq | hrest
        · cases heq
          exact ⟨List.mem_cons_self, by omega, min_le_right _ _⟩
        · obtain ⟨hc, ha⟩ := ih hrest
          exact ⟨List.mem_cons_of_mem _ hc, ha⟩

theorem chargeOutstanding_nonneg (c : Charge) : 0 ≤ chargeOutstanding c := le_max_left _ _

/-- A charge gets an allocation exactly when it still owes something and what the charges
before it owe does not use the amount up. -/
theorem mem_allocate_iff {cs : List Charge} {amount : ℤ} {c : Charge} :
    c ∈ (allocatePaymentAmounts cs amount).1.map Prod.fst ↔
      ∃ before after, cs = before ++ c :: after ∧ 0 < chargeOutstanding c ∧
        (before.map chargeOutstanding).sum < amount := by
  induction cs generalizing amount with
  | nil => simp [allocatePaymentAmounts]
  | cons d ds ih =>
    have hsum (l : List Charge) : 0 ≤ (l.map chargeOutstanding).sum :=
      List.sum_nonneg fun y hy => by
        obtain ⟨e, _, rfl⟩ := List.mem_map.1 hy
        exact chargeOutstanding_nonneg e
    have hd := chargeOutstanding_nonneg d
    -- `d` itself, or a charge after it with what `d` leaves of the amount
    have hcons : (∃ before after, d :: ds = before ++ c :: after ∧ 0 < chargeOutstanding c ∧
        (before.map chargeOutstanding).sum < amount) ↔
        (c = d ∧ 0 < chargeOutstanding d ∧ 0 < amount) ∨ ∃ before after,
          ds = before ++ c :: after ∧ 0 < chargeOutstanding c ∧
            (before.map chargeOutstanding).sum < amount - chargeOutstanding d := by
      constructor
      · rintro ⟨_ | ⟨e, before⟩, after, heq, hc, hlt⟩
        · obtain ⟨rfl, rfl⟩ := List.cons.inj heq
          exact Or.inl ⟨rfl, hc, hlt⟩
        · obtain ⟨rfl, rfl⟩ := List.cons.inj heq
          simp only [List.map_cons, List.sum_cons] at hlt
          exact Or.inr ⟨before, after, rfl, hc, by omega⟩
      · rintro (⟨rfl, hc, hpos⟩ | ⟨before, after, rfl, hc, hlt⟩)
        · exact ⟨[], ds, rfl, hc, hpos⟩
        · refine ⟨d :: before, after, rfl, hc, ?_⟩
          simp only [List.map_cons, List.sum_cons]
          omega
    rw [hcons]
    simp only [allocatePaymentAmounts]
    split
    · rename_i hle
      simp only [List.map_nil, List.not_mem_nil, false_iff, not_or, not_and, not_exists]
      refine ⟨fun _ _ => not_lt.2 hle, fun before after _ _ hlt => ?_⟩
      have hbefore := hsum before
      omega
    · rename_i hpos
      split
      · rename_i hzero
        have hdz : chargeOutstanding d = 0 := le_antisymm hzero hd
        simp [ih, hdz]
      · rename_i howes
        simp only [List.map_cons, List.mem_cons, ih]
        refine or_congr ⟨fun h => ⟨h, by omega, by omega⟩, fun h => h.1⟩ ?_
        -- where `d` uses the amount up, nothing is left on either side
        refine exists_congr fun before => exists_congr fun after =>
          and_congr_right fun _ => and_congr_right fun _ => ?_
        have hbefore := hsum before
        omega

/-- The allocations add up to at most the amount. -/
theorem allocate_sum_le (cs : List Charge) {amount : ℤ} (h : 0 ≤ amount) :
    ((allocatePaymentAmounts cs amount).1.map Prod.snd).sum ≤ amount := by
  induction cs generalizing amount with
  | nil => simpa [allocatePaymentAmounts] using h
  | cons d ds ih =>
    simp only [allocatePaymentAmounts]
    split
    · simpa using h
    · split
      · exact ih h
      · have hle := min_le_left amount (chargeOutstanding d)
        have hrest := @ih (amount - min amount (chargeOutstanding d)) (by omega)
        simp only [List.map_cons, List.sum_cons]
        omega

/-- The charges that get an allocation come in the order of the list. -/
theorem allocate_sublist (cs : List Charge) (amount : ℤ) :
    List.Sublist ((allocatePaymentAmounts cs amount).1.map Prod.fst) cs := by
  induction cs generalizing amount with
  | nil => simp [allocatePaymentAmounts]
  | cons d ds ih =>
    simp only [allocatePaymentAmounts]
    split
    · simp
    · split
      · exact (ih _).cons _
      · exact (ih _).cons_cons _

end ParkingSystem
