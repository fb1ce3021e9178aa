import Mathlib.Algebra.BigOperators.Ring.Finset
import Mathlib.Algebra.Order.BigOperators.Group.Finset
import Mathlib.Data.Int.ConditionallyCompleteOrder
import Mathlib.Data.Int.Interval
import Mathlib.Data.Set.Card
import Mathlib.Tactic.Ring
import ParkingSystem.Finance.Tariff

/-!
# Night Hours

What `night_overlap_seconds` is meant to count: the part of a stay that lies in a night, over all
local dates. The loop walks from day to day with the hour of the entry and stops at the exit, so
the night of the last day is left out where the exit comes after its start and not after the hour
of the entry.

Instants are local microseconds, and the zone is a fixed offset.
-/

namespace ParkingSystem

/-! ## Nights -/

/-- The microseconds of a day. -/
def dayLength : ℤ := 86400000000

/-- The night that starts on a local date: up to the next date where it starts after its end. -/
noncomputable def night (startHour endHour date : ℤ) : Finset ℤ :=
  Finset.Ico (date * dayLength + startHour * hourMicros)
    ((if startHour < endHour then date else date + 1) * dayLength + endHour * hourMicros)

/-- The microseconds of `[start, stop)` that lie in some night. -/
def inNights (startHour endHour start stop : ℤ) : Set ℤ :=
  {t | (start ≤ t ∧ t < stop) ∧ ∃ date, t ∈ night startHour endHour date}

theorem inNights_self (startHour endHour t : ℤ) : inNights startHour endHour t t = ∅ := by
  ext u
  simp only [inNights, Set.mem_ofPred_eq, Set.mem_empty_iff_false, iff_false]
  omega

/-- What one night has of a stay. -/
noncomputable def nightShare (startHour endHour start stop date : ℤ) : ℤ :=
  (Finset.Ico start stop ∩ night startHour endHour date).card

variable {startHour endHour start stop : ℤ}

/-- A share is the length of the overlap. -/
theorem nightShare_eq (startHour endHour start stop date : ℤ) :
    nightShare startHour endHour start stop date =
      max 0 (min stop ((if startHour < endHour then date else date + 1) * dayLength +
          endHour * hourMicros) -
        max start (date * dayLength + startHour * hourMicros)) := by
  rw [nightShare, night, Finset.Ico_inter_Ico, Int.card_Ico, Int.toNat_eq_max, max_comm]

theorem nightShare_nonneg (date : ℤ) : 0 ≤ nightShare startHour endHour start stop date :=
  Int.natCast_nonneg _

/-- Hours of a day that are not the same. -/
structure NightHours (startHour endHour : ℤ) : Prop where
  start_nonneg : 0 ≤ startHour
  start_le : startHour ≤ 23
  end_nonneg : 0 ≤ endHour
  end_le : endHour ≤ 23
  ne : startHour ≠ endHour

/-- A night is over when the next one starts. -/
theorem disjoint_night (h : NightHours startHour endHour) {date later : ℤ} (hlt : date < later) :
    Disjoint (night startHour endHour date) (night startHour endHour later) := by
  obtain ⟨h₁, h₂, h₃, h₄, -⟩ := h
  rw [Finset.disjoint_left]
  intro t ht hlater
  simp only [night, Finset.mem_Ico, dayLength, hourMicros] at ht hlater
  split at ht <;> omega

/-- What disjoint sets have of another set, all together. -/
theorem card_filter_exists {α ι : Type} [DecidableEq α] (span : Finset α) (w : ι → Finset α)
    (s : Finset ι) (hdisjoint : (s : Set ι).PairwiseDisjoint w)
    (hrest : ∀ i, i ∉ s → span ∩ w i = ∅) [DecidablePred fun t => ∃ i, t ∈ w i] :
    (span.filter fun t => ∃ i, t ∈ w i).card = ∑ i ∈ s, (span ∩ w i).card := by
  have hunion : (span.filter fun t => ∃ i, t ∈ w i) = s.biUnion fun i => span ∩ w i := by
    ext t
    simp only [Finset.mem_filter, Finset.mem_biUnion, Finset.mem_inter]
    constructor
    · rintro ⟨ht, i, hi⟩
      by_cases hs : i ∈ s
      · exact ⟨i, hs, ht, hi⟩
      · exact absurd (Finset.mem_inter.2 ⟨ht, hi⟩) (by simp [hrest i hs])
    · rintro ⟨i, -, ht, hi⟩
      exact ⟨ht, i, hi⟩
  rw [hunion, Finset.card_biUnion]
  intro i hi j hj hij
  exact (hdisjoint hi hj hij).mono Finset.inter_subset_right Finset.inter_subset_right

/-! ## The loop -/

/-- What the loop counts of a day. -/
theorem nightLoop_succ (hne : startHour ≠ endHour) (fuel : ℕ) {cursor : ℤ} (hcursor : cursor < stop)
    (total : ℤ) : nightLoop start stop startHour endHour (fuel + 1) cursor total =
      nightLoop start stop startHour endHour fuel (cursor + dayLength)
        (total + nightShare startHour endHour start stop (cursor / dayLength) / 1000000) := by
  have hday : startOfDay cursor = cursor / dayLength * dayLength := by
    unfold startOfDay dayLength
    omega
  rw [nightLoop, if_pos hcursor, nightShare_eq]
  dsimp only
  congr 1
  generalize hq : cursor / dayLength = date at hday ⊢
  -- the window of the day is its night
  by_cases hlt : startHour < endHour
  · simp only [nightWindow, hday, if_pos hlt, if_pos (le_of_lt hlt)]
    unfold dayLength hourMicros
    split <;> omega
  · have hle : ¬ startHour ≤ endHour := by omega
    simp only [nightWindow, hday, if_neg hlt, if_neg hle]
    unfold dayLength hourMicros
    split <;> omega

/-- The loop counts the nights of the days whose cursor comes before the exit. -/
theorem nightLoop_eq_sum (hne : startHour ≠ endHour) (fuel : ℕ) (cursor total : ℤ) :
    nightLoop start stop startHour endHour fuel cursor total =
      total + ∑ i ∈ Finset.range fuel, if cursor + i * dayLength < stop then
        nightShare startHour endHour start stop (cursor / dayLength + i) / 1000000 else 0 := by
  induction fuel generalizing cursor total with
  | zero => simp [nightLoop]
  | succ fuel ih =>
    rw [Finset.sum_range_succ']
    by_cases hcursor : cursor < stop
    · rw [nightLoop_succ hne fuel hcursor, ih]
      have hnext : (cursor + dayLength) / dayLength = cursor / dayLength + 1 := by
        unfold dayLength
        omega
      have hrest (i : ℕ) : (if cursor + dayLength + i * dayLength < stop then
            nightShare startHour endHour start stop ((cursor + dayLength) / dayLength + i) / 1000000
          else 0) = if cursor + ((i + 1 : ℕ) : ℤ) * dayLength < stop then
            nightShare startHour endHour start stop (cursor / dayLength + ((i + 1 : ℕ) : ℤ)) / 1000000
          else 0 := by
        have hcursors : cursor + dayLength + i * dayLength =
            cursor + ((i + 1 : ℕ) : ℤ) * dayLength := by
          push_cast
          ring
        have hdates : (cursor + dayLength) / dayLength + i =
            cursor / dayLength + ((i + 1 : ℕ) : ℤ) := by
          rw [hnext]
          push_cast
          ring
        rw [hcursors, hdates]
      simp only [hrest, Nat.cast_zero, zero_mul, add_zero, if_pos hcursor]
      ring
    · -- the cursor only grows
      have hover (i : ℕ) : ¬ cursor + ((i + 1 : ℕ) : ℤ) * dayLength < stop := by
        unfold dayLength
        push_cast
        omega
      rw [nightLoop, if_neg hcursor]
      simp only [if_neg (hover _), Finset.sum_const_zero, Nat.cast_zero, zero_mul, add_zero,
        if_neg hcursor]

/-- **The night seconds** are those of the days that the loop comes to, each in whole seconds. -/
theorem nightOverlapSeconds_eq_sum (hne : startHour ≠ endHour) (tz : ℤ → ℤ)
    {entryAt durationSeconds : ℤ} (hpos : 0 < durationSeconds) (hstart : tz entryAt = start)
    (hstop : start + durationSeconds * 1000000 = stop) :
    nightOverlapSeconds tz entryAt durationSeconds startHour endHour =
      ∑ i ∈ Finset.range nightMaxDays,
        if start - start % hourMicros - dayLength + i * dayLength < stop then
          nightShare startHour endHour start stop (start / dayLength - 1 + i) / 1000000 else 0 := by
  have hfirst : (start - start % hourMicros - dayLength) / dayLength = start / dayLength - 1 := by
    unfold dayLength hourMicros
    omega
  rw [nightOverlapSeconds, if_neg (by omega)]
  dsimp only
  rw [hstart, hstop]
  have hsum := @nightLoop_eq_sum startHour endHour start stop hne nightMaxDays
    (start - start % hourMicros - dayLength) 0
  rw [zero_add, hfirst] at hsum
  exact hsum

/-! ## All nights of a stay -/

/-- A stay of at most 3650 days has no part of a night before the eve of its entry, or after the
days that the loop has fuel for. -/
theorem inter_night_empty (h : NightHours startHour endHour)
    (hstop : stop ≤ start + 3650 * dayLength) {date : ℤ}
    (hdate : date < start / dayLength - 1 ∨ start / dayLength - 1 + 3660 ≤ date) :
    Finset.Ico start stop ∩ night startHour endHour date = ∅ := by
  rw [Finset.eq_empty_iff_forall_notMem]
  intro t ht
  obtain ⟨h₁, h₂, h₃, h₄, -⟩ := h
  simp only [Finset.mem_inter, Finset.mem_Ico, night, dayLength, hourMicros] at ht hdate hstop
  split at ht <;> omega

/-- The nights of a stay are those that the loop may come to. -/
theorem ncard_inNights (h : NightHours startHour endHour)
    (hstop : stop ≤ start + 3650 * dayLength) :
    ((inNights startHour endHour start stop).ncard : ℤ) =
      ∑ i ∈ Finset.range nightMaxDays,
        nightShare startHour endHour start stop (start / dayLength - 1 + i) := by
  classical
  have hset : inNights startHour endHour start stop =
      ((Finset.Ico start stop).filter fun t => ∃ date, t ∈ night startHour endHour date :
        Finset ℤ) := by
    ext t
    simp [inNights]
  generalize hfirst : start / dayLength - 1 = first
  have hdisjoint : ((Finset.Ico first (first + 3660) : Finset ℤ) : Set ℤ).PairwiseDisjoint
      (night startHour endHour) := by
    intro date _ date' _ hne
    rcases lt_or_gt_of_ne hne with hlt | hlt
    · exact disjoint_night h hlt
    · exact (disjoint_night h hlt).symm
  have hrest : ∀ date, date ∉ Finset.Ico first (first + 3660) →
      Finset.Ico start stop ∩ night startHour endHour date = ∅ := by
    intro date hdate
    rw [Finset.mem_Ico] at hdate
    exact inter_night_empty h hstop (by omega)
  have hlength : (first + 3660 - first).toNat = nightMaxDays := by
    rw [add_sub_cancel_left]
    rfl
  rw [hset, Set.ncard_coe_finset, card_filter_exists _ _ _ hdisjoint hrest,
    Int.Ico_eq_finset_map, Finset.sum_map, hlength, Nat.cast_sum]
  rfl

/-- Nothing is left out of a sum, and nothing is lost to rounding. -/
theorem counted_iff {n : ℕ} {share : ℕ → ℤ} (hshare : ∀ i, 0 ≤ share i) (seen : ℕ → Prop)
    [DecidablePred seen] :
    (∑ i ∈ Finset.range n, if seen i then share i / 1000000 else 0) * 1000000 =
        ∑ i ∈ Finset.range n, share i ↔
      ∀ i < n, (¬ seen i → share i = 0) ∧ (1000000 : ℤ) ∣ share i := by
  rw [Finset.sum_mul, Finset.sum_eq_sum_iff_of_le]
  · simp only [Finset.mem_range]
    refine forall₂_congr fun i _ => ?_
    by_cases hseen : seen i
    · simp only [hseen, if_true, not_true_eq_false, false_implies, true_and]
      omega
    · simp only [hseen, if_false, not_false_eq_true, true_implies, zero_mul]
      omega
  · intro i _
    have hpos := hshare i
    split <;> omega

/-! ## The last day -/

/-- The exit comes after the start of its day's night, and not after the hour of the entry: the
cursor of that day is not before the exit. -/
def missesLastNight (startHour start stop : ℤ) : Prop :=
  startHour * hourMicros < stop % dayLength ∧
    stop % dayLength ≤ start % dayLength - start % hourMicros

instance : Decidable (missesLastNight startHour start stop) := inferInstanceAs (Decidable (_ ∧ _))

/-- A night that the loop does not come to, although the stay has a part of it. -/
theorem missesLastNight_iff (h : NightHours startHour endHour) (hlt : start < stop)
    (hstop : stop ≤ start + 3650 * dayLength) :
    missesLastNight startHour start stop ↔ ∃ i < nightMaxDays,
      ¬ start - start % hourMicros - dayLength + i * dayLength < stop ∧
        nightShare startHour endHour start stop (start / dayLength - 1 + i) ≠ 0 := by
  obtain ⟨h₁, h₂, h₃, h₄, hne⟩ := h
  unfold missesLastNight nightMaxDays
  simp only [nightShare_eq]
  constructor
  · rintro ⟨hafter, hbefore⟩
    refine ⟨(stop / dayLength - start / dayLength + 1).toNat, ?_⟩
    unfold dayLength hourMicros at *
    split <;> omega
  · rintro ⟨i, -, hcursor, hshare⟩
    unfold dayLength hourMicros at *
    split at hshare <;> omega

/-- The share of a night is whole seconds where the stay starts at one, or has both of its ends in
that night, or none. -/
theorem whole_nightShare_iff (hlt : start < stop) (hwhole : (stop - start) % 1000000 = 0)
    (date : ℤ) : (1000000 : ℤ) ∣ nightShare startHour endHour start stop date ↔
      start % 1000000 = 0 ∨
        (start ∈ night startHour endHour date ↔ stop ∈ night startHour endHour date) := by
  simp only [nightShare_eq, night, Finset.mem_Ico]
  unfold dayLength hourMicros
  split <;> omega

/-! ## What the tariff is charged for -/

/-- **The night hours of a stay are exact where the exit does not miss the last night**: for every
stay of at most 3650 days in a zone with a fixed offset. Where the local times are not whole
seconds, both ends have to lie in the same nights, as each night is counted in whole seconds. -/
theorem nightOverlap_iff (offset entryAt durationSeconds startHour endHour : ℤ)
    (hnonneg : 0 ≤ durationSeconds) (hmax : durationSeconds ≤ 3650 * 86400)
    (h : NightHours startHour endHour) :
    nightOverlapSeconds (· + offset) entryAt durationSeconds startHour endHour * 1000000 =
        (inNights startHour endHour (entryAt + offset)
          (entryAt + offset + durationSeconds * 1000000)).ncard ↔
      durationSeconds = 0 ∨
        (¬ missesLastNight startHour (entryAt + offset)
            (entryAt + offset + durationSeconds * 1000000) ∧
          ((entryAt + offset) % 1000000 = 0 ∨
            ∀ date, entryAt + offset ∈ night startHour endHour date ↔
              entryAt + offset + durationSeconds * 1000000 ∈ night startHour endHour date)) := by
  generalize hstart : entryAt + offset = start
  generalize hstop : start + durationSeconds * 1000000 = stop
  rcases eq_or_lt_of_le hnonneg with rfl | hpos
  · obtain rfl : stop = start := by omega
    simp [nightOverlapSeconds, inNights_self]
  have hlt : start < stop := by omega
  have hlength : stop ≤ start + 3650 * dayLength := by
    unfold dayLength
    omega
  have hloop := nightOverlapSeconds_eq_sum h.ne (· + offset) hpos hstart hstop
  rw [hloop, ncard_inNights h hlength, counted_iff fun _ => nightShare_nonneg _]
  have hseconds : (stop - start) % 1000000 = 0 := by omega
  constructor
  · intro hcounted
    refine .inr ⟨fun hmissed => ?_, or_iff_not_imp_left.2 fun hfraction date => ?_⟩
    · obtain ⟨i, hi, hcursor, hshare⟩ := (missesLastNight_iff h hlt hlength).1 hmissed
      exact hshare ((hcounted i hi).1 hcursor)
    · have hwhole : (1000000 : ℤ) ∣ nightShare startHour endHour start stop date := by
        by_cases hdate : date < start / dayLength - 1 ∨ start / dayLength - 1 + 3660 ≤ date
        · simp [nightShare, inter_night_empty h hlength hdate]
        · have hcounted := (hcounted (date - (start / dayLength - 1)).toNat
            (by unfold nightMaxDays; omega)).2
          have hsame : start / dayLength - 1 + ((date - (start / dayLength - 1)).toNat : ℤ) = date := by
            omega
          rwa [hsame] at hcounted
      exact ((whole_nightShare_iff hlt hseconds date).1 hwhole).resolve_left hfraction
  · rintro (hzero | ⟨hseen, hwhole⟩)
    · omega
    · intro i hi
      refine ⟨fun hcursor => ?_, ?_⟩
      · by_contra hshare
        exact hseen ((missesLastNight_iff h hlt hlength).2 ⟨i, hi, hcursor, hshare⟩)
      · exact (whole_nightShare_iff hlt hseconds _).2 (hwhole.imp_right fun hboth => hboth _)

/-- Ten hours from nine in the evening, in a zone three and a half hours ahead. -/
theorem nightOverlap_iff_evening :
    nightOverlapSeconds (· + 12600000000) 63000000000 36000 22 6 * 1000000 =
      (inNights 22 6 (63000000000 + 12600000000)
        (63000000000 + 12600000000 + 36000 * 1000000)).ncard :=
  (nightOverlap_iff 12600000000 63000000000 36000 22 6 (by decide) (by decide)
    ⟨by decide, by decide, by decide, by decide, by decide⟩).2 (.inr ⟨by decide, .inl rfl⟩)

/-- Nine hours from eight in the evening, with a night from two to six: nothing of it is counted,
as the cursor of the second day stands at eight in the evening. -/
theorem morning_night_missed :
    ¬ ∀ offset entryAt durationSeconds startHour endHour : ℤ, entryAt % 1000000 = 0 →
      0 ≤ durationSeconds → durationSeconds ≤ 3650 * 86400 → NightHours startHour endHour →
      nightOverlapSeconds (· + offset) entryAt durationSeconds startHour endHour * 1000000 =
        (inNights startHour endHour (entryAt + offset)
          (entryAt + offset + durationSeconds * 1000000)).ncard := by
  intro hexact
  have hcount := hexact 0 72000000000 32400 2 6 (by decide) (by decide) (by decide)
    ⟨by decide, by decide, by decide, by decide, by decide⟩
  have hnone : nightOverlapSeconds (· + 0) 72000000000 32400 2 6 = 0 := by decide +kernel
  have hfinite : (inNights 2 6 (72000000000 + 0) (72000000000 + 0 + 32400 * 1000000)).Finite :=
    (Finset.Ico (72000000000 + 0 : ℤ) (72000000000 + 0 + 32400 * 1000000)).finite_toSet.subset
      fun t ht => Finset.mem_coe.2 (Finset.mem_Ico.2 ht.1)
  rw [hnone, zero_mul, eq_comm, Int.natCast_eq_zero, Set.ncard_eq_zero hfinite] at hcount
  -- three in the morning
  have hthree : (97200000000 : ℤ) ∈ inNights 2 6 (72000000000 + 0)
      (72000000000 + 0 + 32400 * 1000000) := ⟨by decide, 1, by simp [night, dayLength, hourMicros]⟩
  rw [hcount] at hthree
  exact hthree

end ParkingSystem
