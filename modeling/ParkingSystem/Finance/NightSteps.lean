import ParkingSystem.Finance.Night

/-!
# One Second Longer

How the night seconds of a stay grow when the stay is one second longer: by one at most, except
where the loop comes to a night that has begun already. The loop walks with the hour of the entry,
so it comes to the night of a later date at that hour; where the night starts before it, its first
hours are taken in late, all at once.
-/

namespace ParkingSystem

/-! ## Nights by date -/

/-- An entry at some hour of its date and some time into the hour, and the hours of the night. -/
structure EntryTime (startHour endHour hour offset : ℤ) : Prop where
  night : NightHours startHour endHour
  hour_nonneg : 0 ≤ hour
  hour_le : hour ≤ 23
  offset_nonneg : 0 ≤ offset
  offset_lt : offset < hourMicros

/-- The seconds the loop counts for its `i`-th night, of which the first is the night before the
date of the entry; times are relative to the start of that date. -/
def nightSecondsOf (startHour endHour hour offset b i : ℤ) : ℤ :=
  if (i - 1) * dayLength < offset + b * 1000000 then
    max 0 (min (hour * hourMicros + offset + b * 1000000)
        ((if startHour < endHour then i - 1 else i) * dayLength + endHour * hourMicros) -
      max (hour * hourMicros + offset) ((i - 1) * dayLength + startHour * hourMicros)) / 1000000
  else 0

/-- The night seconds of a stay of `b` seconds. -/
def nightSum (startHour endHour hour offset b : ℤ) : ℤ :=
  ∑ i ∈ Finset.range nightMaxDays, nightSecondsOf startHour endHour hour offset b i

/-- The loop counts them. -/
theorem nightOverlapSeconds_eq_nightSum {tz : ℤ → ℤ} {entryAt startHour endHour b : ℤ}
    (hne : startHour ≠ endHour) (hb : 0 < b) :
    nightOverlapSeconds tz entryAt b startHour endHour =
      nightSum startHour endHour (tz entryAt % dayLength / hourMicros) (tz entryAt % hourMicros) b := by
  rw [nightOverlapSeconds_eq_sum hne tz hb rfl rfl]
  refine Finset.sum_congr rfl fun i _ => ?_
  generalize tz entryAt = start
  rw [nightShare_eq, nightSecondsOf]
  unfold dayLength hourMicros
  congr 1
  · rw [eq_iff_iff]
    constructor <;> intro h <;> omega
  · congr 2
    split <;> omega

/-! ## A night that is taken in late -/

/-- The night of a later date has begun when the loop comes to it, and a stay of `b` seconds is the
longest for which the loop does not. -/
def TakenLate (startHour hour offset b i : ℤ) : Prop :=
  2 ≤ i ∧ startHour < hour ∧ offset + b * 1000000 ≤ (i - 1) * dayLength ∧
    (i - 1) * dayLength < offset + (b + 1) * 1000000

section

variable {startHour endHour hour offset b i j : ℤ}

/-- **A night in time** grows by a second at most. -/
theorem nightSecondsOf_step (h : EntryTime startHour endHour hour offset) (hb : 0 ≤ b)
    (hlate : ¬ TakenLate startHour hour offset b i) :
    nightSecondsOf startHour endHour hour offset b i ≤
        nightSecondsOf startHour endHour hour offset (b + 1) i ∧
      nightSecondsOf startHour endHour hour offset (b + 1) i ≤
        nightSecondsOf startHour endHour hour offset b i + 1 := by
  obtain ⟨⟨h₁, h₂, h₃, h₄, h₅⟩, h₆, h₇, h₈, h₉⟩ := h
  unfold TakenLate at hlate
  unfold nightSecondsOf
  unfold dayLength hourMicros at *
  by_cases hsame : startHour < endHour
  · simp only [if_pos hsame]
    split <;> split <;> omega
  · simp only [if_neg hsame]
    split <;> split <;> omega

/-- A night in time that grows is the night of the exit. -/
theorem exit_of_changed (h : EntryTime startHour endHour hour offset) (hb : 0 ≤ b)
    (hlate : ¬ TakenLate startHour hour offset b i)
    (hchanged : nightSecondsOf startHour endHour hour offset b i ≠
      nightSecondsOf startHour endHour hour offset (b + 1) i) :
    (i - 1) * dayLength + startHour * hourMicros ≤ hour * hourMicros + offset + b * 1000000 ∧
      hour * hourMicros + offset + b * 1000000 <
        (if startHour < endHour then i - 1 else i) * dayLength + endHour * hourMicros := by
  obtain ⟨⟨h₁, h₂, h₃, h₄, h₅⟩, h₆, h₇, h₈, h₉⟩ := h
  unfold TakenLate at hlate
  unfold nightSecondsOf at hchanged
  unfold dayLength hourMicros at *
  by_cases hsame : startHour < endHour
  · simp only [if_pos hsame] at hchanged ⊢
    split at hchanged <;> split at hchanged <;> omega
  · simp only [if_neg hsame] at hchanged ⊢
    split at hchanged <;> split at hchanged <;> omega

/-- The hours of a night. -/
def nightLength (startHour endHour : ℤ) : ℤ := (endHour - startHour) % 24

/-- The seconds that are taken in late: the hours from the start of the night to the hour of the
entry, with the second that has just passed where it is whole; all of the night where it is over
at that hour. -/
def lateSeconds (startHour endHour hour offset : ℤ) : ℤ :=
  if hour - startHour < nightLength startHour endHour then
    (hour - startHour) * 3600 + if offset % 1000000 = 0 then 1 else 0
  else nightLength startHour endHour * 3600

/-- **A night taken in late** has nothing before, and all of these seconds after. -/
theorem nightSecondsOf_late (h : EntryTime startHour endHour hour offset)
    (hlate : TakenLate startHour hour offset b j) :
    nightSecondsOf startHour endHour hour offset b j = 0 ∧
      nightSecondsOf startHour endHour hour offset (b + 1) j =
        lateSeconds startHour endHour hour offset := by
  obtain ⟨⟨h₁, h₂, h₃, h₄, h₅⟩, h₆, h₇, h₈, h₉⟩ := h
  unfold TakenLate at hlate
  unfold nightSecondsOf lateSeconds nightLength
  unfold dayLength hourMicros at *
  constructor
  · rw [if_neg (by omega)]
  · rw [if_pos (by omega)]
    by_cases hsame : startHour < endHour
    · simp only [if_pos hsame]
      split <;> (try split) <;> omega
    · simp only [if_neg hsame]
      split <;> (try split) <;> omega

/-- Meanwhile the other nights are over, or have not begun. -/
theorem nightSecondsOf_other (h : EntryTime startHour endHour hour offset)
    (hlate : TakenLate startHour hour offset b j) (hother : i ≠ j) :
    nightSecondsOf startHour endHour hour offset b i =
      nightSecondsOf startHour endHour hour offset (b + 1) i := by
  obtain ⟨⟨h₁, h₂, h₃, h₄, h₅⟩, h₆, h₇, h₈, h₉⟩ := h
  unfold TakenLate at hlate
  unfold nightSecondsOf
  unfold dayLength hourMicros at *
  by_cases hsame : startHour < endHour
  · simp only [if_pos hsame]
    split <;> split <;> omega
  · simp only [if_neg hsame]
    split <;> split <;> omega

/-- The seconds that are missing from the hour of the entry, rounded up. -/
def startedSeconds (offset : ℤ) : ℤ := (offset + 999999) / 1000000

/-- The nights that are over have whole hours each, but for the night of an entry inside it. -/
theorem dvd_nightSecondsOf (h : EntryTime startHour endHour hour offset)
    (hlate : TakenLate startHour hour offset b j) (hi : 0 ≤ i) :
    (3600 : ℤ) ∣ nightSecondsOf startHour endHour hour offset b i +
      if i = 1 ∧ hour - startHour < nightLength startHour endHour then startedSeconds offset
      else 0 := by
  obtain ⟨⟨h₁, h₂, h₃, h₄, h₅⟩, h₆, h₇, h₈, h₉⟩ := h
  unfold TakenLate at hlate
  unfold nightSecondsOf startedSeconds nightLength
  unfold dayLength hourMicros at *
  by_cases hsame : startHour < endHour
  · simp only [if_pos hsame]
    split <;> split <;> omega
  · simp only [if_neg hsame]
    split <;> split <;> omega

end

/-! ## All nights -/

/-- A sum of which one term changes. -/
theorem sum_of_one_changed {n k : ℕ} {f g : ℕ → ℤ} (hk : k < n)
    (hsame : ∀ i < n, i ≠ k → f i = g i) :
    ∑ i ∈ Finset.range n, g i = ∑ i ∈ Finset.range n, f i + (g k - f k) := by
  have hterms (i : ℕ) (hi : i ∈ Finset.range n) : g i = f i + if i = k then g k - f k else 0 := by
    split
    · rename_i heq
      rw [heq]
      ring
    · rename_i hne
      rw [hsame i (Finset.mem_range.1 hi) hne, add_zero]
  rw [Finset.sum_congr rfl hterms, Finset.sum_add_distrib, Finset.sum_ite_eq' ,
    if_pos (Finset.mem_range.2 hk)]

section

variable {startHour endHour hour offset b : ℤ}

theorem nightSum_nonneg : 0 ≤ nightSum startHour endHour hour offset b := by
  refine Finset.sum_nonneg fun i _ => ?_
  unfold nightSecondsOf
  split
  · exact Int.ediv_nonneg (le_max_left _ _) (by decide)
  · exact le_rfl

/-- **Where no night is taken in late**, the night seconds grow by one at most. -/
theorem nightSum_step (h : EntryTime startHour endHour hour offset) (hb : 0 ≤ b)
    (hlate : ∀ i < nightMaxDays, ¬ TakenLate startHour hour offset b i) :
    nightSum startHour endHour hour offset b ≤ nightSum startHour endHour hour offset (b + 1) ∧
      nightSum startHour endHour hour offset (b + 1) ≤
        nightSum startHour endHour hour offset b + 1 := by
  unfold nightSum
  by_cases hchanged : ∃ k < nightMaxDays, nightSecondsOf startHour endHour hour offset b (k : ℕ) ≠
      nightSecondsOf startHour endHour hour offset (b + 1) k
  · obtain ⟨k, hk, hne⟩ := hchanged
    have hexit := exit_of_changed h hb (hlate k hk) hne
    -- the exit is in one night only
    have hsame (i : ℕ) (hi : i < nightMaxDays) (hik : i ≠ k) :
        nightSecondsOf startHour endHour hour offset b i =
          nightSecondsOf startHour endHour hour offset (b + 1) i := by
      by_contra hne'
      have hexit' := exit_of_changed h hb (hlate i hi) hne'
      obtain ⟨⟨h₁, h₂, h₃, h₄, h₅⟩, h₆, h₇, h₈, h₉⟩ := h
      unfold dayLength hourMicros at *
      split at hexit <;> omega
    have hstep := nightSecondsOf_step h hb (hlate k hk)
    rw [sum_of_one_changed hk hsame]
    omega
  · have hsame (i : ℕ) (hi : i ∈ Finset.range nightMaxDays) :
        nightSecondsOf startHour endHour hour offset (b + 1) i =
          nightSecondsOf startHour endHour hour offset b i := by
      by_contra hne
      exact hchanged ⟨i, Finset.mem_range.1 hi, fun heq => hne heq.symm⟩
    rw [Finset.sum_congr rfl hsame]
    omega

/-- **Where a night is taken in late**, they grow by what is late of it. -/
theorem nightSum_late (h : EntryTime startHour endHour hour offset) {k : ℕ} (hk : k < nightMaxDays)
    (hlate : TakenLate startHour hour offset b k) :
    nightSum startHour endHour hour offset (b + 1) =
      nightSum startHour endHour hour offset b + lateSeconds startHour endHour hour offset := by
  unfold nightSum
  rw [sum_of_one_changed hk fun i _ hik =>
    nightSecondsOf_other h hlate fun heq => hik (Int.ofNat_inj.1 heq)]
  obtain ⟨hbefore, hafter⟩ := nightSecondsOf_late h hlate
  rw [hbefore, hafter, sub_zero]

/-- At that time the night seconds are whole hours, but for the hour of an entry inside its
night. -/
theorem dvd_nightSum (h : EntryTime startHour endHour hour offset) {k : ℕ}
    (hlate : TakenLate startHour hour offset b k) :
    (3600 : ℤ) ∣ nightSum startHour endHour hour offset b +
      if hour - startHour < nightLength startHour endHour then startedSeconds offset else 0 := by
  have hentry : ∑ i ∈ Finset.range nightMaxDays, (if (i : ℤ) = 1 ∧
      hour - startHour < nightLength startHour endHour then startedSeconds offset else 0) =
      if hour - startHour < nightLength startHour endHour then startedSeconds offset else 0 := by
    refine (Finset.sum_eq_single_of_mem 1 (Finset.mem_range.2 (by decide)) fun i _ hi => ?_).trans ?_
    · exact if_neg fun hone => hi (by omega)
    · simp
  rw [← hentry, nightSum, ← Finset.sum_add_distrib]
  exact Finset.dvd_sum fun i _ => dvd_nightSecondsOf h hlate (Int.natCast_nonneg i)

end

end ParkingSystem
