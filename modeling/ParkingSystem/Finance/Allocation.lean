import ParkingSystem.Finance.Tariff
import ParkingSystem.Library.Waterfall

/-!
# Allocating a Payment

`allocate_payment_amounts` pours a payment over the charges it is for, in their order. Charges that
owe nothing are passed over, and the loop stops when nothing is left.
-/

namespace ParkingSystem

open Waterfall

/-- What each charge gets, also where that is nothing. -/
def poured (cs : List Charge) (amount : ℤ) : List (Charge × ℤ) :=
  cs.zip (shares (cs.map chargeOutstanding) amount)

section

variable {cs : List Charge} {amount : ℤ}

theorem outstanding_nonneg (cs : List Charge) : ∀ x ∈ cs.map chargeOutstanding, 0 ≤ x := by
  intro x hx
  obtain ⟨c, -, rfl⟩ := List.mem_map.1 hx
  exact chargeOutstanding_nonneg c

theorem poured_cons (c : Charge) (cs : List Charge) (amount : ℤ) :
    poured (c :: cs) amount = (c, min (chargeOutstanding c) amount) ::
      poured cs (amount - min (chargeOutstanding c) amount) := rfl

/-- Of nothing, nobody gets anything. -/
theorem poured_zero (cs : List Charge) : (poured cs 0).filter (fun p => decide (0 < p.2)) = [] := by
  induction cs with
  | nil => rfl
  | cons c cs ih =>
    have hnone : min (chargeOutstanding c) 0 = 0 := min_eq_right (chargeOutstanding_nonneg c)
    rw [poured_cons, hnone, sub_zero, List.filter_cons_of_neg (by simp), ih]

/-- **The loop is a waterfall** over what the charges owe. -/
theorem allocate_eq_poured (h : 0 ≤ amount) : allocatePaymentAmounts cs amount =
    ((poured cs amount).filter fun p => decide (0 < p.2),
      amount - (shares (cs.map chargeOutstanding) amount).sum) := by
  induction cs generalizing amount with
  | nil => simp [allocatePaymentAmounts, poured]
  | cons c cs ih =>
    have howes := chargeOutstanding_nonneg c
    rw [allocatePaymentAmounts]
    dsimp only
    split
    · -- nothing is left
      obtain rfl : amount = 0 := by omega
      have hsum := sum_shares (outstanding_nonneg (c :: cs)) (le_refl 0)
      rw [min_eq_right (List.sum_nonneg (outstanding_nonneg (c :: cs)))] at hsum
      rw [poured_zero, hsum, sub_zero]
    · rename_i hleft
      split
      · -- the charge owes nothing
        have hnone : min (chargeOutstanding c) amount = 0 := by omega
        rw [ih h, poured_cons, hnone, sub_zero, List.filter_cons_of_neg (by simp), List.map_cons,
          shares_cons, hnone, sub_zero, List.sum_cons, zero_add]
      · have hpos : 0 < min (chargeOutstanding c) amount := by omega
        rw [min_comm amount, ih (by omega), poured_cons,
          List.filter_cons_of_pos (by simpa using hpos), List.map_cons, shares_cons, List.sum_cons,
          Int.sub_sub]

/-- In a list without repetitions, a charge gets what its turn gives it. -/
theorem mem_poured_iff {before after : List Charge} {c : Charge}
    (hnodup : (before ++ c :: after).Nodup) (x : ℤ) :
    (c, x) ∈ poured (before ++ c :: after) amount ↔
      x = min (chargeOutstanding c) (amount - (shares (before.map chargeOutstanding) amount).sum) := by
  have hc : c ∉ before ∧ c ∉ after := by
    have hparts := List.nodup_append.1 hnodup
    exact ⟨fun hmem => hparts.2.2 c hmem c List.mem_cons_self rfl, (List.nodup_cons.1 hparts.2.1).1⟩
  have hzip : poured (before ++ c :: after) amount = poured before amount ++
      poured (c :: after) (amount - (shares (before.map chargeOutstanding) amount).sum) := by
    rw [poured, List.map_append, shares_append, List.zip_append (by simp)]
    rfl
  rw [hzip, poured_cons, List.mem_append, List.mem_cons, Prod.mk.injEq]
  constructor
  · rintro (hmem | ⟨-, hx⟩ | hmem)
    · exact absurd (List.of_mem_zip hmem).1 hc.1
    · exact hx
    · exact absurd (List.of_mem_zip hmem).1 hc.2
  · exact fun hx => Or.inr (Or.inl ⟨rfl, hx⟩)

/-- A charge gets all it owes where the amount covers it and everything before. -/
theorem poured_full {before after : List Charge} {d : Charge}
    (hnodup : (before ++ d :: after).Nodup) (h : 0 ≤ amount)
    (hcovered : (before.map chargeOutstanding).sum + chargeOutstanding d ≤ amount) :
    (d, chargeOutstanding d) ∈ poured (before ++ d :: after) amount := by
  have hbefore := List.sum_nonneg (outstanding_nonneg before)
  have howes := chargeOutstanding_nonneg d
  rw [mem_poured_iff hnodup, sum_shares (outstanding_nonneg before) h]
  omega

/-- What the charges get adds up to the amount, with what is left. -/
theorem allocate_conserves (cs : List Charge) (amount : ℤ) :
    ((allocatePaymentAmounts cs amount).1.map Prod.snd).sum + (allocatePaymentAmounts cs amount).2 =
      amount := by
  induction cs generalizing amount with
  | nil => simp [allocatePaymentAmounts]
  | cons c cs ih =>
    rw [allocatePaymentAmounts]
    dsimp only
    split
    · simp
    · split
      · exact ih amount
      · have hrest := ih (amount - min amount (chargeOutstanding c))
        rw [List.map_cons, List.sum_cons]
        omega

end

/-! ## Greed -/

/-- An allocation that conserves the amount, keeps to the order of the charges, and gives nothing
to a charge while an earlier one is not covered. -/
structure GreedyAllocation (cs : List Charge) (amount : ℤ) (allocs : List (Charge × ℤ))
    (remaining : ℤ) : Prop where
  conserved : (allocs.map Prod.snd).sum + remaining = amount
  bounded : ∀ p ∈ allocs, 0 < p.2 ∧ p.2 ≤ chargeOutstanding p.1
  ordered : List.Sublist (allocs.map Prod.fst) cs
  once : (allocs.map Prod.fst).Nodup
  priority : ∀ before c after, cs = before ++ c :: after → c ∈ allocs.map Prod.fst →
    ∀ d ∈ before, 0 < chargeOutstanding d → (d, chargeOutstanding d) ∈ allocs
  remaining_nonneg : 0 ≤ remaining
  exhausted : 0 < remaining → ∀ d ∈ cs, 0 < chargeOutstanding d → (d, chargeOutstanding d) ∈ allocs

variable {cs : List Charge} {amount : ℤ}

/-- Who gets something is given it in turn. -/
theorem mem_allocate_poured (h : 0 ≤ amount) {p : Charge × ℤ} :
    p ∈ (allocatePaymentAmounts cs amount).1 ↔ p ∈ poured cs amount ∧ 0 < p.2 := by
  rw [allocate_eq_poured h, List.mem_filter, decide_eq_true_iff]

/-- **Payments are allocated greedily**: for every list of distinct charges and every amount that
is not negative. -/
theorem allocate_greedy (cs : List Charge) (hnodup : cs.Nodup) (amount : ℤ) (h : 0 ≤ amount) :
    GreedyAllocation cs amount (allocatePaymentAmounts cs amount).1
      (allocatePaymentAmounts cs amount).2 where
  conserved := allocate_conserves cs amount
  bounded p hp := (allocate_bounds hp).2
  ordered := allocate_sublist cs amount
  once := hnodup.sublist (allocate_sublist cs amount)
  priority before c after hcs hc d hd hpos := by
    subst hcs
    obtain ⟨⟨_, x⟩, hmem, rfl⟩ := List.mem_map.1 hc
    obtain ⟨hpoured, hx⟩ := (mem_allocate_poured h).1 hmem
    -- the turn comes to `c` only when everything before is full
    rw [mem_poured_iff hnodup, sum_shares (outstanding_nonneg before) h] at hpoured
    obtain ⟨b₁, b₂, rfl⟩ := List.append_of_mem hd
    have hrest := List.sum_nonneg (outstanding_nonneg b₂)
    rw [List.map_append, List.map_cons, List.sum_append, List.sum_cons] at hpoured
    rw [List.append_assoc, List.cons_append] at hnodup ⊢
    refine (mem_allocate_poured h).2 ⟨poured_full hnodup h ?_, hpos⟩
    dsimp only at hx
    omega
  remaining_nonneg := by
    have hsum := sum_shares (outstanding_nonneg cs) h
    rw [allocate_eq_poured h]
    dsimp only
    omega
  exhausted hleft d hd hpos := by
    rw [allocate_eq_poured h] at hleft
    dsimp only at hleft
    rw [sum_shares (outstanding_nonneg cs) h] at hleft
    obtain ⟨b₁, b₂, rfl⟩ := List.append_of_mem hd
    have hrest := List.sum_nonneg (outstanding_nonneg b₂)
    rw [List.map_append, List.map_cons, List.sum_append, List.sum_cons] at hleft
    exact (mem_allocate_poured h).2 ⟨poured_full hnodup h (by omega), hpos⟩

/-- A charge of an amount, of which something is paid. -/
def chargeOf (id : ℕ) (amount paidAmount : ℤ) : Charge := { id, amount, paidAmount, createdAt := 0 }

theorem allocate_greedy_partly :
    GreedyAllocation [chargeOf 1 100 120, chargeOf 2 100 40, chargeOf 3 50 0] 80
      [(chargeOf 2 100 40, 60), (chargeOf 3 50 0, 20)] 0 :=
  allocate_greedy [chargeOf 1 100 120, chargeOf 2 100 40, chargeOf 3 50 0] (by decide) 80
    (by decide)

end ParkingSystem
