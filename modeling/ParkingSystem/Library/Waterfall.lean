import Mathlib.Algebra.Order.BigOperators.Group.List
import Mathlib.Algebra.Ring.Int.Defs

/-!
# Waterfalls

An amount that is poured over a list of capacities: each one takes what it holds before the next
one gets anything. `shares` says what each of them takes. Where no capacity is negative nothing is
lost: what is taken adds up to the amount, or to all capacities.
-/

namespace Waterfall

/-- What each of the capacities takes of an amount. -/
def shares : List ℤ → ℤ → List ℤ
  | [], _ => []
  | c :: cs, amount => min c amount :: shares cs (amount - min c amount)

@[simp] theorem shares_nil (amount : ℤ) : shares [] amount = [] := rfl

@[simp] theorem shares_cons (c : ℤ) (cs : List ℤ) (amount : ℤ) :
    shares (c :: cs) amount = min c amount :: shares cs (amount - min c amount) := rfl

@[simp] theorem length_shares (cs : List ℤ) (amount : ℤ) :
    (shares cs amount).length = cs.length := by
  induction cs generalizing amount with
  | nil => rfl
  | cons c cs ih => simp [ih]

/-- What is poured over two lists is first poured over the first one. -/
theorem shares_append (cs ds : List ℤ) (amount : ℤ) :
    shares (cs ++ ds) amount =
      shares cs amount ++ shares ds (amount - (shares cs amount).sum) := by
  induction cs generalizing amount with
  | nil => simp
  | cons c cs ih => simp [ih, Int.sub_sub]

section

variable {cs : List ℤ} {amount : ℤ}

/-- **Nothing is lost.** -/
theorem sum_shares (hcs : ∀ c ∈ cs, 0 ≤ c) (h : 0 ≤ amount) :
    (shares cs amount).sum = min cs.sum amount := by
  induction cs generalizing amount with
  | nil => simp [h]
  | cons c cs ih =>
    rw [List.forall_mem_cons] at hcs
    have hrest : 0 ≤ cs.sum := List.sum_nonneg hcs.2
    rw [shares_cons, List.sum_cons, List.sum_cons,
      ih hcs.2 (Int.sub_nonneg_of_le (min_le_right c amount))]
    omega

end

end Waterfall
