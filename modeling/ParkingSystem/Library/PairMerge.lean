import Mathlib.Data.List.Basic
import Mathlib.Data.List.Pairwise
import Mathlib.Order.Defs.PartialOrder

/-!
# Merging Pairs

A loop looks through a list for the first pair that is to be merged, puts the merged element in
the place of the first of the two, takes the second out, and starts again, until no pair is left.

- `mergeRun` is the loop with a bound on its rounds; `mergeRun_eq` gives the bound that is enough;
- `Mergeless` is what the loop stops at;
- where merging only makes elements larger, no element of the input is lost (`Covers`).
-/

namespace PairMerge

section Loop

variable {α : Type*} (touch : α → α → Bool) (join : α → α → α)

/-! ## One round -/

/-- The inner loop: the first element that `a` is merged with, and what is left of the list. -/
def absorb (a : α) : List α → Option (α × List α)
  | [] => none
  | b :: rest =>
    if touch a b then some (join a b, rest)
    else (absorb a rest).map fun r => (r.1, b :: r.2)

/-- The outer loop: the list after its first merge, `none` where there is nothing to merge. -/
def mergeOnce : List α → Option (List α)
  | [] => none
  | a :: rest =>
    match absorb touch join a rest with
    | some (u, left) => some (u :: left)
    | none => (mergeOnce rest).map (a :: ·)

/-- The loop, for at most so many rounds: `none` where they were not enough. -/
def mergeRun : ℕ → List α → Option (List α)
  | 0, _ => none
  | fuel + 1, l =>
    match mergeOnce touch join l with
    | none => some l
    | some l' => mergeRun fuel l'

/-- No two elements of the list are to be merged. -/
def Mergeless (l : List α) : Prop := l.Pairwise fun a b => touch a b = false

variable {touch join}

/-- What the inner loop finds: one element is gone, and it was to be merged with `a`. -/
theorem absorb_some {a u : α} {l left : List α} (h : absorb touch join a l = some (u, left)) :
    ∃ b before after, l = before ++ b :: after ∧ left = before ++ after ∧
      touch a b = true ∧ u = join a b := by
  induction l generalizing left with
  | nil => cases h
  | cons b rest ih =>
    rw [absorb] at h
    split at h
    next htouch =>
      cases h
      exact ⟨b, [], rest, rfl, rfl, htouch, rfl⟩
    next =>
      obtain ⟨⟨u', left'⟩, hr, heq⟩ := Option.map_eq_some_iff.1 h
      cases heq
      obtain ⟨c, before, after, rfl, rfl, htouch, hu⟩ := ih hr
      exact ⟨c, b :: before, after, rfl, rfl, htouch, hu⟩

/-- The inner loop finds nothing exactly when there is nothing to find. -/
theorem absorb_eq_none {a : α} {l : List α} :
    absorb touch join a l = none ↔ ∀ b ∈ l, touch a b = false := by
  induction l with
  | nil => simp [absorb]
  | cons b rest ih =>
    rw [absorb]
    cases htouch : touch a b with
    | true => simp [htouch]
    | false => simp [htouch, ih]

/-- **One round**: two elements that were to be merged are replaced by what they merge to. -/
theorem mergeOnce_some {l l' : List α} (h : mergeOnce touch join l = some l') :
    ∃ front a b before after, l = front ++ a :: (before ++ b :: after) ∧
      l' = front ++ join a b :: (before ++ after) ∧ touch a b = true := by
  induction l generalizing l' with
  | nil => cases h
  | cons a rest ih =>
    rw [mergeOnce] at h
    split at h
    next u left habs =>
      cases h
      obtain ⟨b, before, after, rfl, rfl, htouch, rfl⟩ := absorb_some habs
      exact ⟨[], a, b, before, after, rfl, rfl, htouch⟩
    next =>
      obtain ⟨l₁, hrest, rfl⟩ := Option.map_eq_some_iff.1 h
      obtain ⟨front, x, b, before, after, rfl, rfl, htouch⟩ := ih hrest
      exact ⟨a :: front, x, b, before, after, rfl, rfl, htouch⟩

/-- **Where the loop stops** there is no pair left, and it stops nowhere else. -/
theorem mergeOnce_eq_none {l : List α} :
    mergeOnce touch join l = none ↔ Mergeless touch l := by
  induction l with
  | nil => simp [mergeOnce, Mergeless]
  | cons a rest ih =>
    rw [mergeOnce, Mergeless, List.pairwise_cons, ← Mergeless, ← ih,
      ← @absorb_eq_none _ _ join]
    split
    next u left habs => simp [habs]
    next hnone => simp [hnone]

theorem length_mergeOnce {l l' : List α} (h : mergeOnce touch join l = some l') :
    l.length = l'.length + 1 := by
  obtain ⟨front, a, b, before, after, rfl, rfl, -⟩ := mergeOnce_some h
  simp only [List.length_append, List.length_cons]
  omega

/-! ## All rounds -/

/-- Each round takes an element out, so that as many rounds as there are elements, and one to
find nothing, are always enough. -/
theorem mergeRun_isSome {fuel : ℕ} {l : List α} (hfuel : l.length < fuel) :
    ∃ out, mergeRun touch join fuel l = some out := by
  induction fuel generalizing l with
  | zero => omega
  | succ fuel ih =>
    rw [mergeRun]
    cases hl : mergeOnce touch join l with
    | none => exact ⟨l, rfl⟩
    | some l' =>
      have hlen := length_mergeOnce hl
      exact ih (by omega)

/-- **The run**: what each round keeps holds at its end, where no pair is left. -/
theorem mergeRun_spec {fuel : ℕ} {l out : List α} {P : List α → Prop} (h₀ : P l)
    (hstep : ∀ l₁ l₂, P l₁ → mergeOnce touch join l₁ = some l₂ → P l₂)
    (h : mergeRun touch join fuel l = some out) : P out ∧ Mergeless touch out := by
  induction fuel generalizing l with
  | zero => cases h
  | succ fuel ih =>
    rw [mergeRun] at h
    cases hl : mergeOnce touch join l with
    | none =>
      rw [hl] at h
      cases h
      exact ⟨h₀, mergeOnce_eq_none.1 hl⟩
    | some l' =>
      rw [hl] at h
      exact ih (hstep l l' h₀ hl) h

/-- The bound does not change the outcome. -/
theorem mergeRun_eq {fuel : ℕ} {l out : List α} (h : mergeRun touch join fuel l = some out)
    {n : ℕ} (hn : fuel ≤ n) : mergeRun touch join n l = some out := by
  induction fuel generalizing l n with
  | zero => cases h
  | succ fuel ih =>
    cases n with
    | zero => omega
    | succ n =>
      rw [mergeRun] at h ⊢
      cases hl : mergeOnce touch join l with
      | none =>
        rw [hl] at h
        exact h
      | some l' =>
        rw [hl] at h
        exact ih h (Nat.le_of_succ_le_succ hn)

end Loop

/-! ## Merging makes larger -/

section Order

variable {α : Type*} [Preorder α] {touch : α → α → Bool} {join : α → α → α}

/-- Every element of the first list is below one of the second. -/
def Covers (l out : List α) : Prop := ∀ a ∈ l, ∃ b ∈ out, a ≤ b

theorem Covers.refl (l : List α) : Covers l l := fun a ha => ⟨a, ha, le_rfl⟩

theorem Covers.trans {l₁ l₂ l₃ : List α} (h₁ : Covers l₁ l₂) (h₂ : Covers l₂ l₃) :
    Covers l₁ l₃ := by
  intro a ha
  obtain ⟨b, hb, hab⟩ := h₁ a ha
  obtain ⟨c, hc, hbc⟩ := h₂ b hb
  exact ⟨c, hc, le_trans hab hbc⟩

/-- A round covers what it merges: the two elements are below what they merge to, and the others
stay. -/
theorem covers_mergeOnce (hleft : ∀ a b, a ≤ join a b) (hright : ∀ a b, b ≤ join a b)
    {l l' : List α} (h : mergeOnce touch join l = some l') : Covers l l' := by
  obtain ⟨front, a, b, before, after, rfl, rfl, -⟩ := mergeOnce_some h
  intro x hx
  have hjoin : join a b ∈ front ++ join a b :: (before ++ after) := by simp
  simp only [List.mem_append, List.mem_cons] at hx
  rcases hx with hx | rfl | hx | rfl | hx
  · exact ⟨x, by simp [hx], le_rfl⟩
  · exact ⟨_, hjoin, hleft x b⟩
  · exact ⟨x, by simp [hx], le_rfl⟩
  · exact ⟨_, hjoin, hright a x⟩
  · exact ⟨x, by simp [hx], le_rfl⟩

/-- **The loop loses nothing**: it ends, at a list without a pair to merge that covers the one
it began with. -/
theorem mergeRun_covers (hleft : ∀ a b, a ≤ join a b) (hright : ∀ a b, b ≤ join a b)
    (l : List α) : ∃ out, mergeRun touch join (l.length + 1) l = some out ∧
      Mergeless touch out ∧ Covers l out := by
  obtain ⟨out, hrun⟩ := @mergeRun_isSome _ touch join _ _ (Nat.lt_succ_self l.length)
  -- what is kept: the list in hand covers the first one
  obtain ⟨hcovers, hless⟩ := mergeRun_spec (P := Covers l) (Covers.refl l)
    (fun _ _ h₁ hround => h₁.trans (covers_mergeOnce hleft hright hround)) hrun
  exact ⟨out, hrun, hless, hcovers⟩

end Order

end PairMerge
