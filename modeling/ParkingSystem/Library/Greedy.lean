import Mathlib.Data.List.Nodup
import Mathlib.Data.List.Induction
import Mathlib.Algebra.Order.Ring.Rat

/-!
# Greedy Matching

Each of a list in turn picks one of the rows that nobody before it has taken. What comes out is a
matching that cannot be extended: who goes without has all that would do taken by others.
-/

namespace Greedy

variable {α β ι : Type}

/-- The pairs, in the order in which they were made. `pick a taken` is what `a` takes when the rows
with the identifiers `taken` are gone. -/
def assign (pick : α → List ι → Option β) (id : β → ι) (as : List α) : List (α × β) :=
  as.foldl (fun pairs a => match pick a (pairs.map fun p => id p.2) with
    | some b => pairs ++ [(a, b)]
    | none => pairs) []

/-- A choice among the rows that are left, of one that will do. -/
structure Picks (pick : α → List ι → Option β) (id : β → ι) (rows : List β)
    (near : α → β → Prop) : Prop where
  some : ∀ a taken b, pick a taken = some b → b ∈ rows ∧ near a b ∧ id b ∉ taken
  none : ∀ a taken, pick a taken = none → ∀ b ∈ rows, near a b → id b ∈ taken

/-- A matching that cannot be extended. -/
structure Maximal (id : β → ι) (rows : List β) (near : α → β → Prop) (as : List α)
    (pairs : List (α × β)) : Prop where
  order : (pairs.map Prod.fst).Sublist as
  distinct : (pairs.map fun p => id p.2).Nodup
  sound : ∀ p ∈ pairs, p.2 ∈ rows ∧ near p.1 p.2
  full : ∀ a ∈ as, a ∉ pairs.map Prod.fst → ∀ b ∈ rows, near a b → ∃ p ∈ pairs, id p.2 = id b

/-- **Greedy matchings are maximal.** -/
theorem maximal_assign {pick : α → List ι → Option β} {id : β → ι} {rows : List β}
    {near : α → β → Prop} (h : Picks pick id rows near) (as : List α) :
    Maximal id rows near as (assign pick id as) := by
  induction as using List.reverseRecOn with
  | nil => exact ⟨List.Sublist.refl [], List.nodup_nil, by simp [assign], by simp⟩
  | append_singleton as a ih =>
    have hstep : assign pick id (as ++ [a]) =
        match pick a ((assign pick id as).map fun p => id p.2) with
        | some b => assign pick id as ++ [(a, b)]
        | none => assign pick id as := List.foldl_append
    rw [hstep]
    cases hpick : pick a ((assign pick id as).map fun p => id p.2) with
    | some b =>
      obtain ⟨hb, hnear, hfree⟩ := h.some a _ b hpick
      refine ⟨?_, ?_, ?_, ?_⟩
      · rw [List.map_append, List.map_singleton]
        exact ih.order.append (List.Sublist.refl [a])
      · rw [List.map_append, List.map_singleton, List.nodup_append]
        refine ⟨ih.distinct, List.nodup_singleton _, ?_⟩
        rintro i hi j hj rfl
        rw [List.mem_singleton.1 hj] at hi
        exact hfree hi
      · intro p hp
        rcases List.mem_append.1 hp with hp | hp
        · exact ih.sound p hp
        · rw [List.mem_singleton.1 hp]
          exact ⟨hb, hnear⟩
      · intro c hc hout d hd hcd
        rw [List.map_append, List.mem_append, not_or] at hout
        rcases List.mem_append.1 hc with hc | hc
        · obtain ⟨p, hp, heq⟩ := ih.full c hc hout.1 d hd hcd
          exact ⟨p, List.mem_append_left _ hp, heq⟩
        · exact absurd hc hout.2
    | none =>
      refine ⟨ih.order.trans (List.sublist_append_left as [a]), ih.distinct, ih.sound, ?_⟩
      intro c hc hout d hd hcd
      rcases List.mem_append.1 hc with hc | hc
      · exact ih.full c hc hout d hd hcd
      · -- the one that found nothing: what would do is taken
        rw [List.mem_singleton.1 hc] at hcd
        obtain ⟨p, hp, heq⟩ := List.mem_map.1 (h.none a _ hpick d hd hcd)
        exact ⟨p, hp, heq⟩

/-! ## The nearest -/

/-- Go through the rows and keep the nearest within the bound, of those that are not gone; the
last one of those that are equally near. -/
def nearest (dist : β → Option ℚ) (gone : β → Bool) (bound : ℚ) (rows : List β) : Option β × ℚ :=
  rows.foldl (fun best b => match dist b with
    | some d => if !gone b && decide (d ≤ best.2) then (some b, d) else best
    | none => best) (none, bound)

/-- **The nearest row** is one that is left, and no row that is left is nearer; there is one when
a row that is left is within the bound. -/
theorem nearest_spec (dist : β → Option ℚ) (gone : β → Bool) (bound : ℚ) (rows : List β) :
    (nearest dist gone bound rows).2 ≤ bound ∧
    ((nearest dist gone bound rows).1 = none → (nearest dist gone bound rows).2 = bound) ∧
    (∀ b, (nearest dist gone bound rows).1 = some b → b ∈ rows ∧ gone b = false ∧
      dist b = some (nearest dist gone bound rows).2) ∧
    (∀ b ∈ rows, gone b = false → ∀ d, dist b = some d → d ≤ bound →
      (nearest dist gone bound rows).1 ≠ none ∧ (nearest dist gone bound rows).2 ≤ d) := by
  induction rows using List.reverseRecOn with
  | nil => exact ⟨le_rfl, fun _ => rfl, by simp [nearest], by simp⟩
  | append_singleton rows b ih =>
    have hstep : nearest dist gone bound (rows ++ [b]) = match dist b with
        | some d => if !gone b && decide (d ≤ (nearest dist gone bound rows).2) then (some b, d)
          else nearest dist gone bound rows
        | none => nearest dist gone bound rows := List.foldl_append
    rw [hstep]
    obtain ⟨hbound, hnone, hsome, hall⟩ := ih
    have hold (c : β) (hc : (nearest dist gone bound rows).1 = some c) : c ∈ rows ++ [b] ∧
        gone c = false ∧ dist c = some (nearest dist gone bound rows).2 :=
      ⟨List.mem_append_left _ (hsome c hc).1, (hsome c hc).2⟩
    cases hdist : dist b with
    | none =>
      refine ⟨hbound, hnone, hold, fun c hc hfree d hd hle => ?_⟩
      rcases List.mem_append.1 hc with hc | hc
      · exact hall c hc hfree d hd hle
      · rw [List.mem_singleton.1 hc, hdist] at hd
        cases hd
    | some d =>
      dsimp only
      by_cases htake : gone b = false ∧ d ≤ (nearest dist gone bound rows).2
      · rw [if_pos (by simpa using htake)]
        refine ⟨htake.2.trans hbound, fun h => absurd h (Option.some_ne_none b), fun c hc => ?_,
          fun c hc hfree d' hd' hle => ?_⟩
        · rw [← Option.some.inj hc]
          exact ⟨List.mem_append_right _ List.mem_cons_self, htake.1, hdist⟩
        · refine ⟨Option.some_ne_none b, ?_⟩
          rcases List.mem_append.1 hc with hc | hc
          · exact htake.2.trans (hall c hc hfree d' hd' hle).2
          · rw [List.mem_singleton.1 hc, hdist] at hd'
            exact (Option.some.inj hd').le
      · rw [if_neg (by simpa using htake)]
        refine ⟨hbound, hnone, hold, fun c hc hfree d' hd' hle => ?_⟩
        rcases List.mem_append.1 hc with hc | hc
        · exact hall c hc hfree d' hd' hle
        · -- the row that was passed over is farther than the best, so there is one
          rw [List.mem_singleton.1 hc] at hfree hd'
          rw [hdist] at hd'
          obtain rfl := Option.some.inj hd'
          have hfar : (nearest dist gone bound rows).2 < d :=
            not_le.1 fun h => htake ⟨hfree, h⟩
          refine ⟨fun hempty => ?_, hfar.le⟩
          rw [hnone hempty] at hfar
          exact absurd hle (not_le.2 hfar)

end Greedy
