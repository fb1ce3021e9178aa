import Mathlib.Algebra.BigOperators.Group.Finset.Basic
import Mathlib.Algebra.Order.BigOperators.Group.Finset
import Mathlib.Data.List.Sort

/-!
# Ranked Lists and Quotas

Rows are sorted by falling score, rows of equal score keep their order, and of each key no more
than `n` rows are kept. What is cut off behind them is decided by the *places* that the rows ahead
take: a key takes as many as it has rows, and no more than `n`.
-/

namespace ParkingSystem.Ranking

variable {α β κ : Type}

/-! ## The order -/

/-- Sort by falling score. -/
def byScore {R : Type} [LinearOrder R] (score : α → R) (rows : List α) : List α :=
  rows.insertionSort fun a b => score b ≤ score a

section

variable {R : Type} [LinearOrder R] {score : α → R}

theorem perm_byScore (rows : List α) : (byScore score rows).Perm rows :=
  List.perm_insertionSort _ rows

theorem mem_byScore {rows : List α} {a : α} : a ∈ byScore score rows ↔ a ∈ rows :=
  (perm_byScore rows).mem_iff

/-- `a` stands before `b`: its score is higher, or the same and it was there earlier. -/
def Ahead (score : α → R) (place : α → ℕ) (a b : α) : Prop :=
  score b < score a ∨ score b = score a ∧ place a < place b

instance (score : α → R) (place : α → ℕ) : DecidableRel (Ahead score place) := fun a b =>
  inferInstanceAs (Decidable (score b < score a ∨ score b = score a ∧ place a < place b))

theorem Ahead.asymm {place : α → ℕ} {a b : α} (h : Ahead score place a b) :
    ¬ Ahead score place b a := by
  rintro (hlt | ⟨heq, hplace⟩) <;> rcases h with hlt' | ⟨heq', hplace'⟩
  · exact lt_asymm hlt hlt'
  · exact hlt.ne heq'.symm
  · exact hlt'.ne heq.symm
  · exact lt_asymm hplace hplace'

/-- **Sorting is stable**: rows in the order of their places end in the order of `Ahead`. -/
theorem pairwise_ahead {place : α → ℕ} {rows : List α}
    (h : rows.Pairwise fun a b => place a < place b) :
    (byScore score rows).Pairwise (Ahead score place) := by
  induction rows with
  | nil => exact List.Pairwise.nil
  | cons a rows ih =>
    obtain ⟨hfirst, hrest⟩ := List.pairwise_cons.1 h
    -- all that is sorted already was there later than `a`
    have hlater : ∀ b ∈ byScore score rows, place a < place b :=
      fun b hb => hfirst b (mem_byScore.1 hb)
    have hsorted := ih hrest
    rw [byScore, List.insertionSort_cons, ← byScore]
    generalize byScore score rows = sorted at hlater hsorted
    induction sorted with
    | nil => exact List.pairwise_singleton _ a
    | cons b sorted insert =>
      obtain ⟨hb, hsorted'⟩ := List.pairwise_cons.1 hsorted
      rw [List.orderedInsert]
      split
      next hle =>
        refine List.pairwise_cons.2 ⟨fun c hc => ?_, hsorted⟩
        have hscore : score c ≤ score a := by
          rcases List.mem_cons.1 hc with rfl | hc
          · exact hle
          · rcases hb c hc with hlt | ⟨heq, -⟩
            · exact hlt.le.trans hle
            · exact heq.le.trans hle
        rcases hscore.lt_or_eq with hlt | heq
        · exact Or.inl hlt
        · exact Or.inr ⟨heq, hlater c hc⟩
      next hgt =>
        have hinsert := insert (fun c hc => hlater c (List.mem_cons_of_mem b hc)) hsorted'
        refine List.pairwise_cons.2 ⟨fun c hc => ?_, hinsert⟩
        rcases (List.mem_orderedInsert _).1 hc with rfl | hc
        · exact Or.inl (not_le.1 hgt)
        · exact hb c hc

theorem pairwise_byScore (rows : List α) :
    (byScore score rows).Pairwise fun a b => score b ≤ score a := by
  have htotal : ∀ a b : α, score b ≤ score a ∨ score a ≤ score b :=
    fun a b => le_total (score b) (score a)
  have htrans : ∀ a b c : α, score b ≤ score a → score c ≤ score b → score c ≤ score a :=
    fun a b c hab hbc => hbc.trans hab
  have : Std.Total fun a b : α => score b ≤ score a := ⟨htotal⟩
  have : IsTrans α fun a b : α => score b ≤ score a := ⟨htrans⟩
  exact List.pairwise_insertionSort _ rows

end

/-! ## The quota of a key -/

/-- Go through the rows, and keep a row unless `n` rows of its key are kept. -/
def quota [DecidableEq κ] (n : ℕ) (key : α → κ) (kept : List α) : List α → List α
  | [] => kept
  | a :: rows =>
    if n ≤ kept.countP (fun b => key b = key a) then quota n key kept rows
    else quota n key (kept ++ [a]) rows

section

variable [DecidableEq κ] {n : ℕ} {key : α → κ}

theorem quota_append (before after kept : List α) :
    quota n key kept (before ++ after) = quota n key (quota n key kept before) after := by
  induction before generalizing kept with
  | nil => rfl
  | cons a before ih =>
    rw [List.cons_append, quota, quota]
    split
    · exact ih kept
    · exact ih (kept ++ [a])

/-- What is kept stays in front, and what comes behind it are rows in their order. -/
theorem quota_eq_append (n : ℕ) (key : α → κ) (rows kept : List α) :
    ∃ more, quota n key kept rows = kept ++ more ∧ more.Sublist rows := by
  induction rows generalizing kept with
  | nil => exact ⟨[], (List.append_nil kept).symm, List.Sublist.refl []⟩
  | cons a rows ih =>
    rw [quota]
    split
    · obtain ⟨more, heq, hsub⟩ := ih kept
      exact ⟨more, heq, hsub.cons a⟩
    · obtain ⟨more, heq, hsub⟩ := ih (kept ++ [a])
      exact ⟨a :: more, by rw [heq, List.append_assoc, List.singleton_append],
        List.Sublist.cons_cons a hsub⟩

theorem quota_sublist (rows : List α) : (quota n key [] rows).Sublist rows := by
  obtain ⟨more, heq, hsub⟩ := quota_eq_append n key rows []
  rw [heq]
  exact hsub

/-- **A key keeps its rows**, up to `n` of them. -/
theorem count_quota (n : ℕ) (key : α → κ) (rows : List α) (k : κ) (kept : List α)
    (h : kept.countP (fun b => key b = k) ≤ n) :
    (quota n key kept rows).countP (fun b => key b = k) =
      min n (kept.countP (fun b => key b = k) + rows.countP fun b => key b = k) := by
  induction rows generalizing kept with
  | nil => rw [quota, List.countP_nil, Nat.add_zero, Nat.min_eq_right h]
  | cons a rows ih =>
    rw [quota, List.countP_cons]
    by_cases hk : key a = k
    · subst hk
      rw [if_pos (decide_eq_true rfl)]
      split
      next hfull =>
        rw [ih kept h]
        omega
      next hroom =>
        have hnext : (kept ++ [a]).countP (fun b => key b = key a) =
            kept.countP (fun b => key b = key a) + 1 := by
          rw [List.countP_append, List.countP_singleton, if_pos (decide_eq_true rfl)]
        rw [ih _ (by omega), hnext]
        omega
    · have hother : decide (key a = k) = false := decide_eq_false hk
      rw [hother]
      split
      · exact ih kept h
      · have hsame : (kept ++ [a]).countP (fun b => key b = k) =
            kept.countP fun b => key b = k := by
          rw [List.countP_append, List.countP_singleton, hother]
          rfl
        rw [ih _ (by omega), hsame]
        rfl

theorem count_quota_le (rows : List α) (k : κ) :
    (quota n key [] rows).countP (fun b => key b = k) ≤ n := by
  rw [count_quota n key rows k [] (Nat.zero_le n)]
  exact Nat.min_le_left _ _

/-- A row is kept behind those ahead of it, when its key has room. -/
theorem quota_eq_of_room {before : List α} (after : List α) {a : α}
    (h : before.countP (fun b => key b = key a) < n) :
    ∃ more, quota n key [] (before ++ a :: after) = quota n key [] before ++ a :: more := by
  have hcount := count_quota n key before (key a) [] (Nat.zero_le n)
  rw [List.countP_nil, Nat.zero_add] at hcount
  obtain ⟨more, heq, -⟩ := quota_eq_append n key after (quota n key [] before ++ [a])
  refine ⟨more, ?_⟩
  rw [quota_append, quota, if_neg (by omega), heq, List.append_assoc, List.singleton_append]

/-! ## Places -/

/-- The places that rows take when each key has no more than `n`. -/
def places (n : ℕ) (key : α → κ) (s : Finset α) : ℕ :=
  ∑ k ∈ s.image key, min n (s.filter fun a => key a = k).card

theorem places_mono {s t : Finset α} (h : s ⊆ t) : places n key s ≤ places n key t := by
  have heach : ∀ k ∈ s.image key, min n (s.filter fun a => key a = k).card ≤
      min n (t.filter fun a => key a = k).card := by
    intro k hk
    have hcard := Finset.card_le_card (Finset.filter_subset_filter (fun a => key a = k) h)
    omega
  exact (Finset.sum_le_sum heach).trans
    (Finset.sum_le_sum_of_subset (Finset.image_subset_image h))

theorem map_quota {f : β → α} (rows kept : List β) :
    (quota n (key ∘ f) kept rows).map f = quota n key (kept.map f) (rows.map f) := by
  induction rows generalizing kept with
  | nil => rfl
  | cons b rows ih =>
    have hcount : (kept.map f).countP (fun c => key c = key (f b)) =
        kept.countP fun c => (key ∘ f) c = (key ∘ f) b := List.countP_map
    rw [List.map_cons, quota, quota, hcount]
    split
    · exact ih kept
    · rw [ih (kept ++ [b]), List.map_append, List.map_singleton]

/-- **The rows that are kept** are as many as the places that all of them take. -/
theorem length_quota [DecidableEq α] {rows : List α} (h : rows.Nodup) :
    (quota n key [] rows).length = places n key rows.toFinset := by
  have hcard {l : List α} (hl : l.Nodup) (k : κ) :
      (l.toFinset.filter fun a => key a = k).card = l.countP fun a => key a = k := by
    rw [List.countP_eq_length_filter, ← List.toFinset_card_of_nodup (hl.filter _),
      List.toFinset_filter]
    simp
  have hcut : (quota n key [] rows).Sublist rows := quota_sublist rows
  have hkept := h.sublist hcut
  have hsub : (quota n key [] rows).toFinset.image key ⊆ rows.toFinset.image key := by
    refine Finset.image_subset_image fun a ha => ?_
    rw [List.mem_toFinset] at ha ⊢
    exact (quota_sublist rows).subset ha
  -- a key none of whose rows is kept adds nothing
  have hnone : ∀ k ∈ rows.toFinset.image key, k ∉ (quota n key [] rows).toFinset.image key →
      ((quota n key [] rows).toFinset.filter fun a => key a = k).card = 0 := by
    intro k _ hk
    rw [Finset.card_eq_zero, Finset.filter_eq_empty_iff]
    exact fun a ha heq => hk (Finset.mem_image.2 ⟨a, ha, heq⟩)
  rw [← List.toFinset_card_of_nodup hkept, Finset.card_eq_sum_card_image key,
    Finset.sum_subset hsub hnone, places]
  refine Finset.sum_congr rfl fun k _ => ?_
  rw [hcard hkept, hcard h, count_quota n key rows k [] (Nat.zero_le n), List.countP_nil, Nat.zero_add]

/-! ## What the cut keeps -/

/-- The bad rows that stand before one. -/
def rivals [DecidableEq α] (R : α → α → Prop) [DecidableRel R] (good : α → Bool) (rows : List α)
    (v : α) : Finset α := rows.toFinset.filter fun u => good u = false ∧ R u v

/-- **A good row survives the cut** exactly when the bad rows before some good one leave it a
place. A good row has to find room in its own key, however many bad ones are ahead. -/
theorem exists_good_mem_take [DecidableEq α] {R : α → α → Prop} [DecidableRel R]
    (good : α → Bool) {rows : List α} (m : ℕ) (hasymm : ∀ a b, R a b → ¬ R b a)
    (horder : rows.Pairwise R) (hnodup : rows.Nodup)
    (hroom : ∀ v ∈ rows, good v = true →
      (rows.filter fun u => !good u).countP (fun u => key u = key v) < n) :
    (∃ v ∈ (quota n key [] rows).take m, good v = true) ↔
      ∃ v ∈ rows, good v = true ∧ places n key (rivals R good rows v) < m := by
  -- the first good row has only bad ones before it
  have hfirst (h : ∃ v ∈ rows, good v = true) : ∃ before v after, rows = before ++ v :: after ∧
      good v = true ∧ ∀ u ∈ before, good u = false := by
    obtain ⟨w, hw, hgood⟩ := h
    obtain ⟨v, hfind⟩ := Option.isSome_iff_exists.1 (List.find?_isSome.2 ⟨w, hw, hgood⟩)
    obtain ⟨hv, before, after, heq, hbefore⟩ := List.find?_eq_some_iff_append.1 hfind
    exact ⟨before, v, after, heq, hv, fun u hu => by simpa using hbefore u hu⟩
  -- and they are its rivals
  have hrivals {before after : List α} {v : α} (heq : rows = before ++ v :: after)
      (hv : good v = true) (hbefore : ∀ u ∈ before, good u = false) :
      rivals R good rows v = before.toFinset := by
    rw [heq] at horder
    obtain ⟨-, hafter, hcross⟩ := List.pairwise_append.1 horder
    ext u
    rw [rivals, Finset.mem_filter, List.mem_toFinset, List.mem_toFinset, heq, List.mem_append,
      List.mem_cons]
    constructor
    · rintro ⟨hu | rfl | hu, hbad, hR⟩
      · exact hu
      · rw [hv] at hbad
        cases hbad
      · exact absurd hR (hasymm v u ((List.pairwise_cons.1 hafter).1 u hu))
    · intro hu
      exact ⟨Or.inl hu, hbefore u hu, hcross u hu v List.mem_cons_self⟩
  constructor
  · rintro ⟨w, hw, hgood⟩
    have hmem := (quota_sublist rows).subset (List.mem_of_mem_take hw)
    obtain ⟨before, v, after, heq, hv, hbefore⟩ := hfirst ⟨w, hmem, hgood⟩
    refine ⟨v, by rw [heq]; exact List.mem_append_right before List.mem_cons_self, hv, ?_⟩
    rw [hrivals heq hv hbefore,
      ← length_quota (hnodup.sublist (by rw [heq]; exact List.sublist_append_left before _))]
    by_contra hlong
    -- otherwise the cut leaves nothing but what is before the first good row
    rw [heq, quota_append] at hw
    obtain ⟨more, hmore, -⟩ :=
      quota_eq_append n key (v :: after) (quota n key [] before)
    rw [hmore, List.take_append_of_le_length (not_lt.1 hlong)] at hw
    have hbad := hbefore w ((quota_sublist before).subset (List.mem_of_mem_take hw))
    rw [hgood] at hbad
    cases hbad
  · rintro ⟨w, hw, hgood, hplaces⟩
    obtain ⟨before, v, after, heq, hv, hbefore⟩ := hfirst ⟨w, hw, hgood⟩
    have hfewer : rivals R good rows v ⊆ rivals R good rows w := by
      intro u hu
      have hR := hu
      rw [hrivals heq hv hbefore, List.mem_toFinset] at hR
      have hw' : w ∈ v :: after := by
        rw [heq, List.mem_append] at hw
        refine hw.resolve_left fun hmem => ?_
        rw [hbefore w hmem] at hgood
        cases hgood
      rw [heq] at horder
      exact Finset.mem_filter.2 ⟨(Finset.mem_filter.1 hu).1, hbefore u hR,
        (List.pairwise_append.1 horder).2.2 u hR w hw'⟩
    have hlength : (quota n key [] before).length < m := by
      rw [length_quota (hnodup.sublist (by rw [heq]; exact List.sublist_append_left before _)),
        ← hrivals heq hv hbefore]
      exact (places_mono hfewer).trans_lt hplaces
    have hcount : before.countP (fun u => key u = key v) < n := by
      have hsub : before.Sublist (rows.filter fun u => !good u) := by
        have hkept : before.filter (fun u => !good u) = before :=
          List.filter_eq_self.2 fun u hu => by rw [hbefore u hu]; rfl
        rw [heq, List.filter_append, hkept]
        exact List.sublist_append_left before _
      exact hsub.countP_le.trans_lt
        (hroom v (by rw [heq]; exact List.mem_append_right before List.mem_cons_self) hv)
    obtain ⟨more, hmore⟩ := quota_eq_of_room after hcount
    refine ⟨v, ?_, hv⟩
    rw [heq, hmore, List.take_append, List.mem_append]
    obtain ⟨k, hk⟩ := Nat.exists_eq_add_of_lt hlength
    right
    rw [hk, Nat.add_assoc, Nat.add_sub_cancel_left, List.take_succ_cons]
    exact List.mem_cons_self

end

end ParkingSystem.Ranking
