import Mathlib.Algebra.Order.BigOperators.Group.List
import Mathlib.Algebra.GroupWithZero.Nat
import Mathlib.Algebra.Ring.Int.Defs
import Mathlib.Data.Int.Notation
import Mathlib.Data.List.Sort
import Mathlib.Order.Basic

/-!
# Tables

A table is a list of rows. `orderBy` is ORDER BY, `updateWhere` is UPDATE, and `rowsAt` are
the rows under one key: what an insert or an update does to the rows of each key is said once
here, so that an invariant stated key by key is kept key by key.
-/

namespace Table

variable {α κ : Type}

/-! ## Ordering -/

/-- `ORDER BY key ASC`; equal keys keep the table's order. -/
def orderBy (key : α → ℤ) (rows : List α) : List α :=
  rows.insertionSort fun a b => key a ≤ key b

/-- `ORDER BY key DESC`. -/
def orderByDesc (key : α → ℤ) (rows : List α) : List α :=
  rows.insertionSort fun a b => key b ≤ key a

@[simp] theorem mem_orderBy {key : α → ℤ} {rows : List α} {a : α} :
    a ∈ orderBy key rows ↔ a ∈ rows := List.mem_insertionSort _

@[simp] theorem mem_orderByDesc {key : α → ℤ} {rows : List α} {a : α} :
    a ∈ orderByDesc key rows ↔ a ∈ rows := List.mem_insertionSort _

theorem perm_orderBy (key : α → ℤ) (rows : List α) : (orderBy key rows).Perm rows :=
  List.perm_insertionSort _ _

theorem perm_orderByDesc (key : α → ℤ) (rows : List α) : (orderByDesc key rows).Perm rows :=
  List.perm_insertionSort _ _

section

variable {r : α → α → Prop} [DecidableRel r]

/-- Inserting into an ordered list and leaving one of its elements out commute. -/
theorem orderedInsert_around (htrans : ∀ a b c, r a b → r b c → r a c) (c a : α) :
    ∀ A B : List α, (A ++ a :: B).Pairwise r → ∃ A' B',
      (A ++ a :: B).orderedInsert r c = A' ++ a :: B' ∧ (A ++ B).orderedInsert r c = A' ++ B'
  | [], B, hsorted => by
    by_cases hca : r c a
    · refine ⟨[c], B, by simp [hca], ?_⟩
      -- what comes after `a` comes after `c` too
      cases B with
      | nil => rfl
      | cons b B =>
        have hab : r a b := (List.pairwise_cons.1 hsorted).1 b List.mem_cons_self
        simp [htrans c a b hca hab]
    · exact ⟨[], B.orderedInsert r c, by simp [hca], rfl⟩
  | x :: A, B, hsorted => by
    by_cases hcx : r c x
    · exact ⟨c :: x :: A, B, by simp [hcx], by simp [hcx]⟩
    · obtain ⟨A', B', hwith, hwithout⟩ :=
        orderedInsert_around htrans c a A B (List.pairwise_cons.1 hsorted).2
      exact ⟨x :: A', B', by simp [hcx, hwith], by simp [hcx, hwithout]⟩

/-- Sorting and leaving out an element commute. -/
theorem insertionSort_around [Std.Total r] [IsTrans α r] (a : α) :
    ∀ L₁ L₂ : List α, ∃ A B, (L₁ ++ a :: L₂).insertionSort r = A ++ a :: B ∧
      (L₁ ++ L₂).insertionSort r = A ++ B
  | [], L₂ => ⟨_, _, List.insertionSort_cons_eq_take_drop r a L₂,
      (List.takeWhile_append_dropWhile).symm⟩
  | c :: L₁, L₂ => by
    obtain ⟨A, B, hwith, hwithout⟩ := insertionSort_around a L₁ L₂
    have hsorted : (A ++ a :: B).Pairwise r := hwith ▸ List.pairwise_insertionSort r _
    obtain ⟨A', B', h, h'⟩ :=
      orderedInsert_around (fun _ _ _ => IsTrans.trans _ _ _) c a A B hsorted
    refine ⟨A', B', ?_, ?_⟩
    · rw [List.cons_append, List.insertionSort_cons, hwith, h]
    · rw [List.cons_append, List.insertionSort_cons, hwithout, h']

end

/-- A row has its place in the order; the others keep theirs without it. -/
theorem orderBy_around (key : α → ℤ) (a : α) (L₁ L₂ : List α) :
    ∃ A B, orderBy key (L₁ ++ a :: L₂) = A ++ a :: B ∧ orderBy key (L₁ ++ L₂) = A ++ B := by
  have : Std.Total fun a b : α => key a ≤ key b := ⟨fun a b => le_total (key a) (key b)⟩
  have : IsTrans α fun a b => key a ≤ key b := ⟨fun _ _ _ => le_trans⟩
  exact insertionSort_around a L₁ L₂

/-! ## Updates -/

/-- `UPDATE ... WHERE`: rewrite the rows that satisfy `p`. -/
def updateWhere (p : α → Bool) (f : α → α) (rows : List α) : List α :=
  rows.map fun a => if p a then f a else a

@[simp] theorem updateWhere_nil (p : α → Bool) (f : α → α) : updateWhere p f [] = [] := rfl

@[simp] theorem updateWhere_cons (p : α → Bool) (f : α → α) (a : α) (rows : List α) :
    updateWhere p f (a :: rows) = (if p a then f a else a) :: updateWhere p f rows := rfl

theorem mem_updateWhere {p : α → Bool} {f : α → α} {rows : List α} {a : α} :
    a ∈ updateWhere p f rows ↔
      (∃ b ∈ rows, p b = true ∧ f b = a) ∨ (a ∈ rows ∧ p a = false) := by
  simp only [updateWhere, List.mem_map]
  constructor
  · rintro ⟨b, hb, rfl⟩
    cases hp : p b with
    | false => exact Or.inr ⟨hb, hp⟩
    | true => exact Or.inl ⟨b, hb, hp, rfl⟩
  · rintro (⟨b, hb, hp, rfl⟩ | ⟨ha, hp⟩)
    · exact ⟨b, hb, by simp [hp]⟩
    · exact ⟨a, ha, by simp [hp]⟩

/-- An update that keeps a column in the rows it writes keeps the list of its values. -/
theorem updateWhere_none {p : α → Bool} {f : α → α} {rows : List α}
    (h : ∀ a ∈ rows, p a = false) : updateWhere p f rows = rows := by
  unfold updateWhere
  refine (List.map_congr_left fun a ha => ?_).trans (List.map_id rows)
  simp [h a ha]

theorem updateWhere_congr {p q : α → Bool} {f : α → α} {rows : List α}
    (h : ∀ a ∈ rows, p a = q a) : updateWhere p f rows = updateWhere q f rows := by
  unfold updateWhere
  exact List.map_congr_left fun a ha => by rw [h a ha]

/-- Rows that pass a test are as they were where none of them is written and none that is written
comes to pass it. -/
theorem filter_updateWhere {p q : α → Bool} {f : α → α} {rows : List α}
    (hf : ∀ a, q (f a) = q a) (h : ∀ a ∈ rows, q a = true → p a = false) :
    (updateWhere p f rows).filter q = rows.filter q := by
  induction rows with
  | nil => rfl
  | cons a rows ih =>
    have ih := ih fun b hb => h b (List.mem_cons_of_mem _ hb)
    rw [updateWhere_cons, List.filter_cons, List.filter_cons, ih]
    cases hq : q a with
    | true => simp [h a (List.mem_cons_self ..) hq, hq]
    | false => cases p a <;> simp [hf, hq]

theorem map_updateWhere_of_mem {β : Type} {g : α → β} {p : α → Bool} {f : α → α} {rows : List α}
    (hg : ∀ a ∈ rows, p a = true → g (f a) = g a) : (updateWhere p f rows).map g = rows.map g := by
  rw [updateWhere, List.map_map]
  refine List.map_congr_left fun a ha => ?_
  by_cases hp : p a = true <;> simp [hp, hg a ha]

theorem map_updateWhere {β : Type} {g : α → β} {p : α → Bool} {f : α → α}
    (hg : ∀ a, g (f a) = g a) (rows : List α) :
    (updateWhere p f rows).map g = rows.map g := map_updateWhere_of_mem fun a _ _ => hg a

/-- Two updates of the same rows are one. -/
theorem updateWhere_updateWhere {p : α → Bool} {f g : α → α} (hp : ∀ a, p (f a) = p a)
    (rows : List α) :
    updateWhere p g (updateWhere p f rows) = updateWhere p (fun a => g (f a)) rows := by
  induction rows with
  | nil => rfl
  | cons a rows ih =>
    cases ha : p a with
    | true => simp [ih, ha, hp]
    | false => simp [ih, ha]

/-- Rows that are written over are lost. -/
theorem updateWhere_overwrite {p : α → Bool} {b : α} (hp : p b = true) (c : α) (rows : List α) :
    updateWhere p (fun _ => c) (updateWhere p (fun _ => b) rows) = updateWhere p (fun _ => c) rows := by
  induction rows with
  | nil => rfl
  | cons a rows ih =>
    cases ha : p a with
    | true => simp [ih, ha, hp]
    | false => simp [ih, ha]

/-! ## A table beside its rewritten form -/

theorem mem_zip_map_self {f : α → α} {rows : List α} {a b : α} :
    (a, b) ∈ rows.zip (rows.map f) ↔ a ∈ rows ∧ b = f a := by
  have hzip : rows.zip (rows.map f) = rows.map fun a => (a, f a) := by
    simpa using List.zip_map' (f := id) (g := f) (l := rows)
  rw [hzip, List.mem_map]
  constructor
  · rintro ⟨c, hc, hpair⟩
    obtain ⟨rfl, rfl⟩ := Prod.mk.inj hpair
    exact ⟨hc, rfl⟩
  · rintro ⟨ha, rfl⟩
    exact ⟨a, ha, rfl⟩

theorem mem_zip_self {rows : List α} {a b : α} : (a, b) ∈ rows.zip rows ↔ a ∈ rows ∧ b = a := by
  have h := @mem_zip_map_self α id rows a b
  rwa [List.map_id] at h

/-! ## Counting -/

/-- Four counts in balance, where every row is counted as often on both sides. -/
theorem countP_balance {p q r u : α → Bool} {rows : List α}
    (h : ∀ a ∈ rows, (p a).toNat + (q a).toNat = (r a).toNat + (u a).toNat) :
    rows.countP p + rows.countP q = rows.countP r + rows.countP u := by
  induction rows with
  | nil => rfl
  | cons a rows ih =>
    have hrest := ih fun b hb => h b (List.mem_cons_of_mem _ hb)
    have ha := h a List.mem_cons_self
    simp only [List.countP_cons]
    cases hp : p a <;> cases hq : q a <;> cases hr : r a <;> cases hu : u a <;>
      simp only [hp, hq, hr, hu, Bool.toNat_true, Bool.toNat_false, if_true, if_false,
        Bool.false_eq_true] at ha ⊢ <;> omega

/-- Where a row is found under its key, a change of it changes the sum by as much. -/
theorem sum_updateWhere_key [DecidableEq κ] {key : α → κ} {g : α → ℕ} {f : α → α} {d : ℕ}
    (hf : ∀ a, g (f a) = g a + d) {k : κ} {rows : List α} (hkeys : (rows.map key).Nodup)
    (hk : k ∈ rows.map key) :
    ((updateWhere (fun a => key a == k) f rows).map g).sum = (rows.map g).sum + d := by
  induction rows with
  | nil => cases hk
  | cons a rows ih =>
    rw [List.map_cons, List.nodup_cons] at hkeys
    rw [updateWhere_cons, List.map_cons, List.map_cons, List.sum_cons, List.sum_cons]
    by_cases ha : key a = k
    · -- the key is not met again
      subst ha
      have hrest : (updateWhere (fun b => key b == key a) f rows).map g = rows.map g :=
        map_updateWhere_of_mem fun b hb hp =>
          absurd (List.mem_map.2 ⟨b, hb, beq_iff_eq.1 hp⟩) hkeys.1
      rw [hrest, if_pos (by simp), hf]
      omega
    · have hrest := ih hkeys.2 ((List.mem_cons.1 hk).resolve_left fun h => ha h.symm)
      rw [hrest, if_neg (by simpa using ha)]
      omega

/-- Where a row is found under its key, a change that takes it out of a count takes one off. -/
theorem countP_updateWhere_key [DecidableEq κ] {key : α → κ} {p : α → Bool} {f : α → α} {a : α}
    {rows : List α} (hkeys : (rows.map key).Nodup) (ha : a ∈ rows) (hp : p a = true)
    (hf : p (f a) = false) :
    (updateWhere (fun b => key b == key a) f rows).countP p + 1 = rows.countP p := by
  induction rows with
  | nil => cases ha
  | cons b rows ih =>
    rw [List.map_cons, List.nodup_cons] at hkeys
    rcases List.mem_cons.1 ha with rfl | hrest
    · -- the key is not met again
      have hothers : updateWhere (fun b => key b == key a) f rows = rows := by
        refine List.map_congr_left (fun b hb => ?_) |>.trans (List.map_id rows)
        refine if_neg fun hsame => hkeys.1 ?_
        rw [← beq_iff_eq.1 hsame]
        exact List.mem_map_of_mem hb
      rw [updateWhere_cons, if_pos (by simp), hothers, List.countP_cons_of_neg (by simp [hf]),
        List.countP_cons_of_pos hp]
    · have hne : key b ≠ key a := fun h => hkeys.1 (h ▸ List.mem_map_of_mem hrest)
      rw [updateWhere_cons, if_neg (by simpa using hne), List.countP_cons, List.countP_cons,
        ← ih hkeys.2 hrest]
      omega

/-- A row that is written over under its key, with a column that no other row has. -/
theorem nodup_map_updateWhere_key {β : Type} [DecidableEq κ] {key : α → κ} {g : α → β} {b : α}
    {rows : List α} (hkeys : (rows.map key).Nodup) (hg : (rows.map g).Nodup)
    (hfree : ∀ a ∈ rows, key a ≠ key b → g a ≠ g b) :
    ((updateWhere (fun a => key a == key b) (fun _ => b) rows).map g).Nodup := by
  induction rows with
  | nil => exact List.nodup_nil
  | cons a rows ih =>
    rw [List.map_cons, List.nodup_cons] at hkeys hg
    have hrest := ih hkeys.2 hg.2 fun c hc => hfree c (List.mem_cons_of_mem _ hc)
    rw [updateWhere_cons, List.map_cons, List.nodup_cons]
    refine ⟨fun hmem => ?_, hrest⟩
    obtain ⟨c, hc, hsame⟩ := List.mem_map.1 hmem
    rcases mem_updateWhere.1 hc with ⟨d, hd, hkey, rfl⟩ | ⟨hc, hkey⟩
    · -- the row of the key is in the rest, so that the head is another one
      have hne : key a ≠ key b := fun h =>
        hkeys.1 (h ▸ beq_iff_eq.1 hkey ▸ List.mem_map_of_mem hd)
      rw [if_neg (by simpa using hne)] at hsame
      exact hfree a List.mem_cons_self hne hsame.symm
    · by_cases ha : key a = key b
      · rw [if_pos (by simpa using ha)] at hsame
        exact hfree c (List.mem_cons_of_mem _ hc) (by simpa using hkey) hsame
      · rw [if_neg (by simpa using ha)] at hsame
        exact hg.1 (hsame ▸ List.mem_map_of_mem hc)

/-! ## Sums -/

/-- Where one column bounds another row by row, they add up to the same only if they agree in
every row. -/
theorem sum_map_eq_iff_of_le {f g : α → ℤ} {rows : List α} (h : ∀ a ∈ rows, f a ≤ g a) :
    (rows.map f).sum = (rows.map g).sum ↔ ∀ a ∈ rows, f a = g a := by
  induction rows with
  | nil => simp
  | cons a rows ih =>
    obtain ⟨ha, hrows⟩ := List.forall_mem_cons.1 h
    have hle : (rows.map f).sum ≤ (rows.map g).sum := List.sum_le_sum hrows
    rw [List.map_cons, List.map_cons, List.sum_cons, List.sum_cons, List.forall_mem_cons,
      ← ih hrows]
    omega

/-! ## Association lists -/

/-- In a list whose keys differ, an entry is found exactly where it is. -/
theorem lookup_eq_some_iff_mem {β : Type} [DecidableEq κ] {entries : List (κ × β)}
    (hkeys : (entries.map Prod.fst).Nodup) {k : κ} {b : β} :
    entries.lookup k = some b ↔ (k, b) ∈ entries := by
  induction entries with
  | nil => simp
  | cons entry entries ih =>
    obtain ⟨k', b'⟩ := entry
    rw [List.map_cons, List.nodup_cons] at hkeys
    rw [List.lookup_cons, List.mem_cons, Prod.mk.injEq]
    by_cases hk : k = k'
    · subst hk
      -- the key is not met again
      have hnot : (k, b) ∉ entries := fun hmem => hkeys.1 (List.mem_map.2 ⟨_, hmem, rfl⟩)
      simp [hnot, eq_comm]
    · simp only [beq_eq_false_iff_ne.2 hk, hk, false_and, false_or, ih hkeys.2]

/-! ## Drawn identifiers -/

/-- Identifiers that were drawn below `n`, each of them once. -/
structure DrawnOnce (ids : List ℕ) (n : ℕ) : Prop where
  distinct : ids.Nodup
  below : ∀ i ∈ ids, i < n

theorem DrawnOnce.mono {ids : List ℕ} {n m : ℕ} (h : DrawnOnce ids n) (hnm : n ≤ m) :
    DrawnOnce ids m where
  distinct := h.distinct
  below i hi := Nat.lt_of_lt_of_le (h.below i hi) hnm

/-- The next identifier. -/
theorem DrawnOnce.push {ids : List ℕ} {n : ℕ} (h : DrawnOnce ids n) :
    DrawnOnce (ids ++ [n]) (n + 1) where
  distinct := List.nodup_append.2 ⟨h.distinct, List.nodup_singleton n, fun i hi j hj => by
    rw [List.mem_singleton.1 hj]
    exact Nat.ne_of_lt (h.below i hi)⟩
  below i hi := by
    rcases List.mem_append.1 hi with hi | hi
    · exact Nat.lt_succ_of_lt (h.below i hi)
    · rw [List.mem_singleton.1 hi]
      exact Nat.lt_succ_self n

/-! ## A copied column

Rows that refer to a row of another table and carry a copy of one of its columns. `keys` is what
that table has, `links` what the copies say, and identifiers are drawn upwards from `n`. -/

/-- Identifiers are distinct and drawn, and every copy agrees with what it is a copy of. -/
structure Copied {β : Type} (keys links : List (ℕ × β)) (n : ℕ) : Prop where
  distinct : (keys.map Prod.fst).Nodup
  below : ∀ k ∈ keys, k.1 < n
  drawn : ∀ l ∈ links, l.1 < n
  agree : ∀ l ∈ links, ∀ k ∈ keys, k.1 = l.1 → k.2 = l.2

namespace Copied

variable {β : Type} {keys links links' : List (ℕ × β)} {n m : ℕ}

theorem mono (h : Copied keys links n) (hnm : n ≤ m) : Copied keys links m where
  distinct := h.distinct
  below k hk := Nat.lt_of_lt_of_le (h.below k hk) hnm
  drawn l hl := Nat.lt_of_lt_of_le (h.drawn l hl) hnm
  agree := h.agree

/-- Copies may go. -/
theorem subset (h : Copied keys links n) (hsub : links' ⊆ links) : Copied keys links' n where
  distinct := h.distinct
  below := h.below
  drawn l hl := h.drawn l (hsub hl)
  agree l hl := h.agree l (hsub hl)

/-- A copy of a row that is there. -/
theorem link (h : Copied keys links n) {l : ℕ × β} (hl : l ∈ keys) (hsub : links' ⊆ l :: links) :
    Copied keys links' n where
  distinct := h.distinct
  below := h.below
  drawn l' hl' := by
    rcases List.mem_cons.1 (hsub hl') with rfl | hl'
    · exact h.below l' hl
    · exact h.drawn l' hl'
  agree l' hl' k hk hid := by
    rcases List.mem_cons.1 (hsub hl') with rfl | hl'
    · rw [List.inj_on_of_nodup_map h.distinct hk hl hid]
    · exact h.agree l' hl' k hk hid

/-- A new row, which nothing can be a copy of. -/
theorem insert (h : Copied keys links n) (b : β) : Copied (keys ++ [(n, b)]) links (n + 1) where
  distinct := by
    rw [List.map_append, List.nodup_append]
    refine ⟨h.distinct, List.nodup_singleton _, fun i hi j hj => ?_⟩
    obtain ⟨k, hk, rfl⟩ := List.mem_map.1 hi
    obtain rfl : j = n := List.mem_singleton.1 hj
    exact Nat.ne_of_lt (h.below k hk)
  below k hk := by
    rcases List.mem_append.1 hk with hk | hk
    · exact Nat.lt_succ_of_lt (h.below k hk)
    · obtain rfl := List.mem_singleton.1 hk
      exact Nat.lt_succ_self n
  drawn l hl := Nat.lt_succ_of_lt (h.drawn l hl)
  agree l hl k hk hid := by
    rcases List.mem_append.1 hk with hk | hk
    · exact h.agree l hl k hk hid
    · obtain rfl := List.mem_singleton.1 hk
      exact absurd hid.symm (Nat.ne_of_lt (h.drawn l hl))

theorem map_fst_eq {f : ℕ × β → ℕ × β} (hid : ∀ k, (f k).1 = k.1) (keys : List (ℕ × β)) :
    (keys.map f).map Prod.fst = keys.map Prod.fst := by
  rw [List.map_map]
  exact List.map_congr_left fun k _ => hid k

/-- A row that no copy refers to may change. -/
theorem change (h : Copied keys links n) {f : ℕ × β → ℕ × β} (hid : ∀ k, (f k).1 = k.1)
    (hfree : ∀ k ∈ keys, f k ≠ k → ∀ l ∈ links, l.1 ≠ k.1) : Copied (keys.map f) links n where
  distinct := by
    rw [map_fst_eq hid]
    exact h.distinct
  below k hk := by
    obtain ⟨k₀, hk₀, rfl⟩ := List.mem_map.1 hk
    rw [hid]
    exact h.below k₀ hk₀
  drawn := h.drawn
  agree l hl k hk hsame := by
    obtain ⟨k₀, hk₀, rfl⟩ := List.mem_map.1 hk
    rw [hid] at hsame
    by_cases hkept : f k₀ = k₀
    · rw [hkept]
      exact h.agree l hl k₀ hk₀ hsame
    · exact absurd hsame.symm (hfree k₀ hk₀ hkept l hl)

/-- A row may change together with every copy of it. -/
theorem together (h : Copied keys links n) {f : ℕ × β → ℕ × β} (hid : ∀ k, (f k).1 = k.1) :
    Copied (keys.map f) (links.map f) n where
  distinct := by
    rw [map_fst_eq hid]
    exact h.distinct
  below k hk := by
    obtain ⟨k₀, hk₀, rfl⟩ := List.mem_map.1 hk
    rw [hid]
    exact h.below k₀ hk₀
  drawn l hl := by
    obtain ⟨l₀, hl₀, rfl⟩ := List.mem_map.1 hl
    rw [hid]
    exact h.drawn l₀ hl₀
  agree l hl k hk hsame := by
    obtain ⟨l₀, hl₀, rfl⟩ := List.mem_map.1 hl
    obtain ⟨k₀, hk₀, rfl⟩ := List.mem_map.1 hk
    rw [hid, hid] at hsame
    rw [Prod.ext hsame (h.agree l₀ hl₀ k₀ hk₀ hsame)]

end Copied

/-! ## Rows under a key -/

variable [DecidableEq κ]

/-- The rows under a key. -/
def rowsAt (key : α → κ) (k : κ) (rows : List α) : List α := rows.filter fun a => key a == k

@[simp] theorem mem_rowsAt {key : α → κ} {k : κ} {rows : List α} {a : α} :
    a ∈ rowsAt key k rows ↔ a ∈ rows ∧ key a = k := by
  simp [rowsAt]

@[simp] theorem rowsAt_nil (key : α → κ) (k : κ) : rowsAt key k [] = [] := rfl

theorem rowsAt_cons_self (key : α → κ) (a : α) (rows : List α) :
    rowsAt key (key a) (a :: rows) = a :: rowsAt key (key a) rows := by
  simp [rowsAt]

theorem rowsAt_cons_of_ne {key : α → κ} {k : κ} {a : α} (h : key a ≠ k) (rows : List α) :
    rowsAt key k (a :: rows) = rowsAt key k rows := by
  simp [rowsAt, h]

/-- An insert adds to the rows under its own key only. -/
theorem rowsAt_append_self (key : α → κ) (rows : List α) (a : α) :
    rowsAt key (key a) (rows ++ [a]) = rowsAt key (key a) rows ++ [a] := by
  simp [rowsAt]

theorem rowsAt_append_of_ne {key : α → κ} {k : κ} {a : α} (h : key a ≠ k) (rows : List α) :
    rowsAt key k (rows ++ [a]) = rowsAt key k rows := by
  simp [rowsAt, h]

/-- An update of one key rewrites the rows under it. -/
theorem rowsAt_updateWhere_self {key : α → κ} {f : α → α} (hf : ∀ a, key (f a) = key a) (k : κ)
    (rows : List α) :
    rowsAt key k (updateWhere (fun a => key a == k) f rows) = (rowsAt key k rows).map f := by
  induction rows with
  | nil => rfl
  | cons a rows ih =>
    by_cases ha : key a = k
    · subst ha
      have hfa := rowsAt_cons_self key (f a) (updateWhere (fun b => key b == key a) f rows)
      rw [hf a] at hfa
      rw [updateWhere_cons, if_pos (by simp), hfa, rowsAt_cons_self, List.map_cons, ih]
    · rw [updateWhere_cons, if_neg (by simpa using ha), rowsAt_cons_of_ne ha,
        rowsAt_cons_of_ne ha, ih]

/-- An update of one key leaves the rows under the others alone. -/
theorem rowsAt_updateWhere_of_ne {key : α → κ} {f : α → α} (hf : ∀ a, key (f a) = key a)
    {j k : κ} (h : j ≠ k) (rows : List α) :
    rowsAt key k (updateWhere (fun a => key a == j) f rows) = rowsAt key k rows := by
  induction rows with
  | nil => rfl
  | cons a rows ih =>
    by_cases ha : key a = j
    · have hk : key a ≠ k := fun hk => h (ha.symm.trans hk)
      rw [updateWhere_cons, if_pos (by simpa using ha), rowsAt_cons_of_ne (by rwa [hf]),
        rowsAt_cons_of_ne hk, ih]
    · by_cases hk : key a = k
      · subst hk
        rw [updateWhere_cons, if_neg (by simpa using ha), rowsAt_cons_self, rowsAt_cons_self, ih]
      · rw [updateWhere_cons, if_neg (by simpa using ha), rowsAt_cons_of_ne hk,
          rowsAt_cons_of_ne hk, ih]

/-- Where the keys are distinct, a row is found under its own. -/
theorem find?_key_of_mem {key : α → κ} {rows : List α} (hkeys : (rows.map key).Nodup) {a : α}
    (ha : a ∈ rows) : rows.find? (fun b => key b == key a) = some a := by
  cases hfound : rows.find? fun b => key b == key a with
  | none => exact absurd (List.find?_eq_none.1 hfound a ha) (by simp)
  | some b =>
    have hb : key b = key a := by simpa using List.find?_some hfound
    rw [List.inj_on_of_nodup_map hkeys (List.mem_of_find?_eq_some hfound) ha hb]

/-- The row found under a key is rewritten with it. -/
theorem find?_updateWhere_self {key : α → κ} {f : α → α} (hf : ∀ a, key (f a) = key a) (k : κ)
    (rows : List α) : (updateWhere (fun a => key a == k) f rows).find? (fun a => key a == k) =
      (rows.find? fun a => key a == k).map f := by
  induction rows with
  | nil => rfl
  | cons a rows ih =>
    by_cases ha : key a = k
    · rw [updateWhere_cons, if_pos (by simpa using ha), List.find?_cons_of_pos (by simpa [hf] using ha),
        List.find?_cons_of_pos (by simpa using ha), Option.map_some]
    · rw [updateWhere_cons, if_neg (by simpa using ha), List.find?_cons_of_neg (by simpa using ha),
        List.find?_cons_of_neg (by simpa using ha), ih]

/-- What is found under the other keys stays. -/
theorem find?_updateWhere_of_ne {key : α → κ} {f : α → α} (hf : ∀ a, key (f a) = key a) {j k : κ}
    (h : j ≠ k) (rows : List α) :
    (updateWhere (fun a => key a == j) f rows).find? (fun a => key a == k) =
      rows.find? fun a => key a == k := by
  induction rows with
  | nil => rfl
  | cons a rows ih =>
    rw [updateWhere_cons, List.find?_cons, List.find?_cons, ih]
    by_cases ha : key a = j
    · have hk : (key a == k) = false := beq_eq_false_iff_ne.2 fun hk => h (ha.symm.trans hk)
      rw [if_pos (by simpa using ha), hf, hk]
    · rw [if_neg (by simpa using ha)]

/-- At most one row under each key: the keys are distinct. -/
theorem nodup_map_of_rowsAt {key : α → κ} {rows : List α}
    (h : ∀ k, (rowsAt key k rows).length ≤ 1) : (rows.map key).Nodup := by
  rw [List.nodup_iff_count_le_one]
  intro k
  refine le_trans (le_of_eq ?_) (h k)
  rw [List.count, List.countP_map, List.countP_eq_length_filter]
  rfl

end Table
