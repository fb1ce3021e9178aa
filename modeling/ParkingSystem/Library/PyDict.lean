import Mathlib.Data.List.Induction
import Mathlib.Data.List.Nodup
import Mathlib.Data.List.Perm.Basic

/-!
# Python Dictionaries

A `dict` as the list of its items, in the order of insertion: the keys are distinct, and an
assignment to a key that is there keeps its place.

- `alter` is every change of one entry, from what the entry was (`none` where it was not there);
- `pop` takes an entry out;
- `groupInto` is the loop that adds rows to the entries of their keys.
-/

namespace PyDict

variable {α κ ν : Type} [DecidableEq κ]

/-! ## One entry -/

/-- Change the entry of a key, or add it at the end. -/
def alter (key : κ) (f : Option ν → ν) : List (κ × ν) → List (κ × ν)
  | [] => [(key, f none)]
  | (k, v) :: d => if k = key then (k, f (some v)) :: d else (k, v) :: alter key f d

/-- What is in a changed dictionary: the changed entry, and the others. -/
theorem mem_alter {key : κ} {f : Option ν → ν} {d : List (κ × ν)} {entry : κ × ν}
    (h : entry ∈ alter key f d) : entry = (key, f (d.lookup key)) ∨ entry ∈ d := by
  induction d with
  | nil => exact .inl (by simpa [alter] using h)
  | cons first d ih =>
    obtain ⟨k, v⟩ := first
    rw [alter] at h
    split at h
    · rename_i hk
      subst hk
      rcases List.mem_cons.1 h with rfl | hrest
      · exact .inl (by simp)
      · exact .inr (List.mem_cons_of_mem _ hrest)
    · rename_i hk
      have hne : (key == k) = false := by simpa using Ne.symm hk
      rcases List.mem_cons.1 h with rfl | hrest
      · exact .inr List.mem_cons_self
      · rcases ih hrest with hchanged | hold
        · exact .inl (by rw [hchanged, List.lookup_cons, hne])
        · exact .inr (List.mem_cons_of_mem _ hold)

theorem keys_alter (key : κ) (f : Option ν → ν) (d : List (κ × ν)) :
    (alter key f d).map Prod.fst =
      if key ∈ d.map Prod.fst then d.map Prod.fst else d.map Prod.fst ++ [key] := by
  induction d with
  | nil => simp [alter]
  | cons first d ih =>
    obtain ⟨k, v⟩ := first
    by_cases hk : k = key
    · simp [alter, hk]
    · rw [alter, if_neg hk, List.map_cons, ih]
      split <;> simp_all [eq_comm]

/-- The keys stay distinct. -/
theorem nodup_alter {key : κ} {f : Option ν → ν} {d : List (κ × ν)}
    (h : (d.map Prod.fst).Nodup) : ((alter key f d).map Prod.fst).Nodup := by
  rw [keys_alter]
  split
  · exact h
  · rename_i hkey
    rw [List.nodup_append]
    refine ⟨h, List.nodup_singleton key, fun k hk k' hk' => ?_⟩
    obtain rfl := List.mem_singleton.1 hk'
    exact fun heq => hkey (heq ▸ hk)

theorem lookup_alter (key k : κ) (f : Option ν → ν) (d : List (κ × ν)) :
    (alter key f d).lookup k = if k = key then some (f (d.lookup key)) else d.lookup k := by
  induction d with
  | nil =>
    by_cases hk : k = key
    · simp [alter, hk]
    · simp [alter, hk, List.lookup_cons, beq_false_of_ne hk]
  | cons first d ih =>
    obtain ⟨k₀, v⟩ := first
    rw [alter]
    split
    · rename_i hk₀
      subst hk₀
      by_cases hk : k = k₀
      · simp [hk]
      · simp [List.lookup_cons, hk, beq_false_of_ne hk]
    · rename_i hk₀
      have hne : (key == k₀) = false := by simpa using Ne.symm hk₀
      rw [List.lookup_cons, List.lookup_cons, ih, List.lookup_cons, hne]
      by_cases hk : k = k₀
      · subst hk
        simp [hk₀]
      · simp [beq_false_of_ne hk]

/-- Where the keys are distinct, an entry is what its key is looked up as. -/
theorem mem_iff_lookup {d : List (κ × ν)} (h : (d.map Prod.fst).Nodup) {k : κ} {v : ν} :
    (k, v) ∈ d ↔ d.lookup k = some v := by
  constructor
  · intro hmem
    induction d with
    | nil => simp at hmem
    | cons first d ih =>
      rw [List.map_cons, List.nodup_cons] at h
      rcases List.mem_cons.1 hmem with rfl | hmem
      · exact List.lookup_cons_self
      · have hne : (k == first.1) = false := by
          simpa using fun heq : k = first.1 => h.1 (heq ▸ List.mem_map_of_mem hmem)
        rw [List.lookup_cons, hne]
        exact ih h.2 hmem
  · intro hlookup
    obtain ⟨before, after, rfl, -⟩ := List.lookup_eq_some_iff.1 hlookup
    exact List.mem_append_right before List.mem_cons_self

/-- `d.get(key)`. -/
def item (key : κ) (d : List (κ × ν)) : Option ν := d.lookup key

theorem item_append (key : κ) (d d' : List (κ × ν)) :
    item key (d ++ d') = (item key d).or (item key d') := List.lookup_append

theorem item_singleton (key : κ) (entry : κ × ν) :
    item key [entry] = if entry.1 = key then some entry.2 else none := by
  by_cases hkey : entry.1 = key
  · rw [if_pos hkey, ← hkey]
    exact List.lookup_cons_self
  · have hne : (key == entry.1) = false := by simpa using Ne.symm hkey
    rw [if_neg hkey, item, List.lookup_cons, hne]
    rfl

theorem item_eq_none {key : κ} {d : List (κ × ν)} : item key d = none ↔ key ∉ d.map Prod.fst := by
  rw [item, List.lookup_eq_none_iff]
  constructor
  · intro h hmem
    obtain ⟨entry, hentry, rfl⟩ := List.mem_map.1 hmem
    simpa using h entry hentry
  · intro h entry hentry
    simpa using fun heq : key = entry.1 => h (heq ▸ List.mem_map_of_mem hentry)

theorem isSome_item {key : κ} {d : List (κ × ν)} :
    (item key d).isSome = true ↔ key ∈ d.map Prod.fst := by
  rw [Option.isSome_iff_ne_none, Ne, item_eq_none, not_not]

/-- `d.pop(key)`, without the value. -/
def pop (key : κ) (d : List (κ × ν)) : List (κ × ν) := d.eraseP fun entry => entry.1 == key

theorem keys_pop (key : κ) (d : List (κ × ν)) :
    (pop key d).map Prod.fst = (d.map Prod.fst).erase key := by
  induction d with
  | nil => rfl
  | cons entry d ih =>
    by_cases hkey : entry.1 = key
    · simp [pop, hkey]
    · have hne : (entry.1 == key) = false := beq_false_of_ne hkey
      rw [pop, List.eraseP_cons_of_neg (by simp [hne]), List.map_cons, List.map_cons,
        List.erase_cons_tail (by simp [hne]), ← ih, pop]

/-- Where the keys are distinct, `pop` takes out all that the key has. -/
theorem mem_pop {d : List (κ × ν)} (h : (d.map Prod.fst).Nodup) {key : κ} {entry : κ × ν} :
    entry ∈ pop key d ↔ entry ∈ d ∧ entry.1 ≠ key := by
  constructor
  · intro hmem
    refine ⟨List.mem_of_mem_eraseP hmem, fun hkey => ?_⟩
    have hin : entry.1 ∈ (pop key d).map Prod.fst := List.mem_map_of_mem hmem
    rw [keys_pop, hkey] at hin
    exact h.not_mem_erase hin
  · rintro ⟨hmem, hkey⟩
    exact (List.mem_eraseP_of_neg (by simpa using hkey)).2 hmem

/-! ## Grouping -/

/-- Add each row to the entry of its key. -/
def groupInto (key : α → κ) (f : α → Option ν → ν) (d : List (κ × ν)) (rows : List α) :
    List (κ × ν) := rows.foldl (fun d row => alter (key row) (f row) d) d

theorem nodup_groupInto {key : α → κ} {f : α → Option ν → ν} (rows : List α)
    {d : List (κ × ν)} (h : (d.map Prod.fst).Nodup) :
    ((groupInto key f d rows).map Prod.fst).Nodup := by
  induction rows generalizing d with
  | nil => exact h
  | cons row rows ih => exact ih (nodup_alter h)

/-- The keys of a grouping are those of its rows. -/
theorem mem_keys_groupInto {key : α → κ} {f : α → Option ν → ν} {k : κ} (rows : List α)
    (d : List (κ × ν)) :
    k ∈ (groupInto key f d rows).map Prod.fst ↔ k ∈ d.map Prod.fst ∨ ∃ row ∈ rows, key row = k := by
  induction rows generalizing d with
  | nil => simp [groupInto]
  | cons row rows ih =>
    have hstep := ih (alter (key row) (f row) d)
    rw [groupInto, List.foldl_cons, ← groupInto, hstep, keys_alter, List.exists_mem_cons_iff,
      ← or_assoc]
    refine or_congr_left ?_
    split
    · rename_i hmem
      exact ⟨.inl, fun h => h.elim id fun heq => heq ▸ hmem⟩
    · rw [List.mem_append, List.mem_singleton, eq_comm (a := k)]

/-- **The keys of a grouping** are in the order of their first rows. -/
theorem pairwise_keys_groupInto [BEq κ] [LawfulBEq κ] (key : α → κ) (f : α → Option ν → ν)
    (rows : List α) :
    ((groupInto key f [] rows).map Prod.fst).Pairwise fun a b =>
      (rows.map key).idxOf a < (rows.map key).idxOf b := by
  induction rows using List.reverseRecOn with
  | nil => exact List.Pairwise.nil
  | append_singleton rows row ih =>
    have hkeys : ∀ a ∈ (groupInto key f [] rows).map Prod.fst, a ∈ rows.map key := by
      intro a ha
      rcases (mem_keys_groupInto rows []).1 ha with hnil | ⟨r, hr, rfl⟩
      · cases hnil
      · exact List.mem_map_of_mem hr
    have hlast : groupInto key f [] (rows ++ [row]) =
        alter (key row) (f row) (groupInto key f [] rows) := List.foldl_append
    rw [hlast, keys_alter, List.map_append]
    -- the rows that were there keep their places
    have hold : ((groupInto key f [] rows).map Prod.fst).Pairwise fun a b =>
        (rows.map key ++ [row].map key).idxOf a < (rows.map key ++ [row].map key).idxOf b := by
      refine ih.imp_of_mem fun ha hb hlt => ?_
      rwa [List.idxOf_append_of_mem (hkeys _ ha), List.idxOf_append_of_mem (hkeys _ hb)]
    split
    · exact hold
    next hnew =>
      refine List.pairwise_append.2 ⟨hold, List.pairwise_singleton _ _, fun a ha b hb => ?_⟩
      have hrow : key row ∉ rows.map key := by
        intro hmem
        obtain ⟨r, hr, heq⟩ := List.mem_map.1 hmem
        exact hnew ((mem_keys_groupInto rows []).2 (Or.inr ⟨r, hr, heq⟩))
      rw [List.mem_singleton.1 hb, List.idxOf_append_of_mem (hkeys a ha),
        List.idxOf_append_of_notMem hrow]
      exact Nat.lt_add_right _ (List.idxOf_lt_length_of_mem (hkeys a ha))

/-- **What an addition keeps** holds of every entry. -/
theorem forall_mem_groupInto {key : α → κ} {f : α → Option ν → ν} {P : κ × ν → Prop}
    {rows : List α} {d : List (κ × ν)} (hd : ∀ entry ∈ d, P entry)
    (hnew : ∀ row ∈ rows, P (key row, f row none))
    (hadd : ∀ row ∈ rows, ∀ v, P (key row, v) → P (key row, f row (some v))) :
    ∀ entry ∈ groupInto key f d rows, P entry := by
  induction rows generalizing d with
  | nil => exact hd
  | cons row rows ih =>
    refine ih (fun entry hentry => ?_) (fun row hrow => hnew row (List.mem_cons_of_mem _ hrow))
      fun row hrow => hadd row (List.mem_cons_of_mem _ hrow)
    rcases mem_alter hentry with rfl | hold
    · cases hlookup : d.lookup (key row) with
      | none => exact hnew row List.mem_cons_self
      | some v =>
        obtain ⟨before, after, hsplit, -⟩ := List.lookup_eq_some_iff.1 hlookup
        have hentry : (key row, v) ∈ d := by
          rw [hsplit]
          exact List.mem_append_right before List.mem_cons_self
        exact hadd row List.mem_cons_self v (hd _ hentry)
    · exact hd entry hold

/-- **The entry of a key** is made of the rows with the key, in order. -/
theorem lookup_groupInto (key : α → κ) (f : α → Option ν → ν) (d : List (κ × ν)) (rows : List α)
    (k : κ) : (groupInto key f d rows).lookup k =
      (rows.filter fun row => key row = k).foldl (fun v row => some (f row v)) (d.lookup k) := by
  induction rows generalizing d with
  | nil => rfl
  | cons row rows ih =>
    have hstep := ih (alter (key row) (f row) d)
    rw [lookup_alter] at hstep
    rw [groupInto, List.foldl_cons, ← groupInto, hstep, List.filter_cons]
    by_cases hk : key row = k
    · simp [hk]
    · simp [hk, Ne.symm hk]

theorem item_groupInto (key : α → κ) (f : α → Option ν → ν) (rows : List α) (k : κ) :
    item k (groupInto key f [] rows) =
      (rows.filter fun row => key row = k).foldl (fun v row => some (f row v)) none :=
  lookup_groupInto key f [] rows k

/-- **What holds of every entry**: it holds of one that is new, and an addition keeps it. -/
theorem entry_induction {key : α → κ} {f : α → Option ν → ν} {rows : List α} {k : κ} {v : ν}
    {P : List α → ν → Prop} (hnew : ∀ row ∈ rows, key row = k → P [row] (f row none))
    (hadd : ∀ before row v, row ∈ rows → key row = k → P before v →
      P (before ++ [row]) (f row (some v)))
    (h : (groupInto key f [] rows).lookup k = some v) : P (rows.filter fun row => key row = k) v := by
  rw [lookup_groupInto, List.lookup_nil] at h
  have hrows : ∀ row ∈ rows.filter fun row => key row = k, row ∈ rows ∧ key row = k := by
    intro row hrow
    simpa using hrow
  generalize (rows.filter fun row => key row = k) = own at h hrows
  -- the rest of the rows, from an entry that is there
  have hrest (after before : List α) (v₀ : ν) (hbefore : P before v₀)
      (hafter : ∀ row ∈ after, row ∈ rows ∧ key row = k)
      (hv : after.foldl (fun v row => some (f row v)) (some v₀) = some v) : P (before ++ after) v := by
    induction after generalizing before v₀ with
    | nil =>
      obtain rfl := Option.some.inj hv
      simpa using hbefore
    | cons row after ih =>
      obtain ⟨hrow, hkey⟩ := hafter row List.mem_cons_self
      have hnext := ih (before ++ [row]) (f row (some v₀)) (hadd before row v₀ hrow hkey hbefore)
        (fun row hrow => hafter row (List.mem_cons_of_mem _ hrow)) hv
      rwa [List.append_assoc] at hnext
  cases own with
  | nil => cases h
  | cons row own =>
    obtain ⟨hrow, hkey⟩ := hrows row List.mem_cons_self
    exact hrest own [row] (f row none) (hnew row hrow hkey)
      (fun row hrow => hrows row (List.mem_cons_of_mem _ hrow)) h

/-- Rows of which each adds its own to the entry of its key: nothing is lost, and nothing is there
twice. -/
theorem perm_groupInto {β : Type} (key : α → κ) (f : α → Option ν → ν) {items : ν → List β}
    {item : α → β} (hnew : ∀ row, (items (f row none)).Perm [item row])
    (hadd : ∀ row v, (items (f row (some v))).Perm (items v ++ [item row])) (d : List (κ × ν))
    (rows : List α) : ((groupInto key f d rows).flatMap fun entry => items entry.2).Perm
      (d.flatMap (fun entry => items entry.2) ++ rows.map item) := by
  have hstep (row : α) (d : List (κ × ν)) :
      ((alter (key row) (f row) d).flatMap fun entry => items entry.2).Perm
        (d.flatMap (fun entry => items entry.2) ++ [item row]) := by
    induction d with
    | nil => simpa [alter] using hnew row
    | cons first d ih =>
      obtain ⟨k, v⟩ := first
      rw [alter]
      split
      · rw [List.flatMap_cons, List.flatMap_cons, List.append_assoc]
        refine ((hadd row v).append_right _).trans ?_
        rw [List.append_assoc]
        exact List.perm_append_comm.append_left (items v)
      · rw [List.flatMap_cons, List.flatMap_cons, List.append_assoc]
        exact ih.append_left (items v)
  induction rows generalizing d with
  | nil => simp [groupInto]
  | cons row rows ih =>
    refine (ih (alter (key row) (f row) d)).trans ?_
    rw [List.map_cons, List.append_cons]
    exact (hstep row d).append_right _

end PyDict
