import ParkingSystem.Library.Potential
import ParkingSystem.Library.Table

/-!
# Tables that Only Grow

A table grows when its rows stay where they are: an UPDATE leaves the fixed part of a row alone and
undoes nothing, new rows come last, and no row goes.

The relation is for stores that many transactions write at once: what holds of every statement
on every store holds between any two moments of a run.
-/

namespace Table

variable {α β : Type}

/-- Every row is still at its place with the same fixed part `fixed`, and what was done with it is
still done. -/
def Grows (fixed : α → β) (done : α → Bool) (rows rows' : List α) : Prop :=
  ∀ (i : ℕ) (a : α), rows[i]? = some a →
    ∃ b, rows'[i]? = some b ∧ fixed b = fixed a ∧ (done a = true → done b = true)

namespace Grows

variable {fixed : α → β} {done : α → Bool} {rows rows' rows'' : List α}

theorem refl (fixed : α → β) (done : α → Bool) (rows : List α) : Grows fixed done rows rows :=
  fun _ a ha => ⟨a, ha, rfl, id⟩

theorem trans (h : Grows fixed done rows rows') (h' : Grows fixed done rows' rows'') :
    Grows fixed done rows rows'' := by
  intro i a ha
  obtain ⟨b, hb, hfixed, hdone⟩ := h i a ha
  obtain ⟨c, hc, hfixed', hdone'⟩ := h' i b hb
  exact ⟨c, hc, hfixed'.trans hfixed, hdone' ∘ hdone⟩

/-- INSERTs. -/
theorem append (fixed : α → β) (done : α → Bool) (rows added : List α) :
    Grows fixed done rows (rows ++ added) := by
  intro i b hb
  have hi : i < rows.length := (List.getElem?_eq_some_iff.1 hb).1
  exact ⟨b, by rw [List.getElem?_append_left hi, hb], rfl, id⟩

/-- An UPDATE that leaves the fixed part alone and undoes nothing. -/
theorem update {p : α → Bool} {f : α → α} (hrows : rows' = updateWhere p f rows)
    (hfixed : ∀ a, fixed (f a) = fixed a) (hdone : ∀ a, done a = true → done (f a) = true) :
    Grows fixed done rows rows' := by
  subst hrows
  intro i a ha
  refine ⟨if p a then f a else a, by rw [updateWhere, List.getElem?_map, ha]; rfl, ?_, ?_⟩
  · split
    · exact hfixed a
    · rfl
  · intro hold
    split
    · exact hdone a hold
    · exact hold

/-- No row goes. -/
theorem length_le (h : Grows fixed done rows rows') : rows.length ≤ rows'.length := by
  by_contra hlt
  have hi : rows'.length < rows.length := not_le.1 hlt
  obtain ⟨b, hb, -⟩ := h rows'.length rows[rows'.length] (List.getElem?_eq_getElem hi)
  rw [List.getElem?_eq_none le_rfl] at hb
  cases hb

theorem mem (h : Grows fixed done rows rows') {a : α} (ha : a ∈ rows) :
    ∃ b ∈ rows', fixed b = fixed a ∧ (done a = true → done b = true) := by
  obtain ⟨i, hi⟩ := List.mem_iff_getElem?.1 ha
  obtain ⟨b, hb, hkept⟩ := h i a hi
  exact ⟨b, List.mem_of_getElem? hb, hkept⟩

/-- A table whose rows are fixed as a whole is a prefix of what becomes of it. -/
theorem isPrefix {rows rows' : List α} (h : Grows id done rows rows') : rows <+: rows' := by
  refine List.prefix_iff_getElem?.2 fun i hi => ?_
  obtain ⟨b, hb, hsame, -⟩ := h i rows[i] (List.getElem?_eq_getElem hi)
  exact hb.trans (congrArg some hsame)

end Grows

end Table

namespace Transaction

variable {ι σ κ τ ε α : Type} [DecidableEq ι]

/-- **Run rule**: the committed store moves along every relation that each statement and the rest
of the system move it along. -/
theorem World.run_moves {R : σ → σ → Prop} (hrefl : ∀ s, R s s)
    (htrans : ∀ s s' s'', R s s' → R s' s'' → R s s'') {p : ι → Prog σ κ τ ε α}
    (hp : ∀ i, (p i).AllWrites fun st => ∀ s, R s (st.apply s)) {ρ : Regime σ τ}
    (henv : ∀ s s', ρ.env s s' → R s s') {s : σ} {w w' : World ι σ κ τ ε α}
    (hrun : World.Run ρ (World.start s p) w) (hrun' : World.Run ρ w w') :
    R w.committed w'.committed := by
  have hstmt (st : Statement σ κ τ) (hst : ∀ s, R s (st.apply s)) (pend : σ → σ)
      (hpend : ∀ s, R s (pend s)) (s : σ) : R s (st.apply (pend s)) :=
    htrans _ _ _ (hpend s) (hst (pend s))
  -- the pending updates of every connection move along `R` throughout
  have hwritten {v : World ι σ κ τ ε α} (hv : World.Run ρ (World.start s p) v) :
      Written (fun st => ∀ s, R s (Statement.apply st s)) (fun pend => ∀ s, R s (pend s)) v := by
    induction hv with
    | refl => exact .start hrefl hp s
    | tail _ hstep ih => exact ih.step hrefl hstmt hstep
  induction hrun' with
  | refl => exact hrefl _
  | tail hpre hstep ih =>
    have hmoved := (hwritten (hrun.trans hpre)).committed_rel hrefl (fun _ h => h) henv hstep
    exact htrans _ _ _ ih hmoved

end Transaction
