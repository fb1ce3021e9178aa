import Mathlib.Algebra.BigOperators.Fin
import Mathlib.Algebra.Order.BigOperators.Group.Finset
import ParkingSystem.Library.Interleaving

/-!
# Resources in Flight

A bound on what is committed, where transactions hold uncommitted shares of a resource. The
potential of a system is what is committed plus every connection's share; a step raises it
only by the cost of the statement it sends.
-/

namespace Transaction

variable {ι σ κ τ ε α : Type}

/-! ## What a step does -/

/-- The effect of a step on what is committed and what is pending: one connection keeps or drops
its updates, adds a statement to them or commits them, or the rest of the system commits. The
other connections keep theirs. -/
inductive Effect (ρ : Regime σ τ) (w w' : World ι σ κ τ ε α) : Prop where
  | quiet (i : ι) (committed : w'.committed = w.committed)
      (pending : (w'.conns i).pending = (w.conns i).pending ∨ (w'.conns i).pending = id)
      (others : ∀ j, j ≠ i → (w'.conns j).pending = (w.conns j).pending)
  | sent (i : ι) (st : Statement σ κ τ) (k : Flush → Prog σ κ τ ε α)
      (prog : (w.conns i).prog = .write st k) (committed : w'.committed = w.committed)
      (allowed : ρ.allowed st.label ((w.conns i).pending w.committed))
      (pending : (w'.conns i).pending = fun s => st.apply ((w.conns i).pending s))
      (others : ∀ j, j ≠ i → (w'.conns j).pending = (w.conns j).pending)
  | committed (i : ι) (committed : w'.committed = (w.conns i).pending w.committed)
      (pending : (w'.conns i).pending = id)
      (others : ∀ j, j ≠ i → (w'.conns j).pending = (w.conns j).pending)
  | env (committed : ρ.env w.committed w'.committed) (conns : w'.conns = w.conns)

section

variable [DecidableEq ι]

theorem World.Step.effect {ρ : Regime σ τ} {w w' : World ι σ κ τ ε α} (h : World.Step ρ w w') :
    Effect ρ w w' := by
  have hothers (i : ι) (c : Conn σ κ τ ε α) (j : ι) (hj : j ≠ i) :
      ((w.set i c).conns j).pending = (w.conns j).pending := by
    rw [World.set_conns_of_ne w hj]
  have hkept {i : ι} {c : Conn σ κ τ ε α} (hc : c.pending = (w.conns i).pending) :
      Effect ρ w (w.set i c) :=
    .quiet i rfl (Or.inl (by rw [World.set_conns_self, hc])) (hothers i c)
  have hdropped {i : ι} {c : Conn σ κ τ ε α} (hc : c.pending = id) : Effect ρ w (w.set i c) :=
    .quiet i rfl (Or.inr (by rw [World.set_conns_self, hc])) (hothers i c)
  cases h with
  | read hc => exact hkept (by rw [hc])
  | refused hc => exact hkept (by rw [hc])
  | rejected hc _ _ _ => exact hkept (by rw [hc])
  | @write i st k p H hc _ ha _ =>
    exact .sent i st k (by rw [hc]) rfl (by rw [hc]; exact ha) (by rw [World.set_conns_self, hc])
      (hothers i _)
  | @commit i k p H hc =>
    refine .committed i (by rw [hc]) ?_ (hothers i _)
    show ((w.set i _).conns i).pending = id
    rw [World.set_conns_self]
  | commitRefused hc => exact hkept (by rw [hc])
  | rollback hc => exact hdropped rfl
  | uuid hc _ _ => exact hkept (by rw [hc])
  | clock t hc => exact hkept (by rw [hc])
  | abort i => exact hdropped rfl
  | close hc => exact hdropped rfl
  | closeFailed hc => exact hdropped rfl
  | env hE => exact .env hE rfl

end

/-! ## The shape of pending updates -/

/-- Every program sends statements of `P` only, and every connection's pending updates have
the shape `E`. -/
structure Written (P : Statement σ κ τ → Prop) (E : (σ → σ) → Prop) (w : World ι σ κ τ ε α) :
    Prop where
  prog : ∀ i, (w.conns i).prog.AllWrites P
  pend : ∀ i, E (w.conns i).pending

variable {P : Statement σ κ τ → Prop} {E : (σ → σ) → Prop}

theorem Written.start (hid : E id) {p : ι → Prog σ κ τ ε α} (h : ∀ i, (p i).AllWrites P) (s : σ) :
    Written P E (World.start s p) where
  prog := h
  pend _ := hid

variable [DecidableEq ι]

theorem Written.set {w : World ι σ κ τ ε α} (h : Written P E w) {i : ι} {c : Conn σ κ τ ε α}
    (hprog : c.prog.AllWrites P) (hpend : E c.pending) : Written P E (w.set i c) where
  prog j := by
    rcases eq_or_ne j i with rfl | hj
    · simpa using hprog
    · simpa [World.set_conns_of_ne w hj] using h.prog j
  pend j := by
    rcases eq_or_ne j i with rfl | hj
    · simpa using hpend
    · simpa [World.set_conns_of_ne w hj] using h.pend j

/-- One step keeps both. -/
theorem Written.step (hid : E id)
    (hst : ∀ st, P st → ∀ p, E p → E fun s => Statement.apply st (p s)) {ρ : Regime σ τ}
    {w w' : World ι σ κ τ ε α} (h : Written P E w) (hstep : World.Step ρ w w') :
    Written P E w' := by
  cases hstep with
  | @read i k p H b hc =>
    have hp := h.prog i
    have he := h.pend i
    rw [hc] at hp he
    exact h.set (hp _) he
  | @refused i st k p H hc =>
    have hp := h.prog i
    have he := h.pend i
    rw [hc] at hp he
    exact h.set (hp.2 _) he
  | @rejected i st k p H r hc _ _ _ =>
    have hp := h.prog i
    have he := h.pend i
    rw [hc] at hp he
    exact h.set (hp.2 _) he
  | @write i st k p H hc _ _ _ =>
    have hp := h.prog i
    have he := h.pend i
    rw [hc] at hp he
    exact h.set (hp.2 _) (hst st hp.1 p he)
  | @commit i k p H hc =>
    have hp := h.prog i
    rw [hc] at hp
    have hset := h.set (i := i) (c := ⟨k true, id, {}, false⟩) (hp true) hid
    exact ⟨hset.prog, hset.pend⟩
  | @commitRefused i k p H hc =>
    have hp := h.prog i
    have he := h.pend i
    rw [hc] at hp he
    exact h.set (hp _) he
  | @rollback i k p H b hc =>
    have hp := h.prog i
    rw [hc] at hp
    exact h.set hp hid
  | @uuid i k p H b n hc _ _ =>
    have hp := h.prog i
    have he := h.pend i
    rw [hc] at hp he
    exact h.set (hp _) he
  | @clock i k p H b t hc =>
    have hp := h.prog i
    have he := h.pend i
    rw [hc] at hp he
    exact h.set (hp _) he
  | abort i => exact h.set trivial hid
  | @close i a p H b hc => exact h.set trivial hid
  | @closeFailed i e p H b hc => exact h.set trivial hid
  | env hE => exact ⟨h.prog, h.pend⟩

/-- What is committed moves along every relation that pending updates and the rest of the system
respect. -/
theorem Written.committed_rel {R : σ → σ → Prop} (hrefl : ∀ s, R s s)
    (hE : ∀ p, E p → ∀ s, R s (p s)) {ρ : Regime σ τ} (henv : ∀ s s', ρ.env s s' → R s s')
    {w w' : World ι σ κ τ ε α} (h : Written P E w) (hstep : World.Step ρ w w') :
    R w.committed w'.committed := by
  cases hstep.effect with
  | quiet i hcommitted _ _ => rw [hcommitted]; exact hrefl _
  | sent i st k _ hcommitted _ _ _ => rw [hcommitted]; exact hrefl _
  | committed i hcommitted _ _ => rw [hcommitted]; exact hE _ (h.pend i) _
  | env hs _ => exact henv _ _ hs

/-- **Invariant of a run**: what every statement and the rest of the system keep, every committed
store of a run has. -/
theorem World.run_keeps {I : σ → Prop} {p : ι → Prog σ κ τ ε α}
    (hp : ∀ i, (p i).AllWrites fun st => ∀ s, I s → I (st.apply s)) {ρ : Regime σ τ}
    (henv : ∀ s s', ρ.env s s' → I s → I s') {s : σ} (hs : I s) {w : World ι σ κ τ ε α}
    (hrun : World.Run ρ (World.start s p) w) : I w.committed := by
  have hkept : Written (fun st => ∀ s, I s → I (Statement.apply st s))
      (fun pend => ∀ s, I s → I (pend s)) w ∧ I w.committed := by
    induction hrun with
    | refl => exact ⟨.start (fun _ h => h) hp s, hs⟩
    | tail _ hstep ih =>
      refine ⟨ih.1.step (fun _ h => h) (fun st hst pend hpend s hI => hst _ (hpend s hI)) hstep, ?_⟩
      exact ih.1.committed_rel (R := fun s s' => I s → I s') (fun _ h => h) (fun _ h => h) henv
        hstep ih.2
  exact hkept.2

/-! ## Potential -/

variable [Fintype ι]

/-- What is committed, and every connection's share. -/
def World.potential (f : σ → ℤ) (g : (σ → σ) → ℤ) (w : World ι σ κ τ ε α) : ℤ :=
  f w.committed + ∑ i, g (w.conns i).pending

/-- What a resource and its shares must satisfy: shares are not negative, nothing pending is no
share, a commit turns a share into at most as much of the resource, a statement adds at most
its cost, and the rest of the system takes nothing. -/
structure Shares (P : Statement σ κ τ → Prop) (E : (σ → σ) → Prop) (env : σ → σ → Prop)
    (f : σ → ℤ) (g : (σ → σ) → ℤ) (cost : Statement σ κ τ → ℤ) : Prop where
  nonneg : ∀ p, 0 ≤ g p
  idle : g id = 0
  commits : ∀ p, E p → ∀ s, f (p s) ≤ f s + g p
  sends : ∀ st, P st → ∀ p, E p → g (fun s => st.apply (p s)) ≤ g p + cost st
  env : ∀ s s', env s s' → f s' ≤ f s

variable {f : σ → ℤ} {g : (σ → σ) → ℤ} {cost : Statement σ κ τ → ℤ}

/-- Replacing a connection replaces its share. -/
theorem World.sum_set (g : (σ → σ) → ℤ) (w : World ι σ κ τ ε α) (i : ι) (c : Conn σ κ τ ε α) :
    ∑ j, g ((w.set i c).conns j).pending + g (w.conns i).pending =
      ∑ j, g (w.conns j).pending + g c.pending := by
  have hrest : ∑ j ∈ Finset.univ.erase i, g ((w.set i c).conns j).pending =
      ∑ j ∈ Finset.univ.erase i, g (w.conns j).pending :=
    Finset.sum_congr rfl fun j hj => by rw [World.set_conns_of_ne w (Finset.ne_of_mem_erase hj)]
  have hnew := Finset.add_sum_erase Finset.univ (fun j => g ((w.set i c).conns j).pending)
    (Finset.mem_univ i)
  have hold := Finset.add_sum_erase Finset.univ (fun j => g (w.conns j).pending)
    (Finset.mem_univ i)
  rw [← hnew, ← hold, hrest, World.set_conns_self]
  omega

omit [DecidableEq ι] in
/-- What is committed is at most the potential. -/
theorem Shares.committed_le {env : σ → σ → Prop} (hS : Shares P E env f g cost)
    (w : World ι σ κ τ ε α) : f w.committed ≤ w.potential f g := by
  have hsum : 0 ≤ ∑ i, g (w.conns i).pending := Finset.sum_nonneg fun i _ => hS.nonneg _
  unfold World.potential
  omega

/-- **Potential rule**: a step raises the potential by the cost of the statement it sends, if it
sends one. -/
theorem Shares.step {ρ : Regime σ τ} (hS : Shares P E ρ.env f g cost)
    {w w' : World ι σ κ τ ε α} (h : Written P E w) (hstep : World.Step ρ w w') :
    w'.potential f g ≤ w.potential f g ∨
      ∃ st v, P st ∧ ρ.allowed st.label v ∧
        w'.potential f g ≤ w.potential f g + cost st := by
  -- a connection whose share does not grow
  have hkeeps {i : ι} {c : Conn σ κ τ ε α} (hle : g c.pending ≤ g (w.conns i).pending) :
      (w.set i c).potential f g ≤ w.potential f g := by
    have hsum := w.sum_set g i c
    unfold World.potential
    rw [World.set_committed]
    omega
  have hgone {i : ι} {c : Conn σ κ τ ε α} (hc : c.pending = id) :
      (w.set i c).potential f g ≤ w.potential f g :=
    hkeeps (by rw [hc, hS.idle]; exact hS.nonneg _)
  cases hstep with
  | read hc => exact Or.inl (hkeeps (by rw [hc]))
  | refused hc => exact Or.inl (hkeeps (by rw [hc]))
  | rejected hc _ _ _ => exact Or.inl (hkeeps (by rw [hc]))
  | @write i st k p H hc _ ha _ =>
    have hp := h.prog i
    have he := h.pend i
    rw [hc] at hp he
    refine Or.inr ⟨st, _, hp.1, ha, ?_⟩
    have hsum := w.sum_set g i ⟨k .done, fun s => st.apply (p s), H.lock st.locks, false⟩
    have hcost := hS.sends st hp.1 p he
    simp only [hc] at hsum
    unfold World.potential
    rw [World.set_committed]
    omega
  | @commit i k p H hc =>
    have he := h.pend i
    rw [hc] at he
    have hsum := w.sum_set g i ⟨k true, id, {}, false⟩
    have hcommit := hS.commits p he w.committed
    simp only [hc, hS.idle] at hsum
    refine Or.inl ?_
    unfold World.potential
    show f (p w.committed) + ∑ j, g ((w.set i ⟨k true, id, {}, false⟩).conns j).pending ≤ _
    omega
  | commitRefused hc => exact Or.inl (hkeeps (by rw [hc]))
  | rollback hc => exact Or.inl (hgone rfl)
  | uuid hc _ _ => exact Or.inl (hkeeps (by rw [hc]))
  | clock t hc => exact Or.inl (hkeeps (by rw [hc]))
  | abort i => exact Or.inl (hgone rfl)
  | close hc => exact Or.inl (hgone rfl)
  | closeFailed hc => exact Or.inl (hgone rfl)
  | @env s hE =>
    refine Or.inl ?_
    have henv := hS.env _ _ hE
    show f s + ∑ i, g (w.conns i).pending ≤ f w.committed + ∑ i, g (w.conns i).pending
    omega

end Transaction
