import Mathlib.Data.Fintype.Basic
import ParkingSystem.Library.Interleaving

/-!
# Running a Schedule

`advance` takes one step of one connection, where it can; a schedule says which connection
moves for how many steps. What a schedule computes is a run of the interleaved system, so a
bad interleaving is exhibited by running it.
-/

namespace Transaction

variable {ι σ κ τ ε α : Type}

namespace World

variable [DecidableEq ι]

/-! ## Schedules -/

section

variable [Fintype ι] [DecidableEq κ] (ρ : Regime σ τ) [∀ s n, Decidable (ρ.isFresh s n)]
  [∀ l v, Decidable (ρ.allowed l v)]

instance (w : World ι σ κ τ ε α) (i : ι) (L : List κ) : Decidable (w.Free i L) :=
  inferInstanceAs (Decidable (∀ j, j ≠ i → ∀ l ∈ L, l ∉ (w.conns j).held.locks))

instance (w : World ι σ κ τ ε α) (n : ℕ) : Decidable (w.Undrawn n) :=
  inferInstanceAs (Decidable (∀ j, n ∉ (w.conns j).held.ids))

/-- Send a statement. -/
def send (w : World ι σ κ τ ε α) (i : ι) (st : Statement σ κ τ) (k : Flush → Prog σ κ τ ε α)
    (c : Conn σ κ τ ε α) : Option (World ι σ κ τ ε α) :=
  if c.broken then some (w.set i { c with prog := k .pendingRollback })
  else if w.Free i st.locks ∧ ρ.allowed st.label (c.pending w.committed) then
    match st.check (c.pending w.committed) with
    | some r => some (w.set i { c with prog := k (.rejected r), broken := true })
    | none => some (w.set i
      { prog := k .done, pending := fun s => st.apply (c.pending s)
        held := c.held.lock st.locks, broken := false })
  else none

/-- One step of one connection: `n` is the identifier it may draw, `t` the time it may read. -/
def advance (i : ι) (n : ℕ) (t : ℤ) (w : World ι σ κ τ ε α) : Option (World ι σ κ τ ε α) :=
  let c := w.conns i
  match c.prog with
  | .ret a => some (w.set i ⟨.ret a, id, {}, false⟩)
  | .throw e => some (w.set i ⟨.throw e, id, {}, false⟩)
  | .read k =>
    some (w.set i { c with prog := k (if c.broken then none else some (c.pending w.committed)) })
  | .write st k => send ρ w i st k c
  | .commit k =>
    if c.broken then some (w.set i { c with prog := k false })
    else some { w.set i ⟨k true, id, {}, false⟩ with committed := c.pending w.committed }
  | .rollback k => some (w.set i ⟨k, id, {}, false⟩)
  | .uuid k =>
    if ρ.isFresh w.committed n ∧ w.Undrawn n then
      some (w.set i { c with prog := k n, held := c.held.draw n })
    else none
  | .clock k => some (w.set i { c with prog := k t })

/-- Two parties: number 0 and number 1. -/
def pair {β : Type} (b₀ b₁ : β) : Fin 2 → β
  | 0 => b₀
  | 1 => b₁

/-- Whether every party has returned. -/
def allReturned (w : World (Fin 2) σ κ τ ε α) : Bool :=
  (List.finRange 2).all fun i => (w.conns i).prog.result?.isSome

/-- A connection moves for some steps; step by step the identifiers on offer count up. -/
def burst (i : ι) (t : ℤ) : ℕ → ℕ → World ι σ κ τ ε α → Option (World ι σ κ τ ε α)
  | 0, _, w => some w
  | steps + 1, n, w => (advance ρ i n t w).bind (burst i t steps (n + 1))

/-- A schedule: which connection moves, for how many steps, at what time. -/
def runSchedule : List (ι × ℕ × ℤ) → ℕ → World ι σ κ τ ε α → Option (World ι σ κ τ ε α)
  | [], _, w => some w
  | (i, steps, t) :: rest, n, w => (burst ρ i t steps n w).bind (runSchedule rest (n + steps))

variable {ρ}

omit [∀ s n, Decidable (ρ.isFresh s n)] in
theorem send_step {w w' : World ι σ κ τ ε α} {i : ι} {st : Statement σ κ τ}
    {k : Flush → Prog σ κ τ ε α} {c : Conn σ κ τ ε α} (hc : w.conns i = { c with prog := .write st k })
    (h : send ρ w i st k c = some w') : Step ρ w w' := by
  obtain ⟨prog, pend, H, b⟩ := c
  unfold send at h
  split at h
  · cases h
    obtain rfl : b = true := ‹_›
    exact .refused hc
  · rename_i hb
    obtain rfl : b = false := by simpa using hb
    split at h
    · rename_i hgo
      split at h
      · cases h
        exact .rejected hc hgo.1 hgo.2 ‹_›
      · cases h
        exact .write hc hgo.1 hgo.2 ‹_›
    · cases h

/-- What `advance` computes is a step. -/
theorem advance_step {w w' : World ι σ κ τ ε α} {i : ι} {n : ℕ} {t : ℤ}
    (h : advance ρ i n t w = some w') : Step ρ w w' := by
  rcases hc : w.conns i with ⟨p, pend, H, b⟩
  unfold advance at h
  rw [hc] at h
  cases p with
  | ret a =>
    cases h
    exact .close hc
  | throw e =>
    cases h
    exact .closeFailed hc
  | read k =>
    cases h
    exact .read hc
  | write st k => exact send_step hc h
  | commit k =>
    dsimp only at h
    split at h
    · cases h
      obtain rfl : b = true := ‹_›
      exact .commitRefused hc
    · rename_i hb
      cases h
      obtain rfl : b = false := by simpa using hb
      exact .commit hc
  | rollback k =>
    cases h
    exact .rollback hc
  | uuid k =>
    dsimp only at h
    split at h
    · rename_i hn
      cases h
      exact .uuid hc hn.1 hn.2
    · cases h
  | clock k =>
    cases h
    exact .clock t hc

theorem burst_run {i : ι} {t : ℤ} {steps n : ℕ} {w w' : World ι σ κ τ ε α}
    (h : burst ρ i t steps n w = some w') : Run ρ w w' := by
  induction steps generalizing n w with
  | zero =>
    cases h
    exact .refl
  | succ steps ih =>
    obtain ⟨w₁, h₁, h₂⟩ := Option.bind_eq_some_iff.1 h
    exact .head (advance_step h₁) (ih h₂)

/-- **Soundness of the scheduler**: what a schedule computes is a run. -/
theorem runSchedule_run {sched : List (ι × ℕ × ℤ)} {n : ℕ} {w w' : World ι σ κ τ ε α}
    (h : runSchedule ρ sched n w = some w') : Run ρ w w' := by
  induction sched generalizing n w with
  | nil =>
    cases h
    exact .refl
  | cons x rest ih =>
    obtain ⟨w₁, h₁, h₂⟩ := Option.bind_eq_some_iff.1 h
    exact (burst_run h₁).trans (ih h₂)

end

/-! ## Under a condition on the whole system -/

section

variable [Fintype ι] [DecidableEq κ] (ρ : World ι σ κ τ ε α → Regime σ τ)
  [∀ w s n, Decidable ((ρ w).isFresh s n)] [∀ w l v, Decidable ((ρ w).allowed l v)]

/-- A connection moves for some steps, each under the condition of its moment. -/
def burstUnder (i : ι) (t : ℤ) : ℕ → ℕ → World ι σ κ τ ε α → Option (World ι σ κ τ ε α)
  | 0, _, w => some w
  | steps + 1, n, w => (advance (ρ w) i n t w).bind (burstUnder i t steps (n + 1))

variable {ρ}

theorem burstUnder_run {i : ι} {t : ℤ} {steps n : ℕ} {w w' : World ι σ κ τ ε α}
    (h : burstUnder ρ i t steps n w = some w') : RunUnder ρ w w' := by
  induction steps generalizing n w with
  | zero =>
    cases h
    exact .refl
  | succ steps ih =>
    obtain ⟨w₁, h₁, h₂⟩ := Option.bind_eq_some_iff.1 h
    exact .head (advance_step h₁) (ih h₂)

end

end World

end Transaction
