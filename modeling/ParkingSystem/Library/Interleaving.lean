import Mathlib.Data.List.Basic
import Mathlib.Logic.Function.Basic
import Mathlib.Logic.Relation
import ParkingSystem.Library.Transaction

/-!
# Interleaved Transactions

Any number of programs against one committed store, one node at a time.

## Visibility and locks

- READ COMMITTED: a query sees the committed store with the connection's own pending
  updates on top, whatever was committed since its last statement.
- A statement waits until nobody else holds one of its locks, and holds them until its
  transaction ends: row locks of an UPDATE or of FOR UPDATE, and the key locks of a unique
  index.
- The pending updates are applied to the store *as it is at the commit*: an UPDATE that
  writes absolute values overwrites what others committed before it took the row lock.
- A fresh identifier is one nobody uses or has drawn; drawing it is taking a lock on it.

## Rely and guarantee

`Safe R Q p` says that `p`, whose neighbours change the committed store only along `R`,
keeps `R` for its neighbours at each commit and ends in `Q`. `Ok.run` turns this into a
statement about every run of every family of programs.
-/

namespace Transaction

/-- What a transaction holds: locks, and identifiers it drew. -/
structure Held (κ : Type) where
  locks : List κ := []
  ids : List ℕ := []

namespace Held

variable {κ : Type}

/-- After taking the locks of a statement. -/
def lock (H : Held κ) (L : List κ) : Held κ := { H with locks := L ++ H.locks }

/-- After drawing an identifier. -/
def draw (H : Held κ) (n : ℕ) : Held κ := { H with ids := n :: H.ids }

@[simp] theorem lock_locks (H : Held κ) (L : List κ) : (H.lock L).locks = L ++ H.locks := rfl

@[simp] theorem lock_ids (H : Held κ) (L : List κ) : (H.lock L).ids = H.ids := rfl

@[simp] theorem draw_locks (H : Held κ) (n : ℕ) : (H.draw n).locks = H.locks := rfl

@[simp] theorem draw_ids (H : Held κ) (n : ℕ) : (H.draw n).ids = n :: H.ids := rfl

/-- No lock and no identifier in common. -/
structure Disjoint (H H' : Held κ) : Prop where
  locks : ∀ l ∈ H.locks, l ∉ H'.locks
  ids : ∀ n ∈ H.ids, n ∉ H'.ids

theorem Disjoint.symm {H H' : Held κ} (h : H.Disjoint H') : H'.Disjoint H where
  locks l hl' hl := h.locks l hl hl'
  ids n hn' hn := h.ids n hn hn'

theorem disjoint_empty_left (H : Held κ) : ({} : Held κ).Disjoint H where
  locks l hl := by simp at hl
  ids n hn := by simp at hn

theorem Disjoint.lock_left {H H' : Held κ} (h : H.Disjoint H') {L : List κ}
    (hL : ∀ l ∈ L, l ∉ H'.locks) : (H.lock L).Disjoint H' where
  locks l hl := by
    rcases List.mem_append.1 hl with hl | hl
    · exact hL l hl
    · exact h.locks l hl
  ids := h.ids

theorem Disjoint.draw_left {H H' : Held κ} (h : H.Disjoint H') {n : ℕ} (hn : n ∉ H'.ids) :
    (H.draw n).Disjoint H' where
  locks := h.locks
  ids m hm := by
    rcases List.mem_cons.1 hm with rfl | hm
    · exact hn
    · exact h.ids m hm

end Held

/-- One database connection: the program it still has to run, its uncommitted updates, what
it holds, whether its transaction is broken. -/
structure Conn (σ κ τ ε α : Type) where
  prog : Prog σ κ τ ε α
  pending : σ → σ
  held : Held κ
  broken : Bool

namespace Conn

variable {σ κ τ ε α : Type}

/-- A connection about to run `p`. -/
def fresh (p : Prog σ κ τ ε α) : Conn σ κ τ ε α :=
  { prog := p, pending := id, held := {}, broken := false }

end Conn

/-- A committed store and the connections open on it. -/
structure World (ι σ κ τ ε α : Type) where
  committed : σ
  conns : ι → Conn σ κ τ ε α

/-- What a run is taken under: which identifiers a store does not know, which statements the
condition on the run lets be sent (by label and view), and what the rest of the system may
commit in between. -/
structure Regime (σ τ : Type) where
  isFresh : σ → ℕ → Prop
  allowed : τ → σ → Prop
  env : σ → σ → Prop

variable {ι σ κ τ ε α β : Type}

namespace World

/-- A committed store, and a connection about to run each program. -/
def start (s : σ) (p : ι → Prog σ κ τ ε α) : World ι σ κ τ ε α :=
  { committed := s, conns := fun i => .fresh (p i) }

variable [DecidableEq ι]

/-- Replace one connection. -/
def set (w : World ι σ κ τ ε α) (i : ι) (c : Conn σ κ τ ε α) : World ι σ κ τ ε α :=
  { w with conns := Function.update w.conns i c }

@[simp] theorem set_committed (w : World ι σ κ τ ε α) (i : ι) (c : Conn σ κ τ ε α) :
    (w.set i c).committed = w.committed := rfl

@[simp] theorem set_conns_self (w : World ι σ κ τ ε α) (i : ι) (c : Conn σ κ τ ε α) :
    (w.set i c).conns i = c := by
  simp [set]

theorem set_conns_of_ne (w : World ι σ κ τ ε α) {i j : ι} (h : j ≠ i)
    (c : Conn σ κ τ ε α) : (w.set i c).conns j = w.conns j := by
  simp [set, h]

/-- Nobody but `i` holds one of the locks `L`. -/
def Free (w : World ι σ κ τ ε α) (i : ι) (L : List κ) : Prop :=
  ∀ j, j ≠ i → ∀ l ∈ L, l ∉ (w.conns j).held.locks

/-- No open transaction drew the identifier `n`. -/
def Undrawn (w : World ι σ κ τ ε α) (n : ℕ) : Prop := ∀ j, n ∉ (w.conns j).held.ids

/-- One step of the system. -/
inductive Step (ρ : Regime σ τ) : World ι σ κ τ ε α → World ι σ κ τ ε α → Prop where
  | read {w i k p H b} (h : w.conns i = ⟨.read k, p, H, b⟩) :
    Step ρ w (w.set i ⟨k (if b then none else some (p w.committed)), p, H, b⟩)
  | refused {w i st k p H} (h : w.conns i = ⟨.write st k, p, H, true⟩) :
    Step ρ w (w.set i ⟨k .pendingRollback, p, H, true⟩)
  | rejected {w i st k p H r} (h : w.conns i = ⟨.write st k, p, H, false⟩)
    (hfree : w.Free i st.locks) (ha : ρ.allowed st.label (p w.committed))
    (hc : st.check (p w.committed) = some r) :
    Step ρ w (w.set i ⟨k (.rejected r), p, H, true⟩)
  | write {w i st k p H} (h : w.conns i = ⟨.write st k, p, H, false⟩)
    (hfree : w.Free i st.locks) (ha : ρ.allowed st.label (p w.committed))
    (hc : st.check (p w.committed) = none) :
    Step ρ w (w.set i ⟨k .done, fun s => st.apply (p s), H.lock st.locks, false⟩)
  | commit {w i k p H} (h : w.conns i = ⟨.commit k, p, H, false⟩) :
    Step ρ w { w.set i ⟨k true, id, {}, false⟩ with committed := p w.committed }
  | commitRefused {w i k p H} (h : w.conns i = ⟨.commit k, p, H, true⟩) :
    Step ρ w (w.set i ⟨k false, p, H, true⟩)
  | rollback {w i k p H b} (h : w.conns i = ⟨.rollback k, p, H, b⟩) :
    Step ρ w (w.set i ⟨k, id, {}, false⟩)
  | uuid {w i k p H b n} (h : w.conns i = ⟨.uuid k, p, H, b⟩)
    (hn : ρ.isFresh w.committed n) (hfree : w.Undrawn n) :
    Step ρ w (w.set i ⟨k n, p, H.draw n, b⟩)
  | clock {w i k p H b} (t : ℤ) (h : w.conns i = ⟨.clock k, p, H, b⟩) :
    Step ρ w (w.set i ⟨k t, p, H, b⟩)
  /-- The store drops the connection (lost request, deadlock victim): its updates are gone. -/
  | abort (w i) : Step ρ w (w.set i ⟨.throw .aborted, id, {}, false⟩)
  /-- A finished program gives its connection back; what it left uncommitted is gone. -/
  | close {w i a p H b} (h : w.conns i = ⟨.ret a, p, H, b⟩) :
    Step ρ w (w.set i ⟨.ret a, id, {}, false⟩)
  | closeFailed {w i e p H b} (h : w.conns i = ⟨.throw e, p, H, b⟩) :
    Step ρ w (w.set i ⟨.throw e, id, {}, false⟩)
  /-- The rest of the system commits. -/
  | env {w s} (h : ρ.env w.committed s) : Step ρ w { w with committed := s }

/-- What is committed changes where a connection commits, and where the rest of the system does. -/
theorem Step.moves {ρ : Regime σ τ} {w w' : World ι σ κ τ ε α} (h : Step ρ w w') :
    w'.committed = w.committed ∨ (∃ i k p H, w.conns i = ⟨.commit k, p, H, false⟩ ∧
      w' = { w.set i ⟨k true, id, {}, false⟩ with committed := p w.committed }) ∨
      ρ.env w.committed w'.committed := by
  cases h with
  | @commit i k p H hc => exact Or.inr (Or.inl ⟨i, k, p, H, hc, rfl⟩)
  | env hE => exact Or.inr (Or.inr hE)
  | _ => exact Or.inl rfl

/-- A step under one condition is a step under another, as far as the rest of the system goes. -/
theorem Step.mono_env {ρ : Regime σ τ} {env : σ → σ → Prop} {w w' : World ι σ κ τ ε α}
    (h : Step ρ w w') (henv : ρ.env w.committed w'.committed → env w.committed w'.committed) :
    Step { ρ with env } w w' := by
  cases h with
  | read h => exact .read h
  | refused h => exact .refused h
  | rejected h hfree ha hc => exact .rejected h hfree ha hc
  | write h hfree ha hc => exact .write h hfree ha hc
  | commit h => exact .commit h
  | commitRefused h => exact .commitRefused h
  | rollback h => exact .rollback h
  | uuid h hn hfree => exact .uuid h hn hfree
  | clock t h => exact .clock t h
  | abort i => exact .abort w i
  | close h => exact .close h
  | closeFailed h => exact .closeFailed h
  | env hE => exact .env (henv hE)

/-- The connection `i` commits. -/
def Commits (i : ι) (w w' : World ι σ κ τ ε α) : Prop :=
  ∃ k p H, w.conns i = ⟨.commit k, p, H, false⟩ ∧
    w' = { w.set i ⟨k true, id, {}, false⟩ with committed := p w.committed }

/-- A run. -/
abbrev Run (ρ : Regime σ τ) : World ι σ κ τ ε α → World ι σ κ τ ε α → Prop :=
  Relation.ReflTransGen (Step ρ)

/-- A run under a condition that may look at the whole system. -/
abbrev RunUnder (ρ : World ι σ κ τ ε α → Regime σ τ) :
    World ι σ κ τ ε α → World ι σ κ τ ε α → Prop :=
  Relation.ReflTransGen fun w w' => Step (ρ w) w w'

end World

/-! ## Safe programs -/

/-- What a program ends with: its result, its uncommitted updates, whether its transaction is
broken, what it holds, and the committed store. -/
abbrev Post (σ κ ε α : Type) : Type :=
  Except (Exc ε) α → (σ → σ) → Bool → Held κ → σ → Prop

/-- How a program ends does not matter. -/
def anyEnd : Post σ κ ε α := fun _ _ _ _ _ => True

/-- A relation between committed stores, for a transaction that holds `H`. -/
abbrev Interference (σ κ : Type) : Type := Held κ → σ → σ → Prop

namespace Prog

section

variable (ρ : Regime σ τ) (R G : Interference σ κ)

/-- `Safe ρ R G Q p pend b H s`: run from a committed store `s` with pending updates `pend`,
between neighbours that change the committed store only along `R` of what it holds, the
program commits only along `G` of what it holds, and ends in `Q`. -/
def Safe (Q : Post σ κ ε α) : Prog σ κ τ ε α → (σ → σ) → Bool → Held κ → σ → Prop
  | .ret a, pend, b, H, s => ∀ s', R H s s' → Q (.ok a) pend b H s'
  | .throw e, pend, b, H, s => ∀ s', R H s s' → Q (.error e) pend b H s'
  | .read k, pend, b, H, s => ∀ s', R H s s' →
      (k (if b then none else some (pend s'))).Safe Q pend b H s'
  | .write st k, pend, b, H, s => ∀ s', R H s s' →
      (b = true → (k .pendingRollback).Safe Q pend b H s') ∧
      (b = false → ρ.allowed st.label (pend s') → ∀ r, st.check (pend s') = some r →
        (k (.rejected r)).Safe Q pend true H s') ∧
      (b = false → ρ.allowed st.label (pend s') → st.check (pend s') = none →
        (k .done).Safe Q (fun x => st.apply (pend x)) false (H.lock st.locks) s')
  | .commit k, pend, b, H, s => ∀ s', R H s s' →
      (b = true → (k false).Safe Q pend b H s') ∧
      (b = false → G H s' (pend s') ∧ (k true).Safe Q id false {} (pend s'))
  | .rollback k, _, _, H, s => ∀ s', R H s s' → k.Safe Q id false {} s'
  | .uuid k, pend, b, H, s => ∀ s' n, R H s s' → ρ.isFresh s' n →
      (k n).Safe Q pend b (H.draw n) s'
  | .clock k, pend, b, H, s => ∀ s' t, R H s s' → (k t).Safe Q pend b H s'

end

variable {ρ : Regime σ τ} {R G : Interference σ κ} {Q : Post σ κ ε α} {Q' : Post σ κ ε β}
  {pend : σ → σ} {b : Bool} {H : Held κ} {s s' : σ}

/-- Safety survives what the neighbours commit. -/
theorem Safe.stable (htrans : ∀ H s₁ s₂ s₃, R H s₁ s₂ → R H s₂ s₃ → R H s₁ s₃)
    {p : Prog σ κ τ ε α} (h : p.Safe ρ R G Q pend b H s) (hR : R H s s') :
    p.Safe ρ R G Q pend b H s' := by
  cases p with
  | uuid k => exact fun s'' n h' hn => h s'' n (htrans _ _ _ _ hR h') hn
  | clock k => exact fun s'' t h' => h s'' t (htrans _ _ _ _ hR h')
  | _ => exact fun s'' h' => h s'' (htrans _ _ _ _ hR h')

/-- Sequencing: the first part's postcondition is the second part's precondition. -/
theorem Safe.bind (hrefl : ∀ H s, R H s s) {p : Prog σ κ τ ε α} {f : α → Prog σ κ τ ε β}
    (h : p.Safe ρ R G Q pend b H s)
    (hok : ∀ a pend b H s, Q (.ok a) pend b H s → (f a).Safe ρ R G Q' pend b H s)
    (herr : ∀ e pend b H s, Q (.error e) pend b H s → Q' (.error e) pend b H s) :
    (p.bind f).Safe ρ R G Q' pend b H s := by
  induction p generalizing pend b H s with
  | ret a => exact hok a _ _ _ _ (h s (hrefl H s))
  | throw e => exact fun s' hR => herr e _ _ _ _ (h s' hR)
  | read k ih => exact fun s' hR => ih _ (h s' hR)
  | write st k ih =>
    intro s' hR
    obtain ⟨h₁, h₂, h₃⟩ := h s' hR
    exact ⟨fun hb => ih _ (h₁ hb), fun hb ha r hr => ih _ (h₂ hb ha r hr),
      fun hb ha hc => ih _ (h₃ hb ha hc)⟩
  | commit k ih =>
    intro s' hR
    obtain ⟨h₁, h₂⟩ := h s' hR
    exact ⟨fun hb => ih _ (h₁ hb), fun hb => ⟨(h₂ hb).1, ih _ (h₂ hb).2⟩⟩
  | rollback k ih => exact fun s' hR => ih (h s' hR)
  | uuid k ih => exact fun s' n hR hn => ih n (h s' n hR hn)
  | clock k ih => exact fun s' t hR => ih t (h s' t hR)

/-- Catching exceptions: `p.attempt` returns what `p` ended with. -/
theorem Safe.attempt {p : Prog σ κ τ ε α} (h : p.Safe ρ R G Q pend b H s) :
    p.attempt.Safe ρ R G (fun res pend b H s => ∃ r, res = .ok r ∧ Q r pend b H s)
      pend b H s := by
  induction p generalizing pend b H s with
  | ret a => exact fun s' hR => ⟨_, rfl, h s' hR⟩
  | throw e => exact fun s' hR => ⟨_, rfl, h s' hR⟩
  | read k ih => exact fun s' hR => ih _ (h s' hR)
  | write st k ih =>
    intro s' hR
    obtain ⟨h₁, h₂, h₃⟩ := h s' hR
    exact ⟨fun hb => ih _ (h₁ hb), fun hb ha r hr => ih _ (h₂ hb ha r hr),
      fun hb ha hc => ih _ (h₃ hb ha hc)⟩
  | commit k ih =>
    intro s' hR
    obtain ⟨h₁, h₂⟩ := h s' hR
    exact ⟨fun hb => ih _ (h₁ hb), fun hb => ⟨(h₂ hb).1, ih _ (h₂ hb).2⟩⟩
  | rollback k ih => exact fun s' hR => ih (h s' hR)
  | uuid k ih => exact fun s' n hR hn => ih n (h s' n hR hn)
  | clock k ih => exact fun s' t hR => ih t (h s' t hR)

/-- Weaken the postcondition. -/
theorem Safe.mono {Q' : Post σ κ ε α}
    (hQ : ∀ r pend b H s, Q r pend b H s → Q' r pend b H s) {p : Prog σ κ τ ε α}
    (h : p.Safe ρ R G Q pend b H s) : p.Safe ρ R G Q' pend b H s := by
  induction p generalizing pend b H s with
  | ret a => exact fun s' hR => hQ _ _ _ _ _ (h s' hR)
  | throw e => exact fun s' hR => hQ _ _ _ _ _ (h s' hR)
  | read k ih => exact fun s' hR => ih _ (h s' hR)
  | write st k ih =>
    intro s' hR
    obtain ⟨h₁, h₂, h₃⟩ := h s' hR
    exact ⟨fun hb => ih _ (h₁ hb), fun hb ha r hr => ih _ (h₂ hb ha r hr),
      fun hb ha hc => ih _ (h₃ hb ha hc)⟩
  | commit k ih =>
    intro s' hR
    obtain ⟨h₁, h₂⟩ := h s' hR
    exact ⟨fun hb => ih _ (h₁ hb), fun hb => ⟨(h₂ hb).1, ih _ (h₂ hb).2⟩⟩
  | rollback k ih => exact fun s' hR => ih (h s' hR)
  | uuid k ih => exact fun s' n hR hn => ih n (h s' n hR hn)
  | clock k ih => exact fun s' t hR => ih t (h s' t hR)

/-- **Invariant rule**: what every statement of a part of a transaction keeps, and what the
neighbours do not disturb, still holds at its end. -/
theorem WritesOnly.safe_of {P : Statement σ κ τ → Prop}
    {I : (σ → σ) → Bool → Held κ → σ → Prop}
    (hstable : ∀ pend b H s s', I pend b H s → R H s s' → I pend b H s')
    (hdraw : ∀ pend b H s n, I pend b H s → I pend b (H.draw n) s)
    (hreject : ∀ pend b H s, I pend b H s → I pend true H s)
    (hstep : ∀ st pend H s, P st → I pend false H s →
      I (fun x => st.apply (pend x)) false (H.lock st.locks) s)
    {p : Prog σ κ τ ε α} (h : p.WritesOnly P) (hI : I pend b H s) :
    p.Safe ρ R G (fun _ pend b H s => I pend b H s) pend b H s := by
  induction p generalizing pend b H s with
  | ret a => exact fun s' hR => hstable _ _ _ _ _ hI hR
  | throw e => exact fun s' hR => hstable _ _ _ _ _ hI hR
  | read k ih => exact fun s' hR => ih _ (h _) (hstable _ _ _ _ _ hI hR)
  | write st k ih =>
    intro s' hR
    have hI' := hstable _ _ _ _ _ hI hR
    refine ⟨fun _ => ih _ (h.2 _) hI', fun _ _ r _ => ih _ (h.2 _) (hreject _ _ _ _ hI'),
      fun hb _ _ => ih _ (h.2 _) (hstep st _ _ _ h.1 ?_)⟩
    exact hb ▸ hI'
  | commit k ih => exact h.elim
  | rollback k ih => exact h.elim
  | uuid k ih =>
    exact fun s' n hR _ => ih n (h n) (hdraw _ _ _ _ n (hstable _ _ _ _ _ hI hR))
  | clock k ih => exact fun s' t hR => ih t (h t) (hstable _ _ _ _ _ hI hR)

/-- **Frame rule**: a fact that neither the neighbours nor the program's own commits disturb
is carried along. -/
theorem Safe.carry {F : σ → Prop} (hFR : ∀ H s s', R H s s' → F s → F s')
    (hFG : ∀ H s s', G H s s' → F s → F s') {p : Prog σ κ τ ε α}
    (h : p.Safe ρ R G Q pend b H s) (hF : F s) :
    p.Safe ρ R G (fun r pend b H s => Q r pend b H s ∧ F s) pend b H s := by
  induction p generalizing pend b H s with
  | ret a => exact fun s' hR => ⟨h s' hR, hFR _ _ _ hR hF⟩
  | throw e => exact fun s' hR => ⟨h s' hR, hFR _ _ _ hR hF⟩
  | read k ih => exact fun s' hR => ih _ (h s' hR) (hFR _ _ _ hR hF)
  | write st k ih =>
    intro s' hR
    obtain ⟨h₁, h₂, h₃⟩ := h s' hR
    have hF' := hFR _ _ _ hR hF
    exact ⟨fun hb => ih _ (h₁ hb) hF', fun hb ha r hr => ih _ (h₂ hb ha r hr) hF',
      fun hb ha hc => ih _ (h₃ hb ha hc) hF'⟩
  | commit k ih =>
    intro s' hR
    obtain ⟨h₁, h₂⟩ := h s' hR
    have hF' := hFR _ _ _ hR hF
    exact ⟨fun hb => ih _ (h₁ hb) hF',
      fun hb => ⟨(h₂ hb).1, ih _ (h₂ hb).2 (hFG _ _ _ (h₂ hb).1 hF')⟩⟩
  | rollback k ih => exact fun s' hR => ih (h s' hR) (hFR _ _ _ hR hF)
  | uuid k ih => exact fun s' n hR hn => ih n (h s' n hR hn) (hFR _ _ _ hR hF)
  | clock k ih => exact fun s' t hR => ih t (h s' t hR) (hFR _ _ _ hR hF)

/-- What a program may return is part of its postcondition. -/
theorem Returns.safe {P : α → Prop} {p : Prog σ κ τ ε α} (hp : p.Returns P)
    (h : p.Safe ρ R G Q pend b H s) :
    p.Safe ρ R G (fun r pend b H s => Q r pend b H s ∧ ∀ a, r = .ok a → P a) pend b H s := by
  induction p generalizing pend b H s with
  | ret a =>
    refine fun s' hR => ⟨h s' hR, fun a' ha' => ?_⟩
    cases ha'
    exact hp
  | throw e => exact fun s' hR => ⟨h s' hR, fun _ ha' => by cases ha'⟩
  | read k ih => exact fun s' hR => ih _ (hp _) (h s' hR)
  | write st k ih =>
    intro s' hR
    obtain ⟨h₁, h₂, h₃⟩ := h s' hR
    exact ⟨fun hb => ih _ (hp _) (h₁ hb), fun hb ha r hr => ih _ (hp _) (h₂ hb ha r hr),
      fun hb ha hc => ih _ (hp _) (h₃ hb ha hc)⟩
  | commit k ih =>
    intro s' hR
    obtain ⟨h₁, h₂⟩ := h s' hR
    exact ⟨fun hb => ih _ (hp _) (h₁ hb), fun hb => ⟨(h₂ hb).1, ih _ (hp _) (h₂ hb).2⟩⟩
  | rollback k ih => exact fun s' hR => ih hp (h s' hR)
  | uuid k ih => exact fun s' n hR hn => ih n (hp n) (h s' n hR hn)
  | clock k ih => exact fun s' t hR => ih t (hp t) (h s' t hR)

/-- What a program may raise is part of its postcondition. -/
theorem Raises.safe {P : Exc ε → Prop} {p : Prog σ κ τ ε α} (hp : p.Raises P)
    (h : p.Safe ρ R G Q pend b H s) :
    p.Safe ρ R G (fun r pend b H s => Q r pend b H s ∧ ∀ e, r = .error e → P e) pend b H s := by
  induction p generalizing pend b H s with
  | ret a => exact fun s' hR => ⟨h s' hR, fun _ he => by cases he⟩
  | throw e =>
    refine fun s' hR => ⟨h s' hR, fun e' he' => ?_⟩
    cases he'
    exact hp
  | read k ih => exact fun s' hR => ih _ (hp _) (h s' hR)
  | write st k ih =>
    intro s' hR
    obtain ⟨h₁, h₂, h₃⟩ := h s' hR
    exact ⟨fun hb => ih _ hp.1 (h₁ hb), fun hb ha r hr => ih _ (hp.2.2 _ r hr) (h₂ hb ha r hr),
      fun hb ha hc => ih _ hp.2.1 (h₃ hb ha hc)⟩
  | commit k ih =>
    intro s' hR
    obtain ⟨h₁, h₂⟩ := h s' hR
    exact ⟨fun hb => ih _ (hp _) (h₁ hb), fun hb => ⟨(h₂ hb).1, ih _ (hp _) (h₂ hb).2⟩⟩
  | rollback k ih => exact fun s' hR => ih hp (h s' hR)
  | uuid k ih => exact fun s' n hR hn => ih n (hp n) (h s' n hR hn)
  | clock k ih => exact fun s' t hR => ih t (hp t) (h s' t hR)

/-- What a handler of integrity errors needs from the body. -/
def caught (ρ : Regime σ τ) (R G : Interference σ κ) (Q : Post σ κ ε α)
    (handler : Prog σ κ τ ε α) : Post σ κ ε α
  | .error (.rejected .integrity), pend, b, H, s => handler.Safe ρ R G Q pend b H s
  | r, pend, b, H, s => Q r pend b H s

/-- Catching integrity errors. -/
theorem Safe.onIntegrity (hrefl : ∀ H s, R H s s) {body handler : Prog σ κ τ ε α}
    (h : body.Safe ρ R G (caught ρ R G Q handler) pend b H s) :
    (Prog.onIntegrity body handler).Safe ρ R G Q pend b H s := by
  unfold Prog.onIntegrity
  induction body generalizing pend b H s with
  | ret a => exact h
  | throw e =>
    cases e with
    | rejected r =>
      cases r with
      | integrity => exact h s (hrefl H s)
      | data => exact h
    | _ => exact h
  | read k ih => exact fun s' hR => ih _ (h s' hR)
  | write st k ih =>
    intro s' hR
    obtain ⟨h₁, h₂, h₃⟩ := h s' hR
    exact ⟨fun hb => ih _ (h₁ hb), fun hb ha r hr => ih _ (h₂ hb ha r hr),
      fun hb ha hc => ih _ (h₃ hb ha hc)⟩
  | commit k ih =>
    intro s' hR
    obtain ⟨h₁, h₂⟩ := h s' hR
    exact ⟨fun hb => ih _ (h₁ hb), fun hb => ⟨(h₂ hb).1, ih _ (h₂ hb).2⟩⟩
  | rollback k ih => exact fun s' hR => ih (h s' hR)
  | uuid k ih => exact fun s' n hR hn => ih n (h s' n hR hn)
  | clock k ih => exact fun s' t hR => ih t (h s' t hR)

/-! ### Rules for the primitives

A query and a flush on a broken transaction raise, and so does a rejected flush. -/

theorem safe_ret {a : α} (h : ∀ s', R H s s' → Q (.ok a) pend b H s') :
    (ret a : Prog σ κ τ ε α).Safe ρ R G Q pend b H s := h

theorem safe_throw {e : Exc ε} (h : ∀ s', R H s s' → Q (.error e) pend b H s') :
    (throw e : Prog σ κ τ ε α).Safe ρ R G Q pend b H s := h

theorem safe_select {f : σ → α} {k : α → Prog σ κ τ ε β}
    (herr : b = true → ∀ s' s'', R H s s' → R H s' s'' →
      Q' (.error .pendingRollback) pend true H s'')
    (h : b = false → ∀ s', R H s s' → (k (f (pend s'))).Safe ρ R G Q' pend b H s') :
    ((select f).bind k).Safe ρ R G Q' pend b H s := by
  intro s' hR
  cases b with
  | true => exact fun s'' hR' => herr rfl s' s'' hR hR'
  | false => exact h rfl s' hR

theorem safe_flush {st : Statement σ κ τ} {k : Unit → Prog σ κ τ ε β}
    (hbroken : b = true → ∀ s' s'', R H s s' → R H s' s'' →
      Q' (.error .pendingRollback) pend true H s'')
    (hrej : b = false → ∀ r s' s'', R H s s' → R H s' s'' → ρ.allowed st.label (pend s') →
      st.check (pend s') = some r → Q' (.error (.rejected r)) pend true H s'')
    (h : b = false → ∀ s', R H s s' → ρ.allowed st.label (pend s') →
      st.check (pend s') = none →
      (k ()).Safe ρ R G Q' (fun x => st.apply (pend x)) false (H.lock st.locks) s') :
    ((flush st).bind k).Safe ρ R G Q' pend b H s :=
  fun s' hR => ⟨fun hb s'' hR' => hb ▸ hbroken hb s' s'' hR hR',
    fun hb ha r hr s'' hR' => hrej hb r s' s'' hR hR' ha hr, fun hb => h hb s' hR⟩

theorem safe_newId {k : ℕ → Prog σ κ τ ε β}
    (h : ∀ s' n, R H s s' → ρ.isFresh s' n → (k n).Safe ρ R G Q' pend b (H.draw n) s') :
    ((newId : Prog σ κ τ ε ℕ).bind k).Safe ρ R G Q' pend b H s := h

theorem safe_getTime {k : ℤ → Prog σ κ τ ε β}
    (h : ∀ s' t, R H s s' → (k t).Safe ρ R G Q' pend b H s') :
    ((getTime : Prog σ κ τ ε ℤ).bind k).Safe ρ R G Q' pend b H s := h

theorem safe_commit {k : Unit → Prog σ κ τ ε β}
    (herr : b = true → ∀ s' s'', R H s s' → R H s' s'' →
      Q' (.error .pendingRollback) pend true H s'')
    (h : b = false → ∀ s', R H s s' →
      G H s' (pend s') ∧ (k ()).Safe ρ R G Q' id false {} (pend s')) :
    ((commitTx : Prog σ κ τ ε Unit).bind k).Safe ρ R G Q' pend b H s :=
  fun s' hR => ⟨fun hb s'' hR' => hb ▸ herr hb s' s'' hR hR', fun hb => h hb s' hR⟩

/-- A commit that ends the program. -/
theorem safe_commit_last {Q : Post σ κ ε Unit}
    (herr : b = true → ∀ s' s'', R H s s' → R H s' s'' →
      Q (.error .pendingRollback) pend true H s'')
    (h : b = false → ∀ s', R H s s' →
      G H s' (pend s') ∧ ∀ s'', R {} (pend s') s'' → Q (.ok ()) id false {} s'') :
    (commitTx : Prog σ κ τ ε Unit).Safe ρ R G Q pend b H s :=
  fun s' hR => ⟨fun hb s'' hR' => hb ▸ herr hb s' s'' hR hR', fun hb => h hb s' hR⟩

theorem safe_rollback {k : Unit → Prog σ κ τ ε β}
    (h : ∀ s', R H s s' → (k ()).Safe ρ R G Q' id false {} s') :
    ((rollbackTx : Prog σ κ τ ε Unit).bind k).Safe ρ R G Q' pend b H s := h

/-- A part that only queries: the continuation starts from some related store, with whatever
the part returned. -/
theorem ReadOnly.safe_bind (hrefl : ∀ H s, R H s s)
    (htrans : ∀ H s₁ s₂ s₃, R H s₁ s₂ → R H s₂ s₃ → R H s₁ s₃)
    {p : Prog σ κ τ ε α} (hp : p.ReadOnly) {k : α → Prog σ κ τ ε β}
    (hids : ∀ H n s s', R (H.draw n) s s' → R H s s')
    (herr : ∀ e H' s', R H s s' → H'.locks = H.locks → Q' (.error e) pend b H' s')
    (h : ∀ a H' s', R H s s' → H'.locks = H.locks → H.ids ⊆ H'.ids →
      (k a).Safe ρ R G Q' pend b H' s') :
    (p.bind k).Safe ρ R G Q' pend b H s := by
  induction p generalizing H s with
  | ret a => exact h a H s (hrefl H s) rfl fun _ hn => hn
  | throw e => exact fun s' hR => herr e H s' hR rfl
  | read k ih =>
    exact fun s' hR => ih _ (hp _) (fun e H' s'' hR' => herr e H' s'' (htrans _ _ _ _ hR hR'))
      fun a H' s'' hR' => h a H' s'' (htrans _ _ _ _ hR hR')
  | write st k ih => exact hp.1.elim
  | commit k ih => exact hp.elim
  | rollback k ih => exact hp.elim
  | uuid k ih =>
    intro s' n hR _
    have hdraw {s''} (hR' : R (H.draw n) s' s'') : R H s s'' :=
      htrans _ _ _ _ hR (hids _ _ _ _ hR')
    exact ih n (hp n) (fun e H' s'' hR' hl => herr e H' s'' (hdraw hR') hl)
      fun a H' s'' hR' hl hi => h a H' s'' (hdraw hR') hl
        fun m hm => hi (List.mem_cons_of_mem _ hm)
  | clock k ih =>
    exact fun s' t hR => ih t (hp t)
      (fun e H' s'' hR' => herr e H' s'' (htrans _ _ _ _ hR hR'))
      fun a H' s'' hR' => h a H' s'' (htrans _ _ _ _ hR hR')

/-- A program all of whose statements keep the shape of what is pending, where whatever has the
shape may be committed. -/
theorem AllWrites.safe {P : Statement σ κ τ → Prop} {E : (σ → σ) → Prop} (hid : E id)
    (hst : ∀ st, P st → ∀ p, E p → E fun s => st.apply (p s))
    (hG : ∀ p, E p → ∀ H s, G H s (p s)) {p : Prog σ κ τ ε α} (h : p.AllWrites P)
    (hpend : E pend) : p.Safe ρ R G anyEnd pend b H s := by
  induction p generalizing pend b H s with
  | ret a => exact fun _ _ => trivial
  | throw e => exact fun _ _ => trivial
  | read k ih => exact fun _ _ => ih _ (h _) hpend
  | write st k ih =>
    exact fun _ _ => ⟨fun _ => ih _ (h.2 _) hpend, fun _ _ _ _ => ih _ (h.2 _) hpend,
      fun _ _ _ => ih _ (h.2 _) (hst st h.1 _ hpend)⟩
  | commit k ih =>
    exact fun _ _ => ⟨fun _ => ih _ (h _) hpend, fun _ => ⟨hG _ hpend _ _, ih _ (h _) hid⟩⟩
  | rollback k ih => exact fun _ _ => ih h hid
  | uuid k ih => exact fun _ n _ _ => ih n (h n) hpend
  | clock k ih => exact fun _ t _ => ih t (h t) hpend

/-! ### Safe programs run alone -/

/-- A safe program that runs alone ends in its postcondition, moves the committed store along
every preorder that contains its guarantee, and leaves every identifier it did not draw
fresh. -/
theorem Safe.exec (hrefl : ∀ H s, R H s s) (hallowed : ∀ l v, ρ.allowed l v)
    (hids : ∀ H s s', G H s s' → ∀ n, n ∉ H.ids → ρ.isFresh s n → ρ.isFresh s' n)
    {T : σ → σ → Prop} (hTrefl : ∀ s, T s s) (hTtrans : ∀ s₁ s₂ s₃, T s₁ s₂ → T s₂ s₃ → T s₁ s₃)
    (hGT : ∀ H s s', G H s s' → T s s') (clk : ℕ → ℤ) {p : Prog σ κ τ ε α} {w : Session σ}
    (h : p.Safe ρ R G Q pend b H w.committed) (hview : w.view = pend w.committed)
    (hb : w.broken = b) (hH : ∀ n ∈ H.ids, n < w.nextId)
    (hfresh : ∀ n, w.nextId ≤ n → ρ.isFresh w.committed n) :
    (∃ pend' H', Q (p.exec clk w).1 pend' (p.exec clk w).2.broken H' (p.exec clk w).2.committed) ∧
      T w.committed (p.exec clk w).2.committed ∧
      ∀ n, (p.exec clk w).2.nextId ≤ n → ρ.isFresh (p.exec clk w).2.committed n := by
  induction p generalizing w pend b H with
  | ret a => exact ⟨⟨pend, H, hb ▸ h _ (hrefl _ _)⟩, hTrefl _, hfresh⟩
  | throw e => exact ⟨⟨pend, H, hb ▸ h _ (hrefl _ _)⟩, hTrefl _, hfresh⟩
  | read k ih =>
    have hk := h _ (hrefl _ _)
    simp only [Prog.exec_read, hview, hb]
    exact ih _ hk hview hb hH hfresh
  | write st k ih =>
    obtain ⟨h₁, h₂, h₃⟩ := h _ (hrefl _ _)
    rw [← hview] at h₂ h₃
    simp only [Prog.exec_write]
    split
    · exact ih _ (h₁ (hb ▸ ‹_›)) hview hb hH hfresh
    · rename_i hlive
      have hb' : b = false := by rw [← hb]; simpa using hlive
      split
      · exact @ih _ _ _ _ { w with view := st.apply w.view }
          (h₃ hb' (hallowed _ _) ‹_›) (congrArg st.apply hview) (hb.trans hb') hH hfresh
      · exact @ih _ _ _ _ { w with broken := true } (h₂ hb' (hallowed _ _) _ ‹_›) hview rfl hH hfresh
  | commit k ih =>
    obtain ⟨h₁, h₂⟩ := h _ (hrefl _ _)
    simp only [Prog.exec_commit]
    split
    · exact ih _ (h₁ (hb ▸ ‹_›)) hview hb hH hfresh
    · rename_i hlive
      have hb' : b = false := by rw [← hb]; simpa using hlive
      obtain ⟨hG, hk⟩ := h₂ hb'
      rw [← hview] at hG hk
      have hnot : ∀ n, w.nextId ≤ n → n ∉ H.ids := fun n hn hmem =>
        absurd (hH n hmem) (by omega)
      obtain ⟨hQ, hT, hF⟩ := @ih _ _ _ _ { w with committed := w.view } hk rfl
        (hb.trans hb') (by simp) fun n hn => hids _ _ _ hG n (hnot n hn) (hfresh n hn)
      exact ⟨hQ, hTtrans _ _ _ (hGT _ _ _ hG) hT, hF⟩
  | rollback k ih =>
    exact @ih _ _ _ { w with view := w.committed, broken := false } (h _ (hrefl _ _)) rfl rfl
      (by simp) hfresh
  | uuid k ih =>
    refine @ih _ _ _ _ { w with nextId := w.nextId + 1 }
      (h _ w.nextId (hrefl _ _) (hfresh _ (Nat.le_refl _))) hview hb (fun n hn => ?_)
      fun n hn => hfresh n (by simp only at hn; omega)
    rcases List.mem_cons.1 hn with rfl | hn
    · exact Nat.lt_succ_self _
    · exact Nat.lt_succ_of_lt (hH n hn)
  | clock k ih =>
    exact @ih _ _ _ _ { w with tick := w.tick + 1 } (h _ _ (hrefl _ _)) hview hb hH hfresh

end Prog

/-! ## Every run of safe programs -/

namespace World

variable {ρ : Regime σ τ} {R G : Interference σ κ} {Q : ι → Post σ κ ε α}

/-- What a rely, a guarantee and a family of postconditions must satisfy to be used
together: the rely is a preorder that the rest of the system and every disjoint transaction
respect, and the postconditions hold of a dropped connection and survive closing a finished
one. -/
structure Contract (ρ : Regime σ τ) (R G : Interference σ κ) (Q : ι → Post σ κ ε α) : Prop where
  refl : ∀ H s, R H s s
  trans : ∀ H s₁ s₂ s₃, R H s₁ s₂ → R H s₂ s₃ → R H s₁ s₃
  env : ∀ s s', ρ.env s s' → ∀ H, R H s s'
  guarantee : ∀ H H' s s', H.Disjoint H' → G H s s' → R H' s s'
  aborted : ∀ i s, Q i (.error .aborted) id false {} s
  closed : ∀ i r pend b H s s', Q i r pend b H s → R {} s s' → Q i r id false {} s'

section

variable {G : ι → Interference σ κ}

/-- What one of the connections guarantees. -/
def guarantees (G : ι → Interference σ κ) : Interference σ κ := fun H s s' => ∃ i, G i H s s'

/-- Every connection runs a program that is safe under a guarantee of its own, and nothing is held
twice. -/
structure OkEach (ρ : Regime σ τ) (R : Interference σ κ) (G : ι → Interference σ κ)
    (Q : ι → Post σ κ ε α) (w : World ι σ κ τ ε α) : Prop where
  safe : ∀ i, (w.conns i).prog.Safe ρ R (G i) (Q i) (w.conns i).pending (w.conns i).broken
    (w.conns i).held w.committed
  apart : ∀ i j, i ≠ j → (w.conns i).held.Disjoint (w.conns j).held

/-- Fresh connections hold nothing. -/
theorem OkEach.init {s : σ} {p : ι → Prog σ κ τ ε α}
    (h : ∀ i, (p i).Safe ρ R (G i) (Q i) id false {} s) : OkEach ρ R G Q (start s p) where
  safe := h
  apart _ _ _ := Held.disjoint_empty_left _

/-- A change of the committed store that every connection tolerates. -/
theorem OkEach.commit (htrans : ∀ H s₁ s₂ s₃, R H s₁ s₂ → R H s₂ s₃ → R H s₁ s₃)
    {w : World ι σ κ τ ε α} (h : OkEach ρ R G Q w) {s : σ}
    (hs : ∀ i, R (w.conns i).held w.committed s) : OkEach ρ R G Q { w with committed := s } where
  safe i := (h.safe i).stable htrans (hs i)
  apart := h.apart

variable [DecidableEq ι]

/-- Replacing a connection by a safe one that holds nothing of the others'. -/
theorem OkEach.set {w : World ι σ κ τ ε α} (h : OkEach ρ R G Q w) {i : ι} {c : Conn σ κ τ ε α}
    (hs : c.prog.Safe ρ R (G i) (Q i) c.pending c.broken c.held w.committed)
    (hl : ∀ j, j ≠ i → c.held.Disjoint (w.conns j).held) : OkEach ρ R G Q (w.set i c) where
  safe j := by
    rcases eq_or_ne j i with rfl | hj
    · simpa using hs
    · simpa [set_conns_of_ne w hj] using h.safe j
  apart j k hjk := by
    rcases eq_or_ne j i with rfl | hj
    · rw [set_conns_self, set_conns_of_ne w hjk.symm]
      exact hl k hjk.symm
    · rcases eq_or_ne k i with rfl | hk
      · rw [set_conns_self, set_conns_of_ne w hj]
        exact (hl j hj).symm
      · rw [set_conns_of_ne w hj, set_conns_of_ne w hk]
        exact h.apart j k hjk

/-- One step keeps every connection safe, and changes the committed store only along `R`. -/
theorem OkEach.step (hC : Contract ρ R (guarantees G) Q) {w w' : World ι σ κ τ ε α} (h : OkEach ρ R G Q w)
    (hstep : Step ρ w w') : OkEach ρ R G Q w' ∧ R {} w.committed w'.committed := by
  cases hstep with
  | @read i k p H b hc =>
    have hs := h.safe i
    have hl := h.apart i
    rw [hc] at hs hl
    exact ⟨h.set (hs _ (hC.refl _ _)) fun j hj => hl j hj.symm, hC.refl _ _⟩
  | @refused i st k p H hc =>
    have hs := h.safe i
    have hl := h.apart i
    rw [hc] at hs hl
    exact ⟨h.set ((hs _ (hC.refl _ _)).1 rfl) fun j hj => hl j hj.symm, hC.refl _ _⟩
  | @rejected i st k p H r hc _ ha hr =>
    have hs := h.safe i
    have hl := h.apart i
    rw [hc] at hs hl
    exact ⟨h.set ((hs _ (hC.refl _ _)).2.1 rfl ha r hr) fun j hj => hl j hj.symm, hC.refl _ _⟩
  | @write i st k p H hc hfree ha hn =>
    have hs := h.safe i
    have hl := h.apart i
    rw [hc] at hs hl
    exact ⟨h.set ((hs _ (hC.refl _ _)).2.2 rfl ha hn) fun j hj =>
      (hl j hj.symm).lock_left (hfree j hj), hC.refl _ _⟩
  | @commit i k p H hc =>
    have hs := h.safe i
    have hl := h.apart i
    rw [hc] at hs hl
    obtain ⟨hG, hk⟩ := (hs _ (hC.refl _ _)).2 rfl
    refine ⟨⟨fun j => ?_, fun j l hjl => ?_⟩,
      hC.guarantee _ _ _ _ (Held.disjoint_empty_left _).symm ⟨i, hG⟩⟩
    · rcases eq_or_ne j i with rfl | hj
      · simpa using hk
      · -- the neighbours hold nothing of what the committed transaction held
        have hstable := (h.safe j).stable hC.trans (hC.guarantee _ _ _ _ (hl j hj.symm) ⟨i, hG⟩)
        simpa [set_conns_of_ne w hj] using hstable
    · rcases eq_or_ne j i with rfl | hj
      · simpa using Held.disjoint_empty_left _
      · rcases eq_or_ne l i with rfl | hl'
        · simpa using (Held.disjoint_empty_left _).symm
        · simpa [set_conns_of_ne w hj, set_conns_of_ne w hl'] using h.apart j l hjl
  | @commitRefused i k p H hc =>
    have hs := h.safe i
    have hl := h.apart i
    rw [hc] at hs hl
    exact ⟨h.set ((hs _ (hC.refl _ _)).1 rfl) fun j hj => hl j hj.symm, hC.refl _ _⟩
  | @rollback i k p H b hc =>
    have hs := h.safe i
    rw [hc] at hs
    exact ⟨h.set (hs _ (hC.refl _ _)) fun j _ => Held.disjoint_empty_left _, hC.refl _ _⟩
  | @uuid i k p H b n hc hn hfree =>
    have hs := h.safe i
    have hl := h.apart i
    rw [hc] at hs hl
    exact ⟨h.set (hs _ n (hC.refl _ _) hn) fun j hj =>
      (hl j hj.symm).draw_left (hfree j), hC.refl _ _⟩
  | @clock i k p H b t hc =>
    have hs := h.safe i
    have hl := h.apart i
    rw [hc] at hs hl
    exact ⟨h.set (hs _ t (hC.refl _ _)) fun j hj => hl j hj.symm, hC.refl _ _⟩
  | abort i =>
    exact ⟨h.set (fun s hR => hC.closed _ _ _ _ _ _ _ (hC.aborted i s) (hC.refl _ _)) fun j _ =>
      Held.disjoint_empty_left _, hC.refl _ _⟩
  | @close i a p H b hc =>
    have hs := h.safe i
    rw [hc] at hs
    refine ⟨h.set (fun s hR => ?_) fun j _ => Held.disjoint_empty_left _, hC.refl _ _⟩
    exact hC.closed _ _ _ _ _ _ _ (hs _ (hC.refl _ _)) hR
  | @closeFailed i e p H b hc =>
    have hs := h.safe i
    rw [hc] at hs
    refine ⟨h.set (fun s hR => ?_) fun j _ => Held.disjoint_empty_left _, hC.refl _ _⟩
    exact hC.closed _ _ _ _ _ _ _ (hs _ (hC.refl _ _)) hR
  | @env s hE =>
    exact ⟨h.commit hC.trans fun i => hC.env _ _ hE _, hC.env _ _ hE _⟩

omit [DecidableEq ι] in
/-- A connection commits what its guarantee says. -/
theorem OkEach.commits (hrefl : ∀ H s, R H s s) {w : World ι σ κ τ ε α} (h : OkEach ρ R G Q w) {i : ι}
    {k : Bool → Prog σ κ τ ε α} {p : σ → σ} {H : Held κ} (hc : w.conns i = ⟨.commit k, p, H, false⟩) :
    G i H w.committed (p w.committed) := by
  have hs := h.safe i
  rw [hc] at hs
  exact ((hs _ (hrefl _ _)).2 rfl).1

end

/-- Every connection runs a safe program, and nothing is held twice. -/
structure Ok (ρ : Regime σ τ) (R G : Interference σ κ) (Q : ι → Post σ κ ε α)
    (w : World ι σ κ τ ε α) : Prop where
  safe : ∀ i, (w.conns i).prog.Safe ρ R G (Q i) (w.conns i).pending (w.conns i).broken
    (w.conns i).held w.committed
  apart : ∀ i j, i ≠ j → (w.conns i).held.Disjoint (w.conns j).held

/-- Fresh connections hold nothing. -/
theorem Ok.init {s : σ} {p : ι → Prog σ κ τ ε α}
    (h : ∀ i, (p i).Safe ρ R G (Q i) id false {} s) : Ok ρ R G Q (start s p) where
  safe := h
  apart _ _ _ := Held.disjoint_empty_left _

/-- The connections have one guarantee. -/
theorem ok_iff_okEach {w : World ι σ κ τ ε α} : Ok ρ R G Q w ↔ OkEach ρ R (fun _ => G) Q w :=
  ⟨fun h => ⟨h.safe, h.apart⟩, fun h => ⟨h.safe, h.apart⟩⟩

variable [DecidableEq ι]

/-- One step keeps every connection safe, and changes the committed store only along `R`. -/
theorem Ok.step (hC : Contract ρ R G Q) {w w' : World ι σ κ τ ε α} (h : Ok ρ R G Q w)
    (hstep : Step ρ w w') : Ok ρ R G Q w' ∧ R {} w.committed w'.committed := by
  have hguarantee (H H' : Held κ) (s s' : σ) (hd : H.Disjoint H')
      (hG : guarantees (fun _ : ι => G) H s s') : R H' s s' := by
    obtain ⟨_, hG⟩ := hG
    exact hC.guarantee H H' s s' hd hG
  have hC' : Contract ρ R (guarantees fun _ : ι => G) Q := { hC with guarantee := hguarantee }
  obtain ⟨hok, hR⟩ := (ok_iff_okEach.1 h).step hC' hstep
  exact ⟨ok_iff_okEach.2 hok, hR⟩

omit [DecidableEq ι] in
/-- What a connection returned meets its postcondition. -/
theorem Ok.returned (hC : Contract ρ R G Q) {w : World ι σ κ τ ε α} (h : Ok ρ R G Q w) {i : ι}
    {a : α} (ha : (w.conns i).prog.result? = some a) :
    Q i (.ok a) (w.conns i).pending (w.conns i).broken (w.conns i).held w.committed := by
  have hs := h.safe i
  cases hp : (w.conns i).prog with
  | ret a' =>
    rw [hp] at hs ha
    cases ha
    exact hs _ (hC.refl _ _)
  | _ => simp [hp, Prog.result?] at ha

/-- **Rely-guarantee**: in every run every connection stays safe, and the committed store
moves only along `R`. -/
theorem Ok.run (hC : Contract ρ R G Q) {w w' : World ι σ κ τ ε α} (h : Ok ρ R G Q w)
    (hrun : Run ρ w w') : Ok ρ R G Q w' ∧ R {} w.committed w'.committed := by
  induction hrun with
  | refl => exact ⟨h, hC.refl _ _⟩
  | tail _ hstep ih =>
    obtain ⟨hok, hR⟩ := ih
    obtain ⟨hok', hR'⟩ := hok.step hC hstep
    exact ⟨hok', hC.trans _ _ _ _ hR hR'⟩

end World

end Transaction
