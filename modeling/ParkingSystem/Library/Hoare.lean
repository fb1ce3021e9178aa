import ParkingSystem.Library.Transaction

/-!
# Preconditions of Programs Run Alone

`wp clk Q p w`: run from the session `w`, the program `p` ends in `Q`. The postcondition `Q`
speaks of how the program ended and of the session it leaves; `returned Q` says something of
normal ends only.

## Rules

There is one rule for sequencing and one for each primitive in front of a continuation. A
primitive on a broken transaction raises, so the rules for queries, flushes and commits ask for
the postcondition there, and `wp_returned_*` are the same rules where nothing has to be said of
an exception.
-/

namespace Transaction

namespace Prog

variable {σ κ τ ε α β : Type} {clk : ℕ → ℤ}

/-- Run from `w`, the program ends in `Q`. -/
structure wp (clk : ℕ → ℤ) (Q : Except (Exc ε) α → Session σ → Prop) (p : Prog σ κ τ ε α)
    (w : Session σ) : Prop where
  ends : Q (p.exec clk w).1 (p.exec clk w).2

/-- A postcondition of normal ends. -/
def returned (Q : α → Session σ → Prop) : Except (Exc ε) α → Session σ → Prop
  | .ok a, w => Q a w
  | .error _, _ => True

/-- What the rest of a sequence needs from its first part. -/
def goesOn (clk : ℕ → ℤ) (Q : Except (Exc ε) β → Session σ → Prop) (f : α → Prog σ κ τ ε β) :
    Except (Exc ε) α → Session σ → Prop
  | .ok a, w => (f a).wp clk Q w
  | .error e, w => Q (.error e) w

variable {Q Q' : Except (Exc ε) α → Session σ → Prop} {P : Except (Exc ε) β → Session σ → Prop}
  {w : Session σ}

/-- How a program ended, by its precondition. -/
theorem wp.of_exec {p : Prog σ κ τ ε α} {w' : Session σ} {r : Except (Exc ε) α}
    (h : p.wp clk Q w) (hexec : p.exec clk w = (r, w')) : Q r w' := by
  have hends := h.ends
  rwa [hexec] at hends

/-- A program whose run is known. -/
theorem wp_of_exec {p : Prog σ κ τ ε α} {w' : Session σ} {r : Except (Exc ε) α}
    (hexec : p.exec clk w = (r, w')) (h : Q r w') : p.wp clk Q w :=
  ⟨by rwa [hexec]⟩

theorem wp.mono {p : Prog σ κ τ ε α} (h : p.wp clk Q w) (hQ : ∀ r w', Q r w' → Q' r w') :
    p.wp clk Q' w := ⟨hQ _ _ h.ends⟩

/-- A part of a transaction commits nothing. -/
theorem wp.of_writesOnly {p : Prog σ κ τ ε α} {S : Statement σ κ τ → Prop} (h : p.wp clk Q w)
    (hp : p.WritesOnly S) : p.wp clk (fun r w' => Q r w' ∧ w'.committed = w.committed) w :=
  ⟨h.ends, hp.exec_committed clk w⟩

theorem wp_bind {p : Prog σ κ τ ε α} {f : α → Prog σ κ τ ε β}
    (h : p.wp clk (goesOn clk P f) w) : (p.bind f).wp clk P w := by
  rcases hp : p.exec clk w with ⟨e | a, w'⟩
  · exact wp_of_exec (exec_bind_of_error hp) (h.of_exec hp)
  · have hrest : (f a).wp clk P w' := h.of_exec hp
    exact ⟨by rw [exec_bind_of_ok hp]; exact hrest.ends⟩

theorem wp_attempt {p : Prog σ κ τ ε α} {f : Except (Exc ε) α → Prog σ κ τ ε β}
    (h : p.wp clk (fun r w' => (f r).wp clk P w') w) : (p.attempt.bind f).wp clk P w :=
  wp_bind (wp_of_exec (exec_attempt clk p w) h.ends)

/-- What a handler of integrity errors needs from the body. -/
def handled (clk : ℕ → ℤ) (Q : Except (Exc ε) α → Session σ → Prop) (handler : Prog σ κ τ ε α) :
    Except (Exc ε) α → Session σ → Prop
  | .error (.rejected .integrity), w => handler.wp clk Q w
  | r, w => Q r w

theorem wp_onIntegrity {body handler : Prog σ κ τ ε α} (h : body.wp clk (handled clk Q handler) w) :
    (onIntegrity body handler).wp clk Q w := by
  rcases hbody : body.exec clk w with ⟨e | a, w'⟩
  · have hend := h.of_exec hbody
    by_cases he : e = .rejected .integrity
    · subst he
      exact ⟨by rw [exec_onIntegrity_rejected hbody]; exact hend.ends⟩
    · refine wp_of_exec (exec_onIntegrity_error hbody he) ?_
      unfold handled at hend
      split at hend
      · exact absurd (Except.error.inj ‹_›) he
      · exact hend
  · exact wp_of_exec (exec_onIntegrity_ok hbody) (h.of_exec hbody)

/-! ## Primitives -/

theorem wp_ret {a : α} (h : Q (.ok a) w) : (ret a : Prog σ κ τ ε α).wp clk Q w := ⟨h⟩

theorem wp_throw {e : Exc ε} (h : Q (.error e) w) : (throw e : Prog σ κ τ ε α).wp clk Q w := ⟨h⟩

theorem wp_raise {e : ε} (h : Q (.error (.app e)) w) :
    (raise e : Prog σ κ τ ε α).wp clk Q w := ⟨h⟩

theorem wp_newId {k : ℕ → Prog σ κ τ ε β}
    (h : (k w.nextId).wp clk P { w with nextId := w.nextId + 1 }) :
    ((newId : Prog σ κ τ ε ℕ).bind k).wp clk P w := ⟨h.ends⟩

theorem wp_getTime {k : ℤ → Prog σ κ τ ε β}
    (h : (k (clk w.tick)).wp clk P { w with tick := w.tick + 1 }) :
    ((getTime : Prog σ κ τ ε ℤ).bind k).wp clk P w := ⟨h.ends⟩

theorem wp_rollback {k : Unit → Prog σ κ τ ε β}
    (h : (k ()).wp clk P { w with view := w.committed, broken := false }) :
    ((rollbackTx : Prog σ κ τ ε Unit).bind k).wp clk P w := ⟨h.ends⟩

theorem wp_select {f : σ → α} {k : α → Prog σ κ τ ε β}
    (hbroken : w.broken = true → P (.error .pendingRollback) w)
    (h : w.broken = false → (k (f w.view)).wp clk P w) : ((select f).bind k).wp clk P w := by
  refine wp_bind ?_
  cases hb : w.broken with
  | true => exact wp_of_exec (exec_select_broken clk f hb) (hbroken hb)
  | false => exact wp_of_exec (exec_select clk f hb) (h hb)

theorem wp_flush {s : Statement σ κ τ} {k : Unit → Prog σ κ τ ε β}
    (hbroken : w.broken = true → P (.error .pendingRollback) w)
    (hrejected : w.broken = false → ∀ r, s.check w.view = some r →
      P (.error (.rejected r)) { w with broken := true })
    (h : w.broken = false → s.check w.view = none →
      (k ()).wp clk P { w with view := s.apply w.view }) : ((flush s).bind k).wp clk P w := by
  refine wp_bind ?_
  cases hb : w.broken with
  | true => exact wp_of_exec (exec_flush_broken clk s hb) (hbroken hb)
  | false =>
    cases hc : s.check w.view with
    | none => exact wp_of_exec (exec_flush_done clk s hb hc) (h hb hc)
    | some r => exact wp_of_exec (exec_flush_rejected clk s hb hc) (hrejected hb r hc)

/-- A flush at the end of a program. -/
theorem wp_flush_last {s : Statement σ κ τ} {P : Except (Exc ε) Unit → Session σ → Prop}
    (hbroken : w.broken = true → P (.error .pendingRollback) w)
    (hrejected : w.broken = false → ∀ r, s.check w.view = some r →
      P (.error (.rejected r)) { w with broken := true })
    (h : w.broken = false → s.check w.view = none →
      P (.ok ()) { w with view := s.apply w.view }) :
    (flush s : Prog σ κ τ ε Unit).wp clk P w := by
  rw [← bind_ret (flush s)]
  exact wp_flush hbroken hrejected fun hb hc => wp_ret (h hb hc)

theorem wp_commit {k : Unit → Prog σ κ τ ε β}
    (hbroken : w.broken = true → P (.error .pendingRollback) w)
    (h : w.broken = false → (k ()).wp clk P { w with committed := w.view }) :
    ((commitTx : Prog σ κ τ ε Unit).bind k).wp clk P w := by
  refine wp_bind ?_
  cases hb : w.broken with
  | true =>
    have hexec : (commitTx : Prog σ κ τ ε Unit).exec clk w = (.error .pendingRollback, w) := by
      simp [commitTx, exec_commit, hb]
    exact wp_of_exec hexec (hbroken hb)
  | false => exact wp_of_exec (exec_commitTx clk hb) (h hb)

/-- A commit at the end of a program. -/
theorem wp_commit_last {P : Except (Exc ε) Unit → Session σ → Prop}
    (hbroken : w.broken = true → P (.error .pendingRollback) w)
    (h : w.broken = false → P (.ok ()) { w with committed := w.view }) :
    (commitTx : Prog σ κ τ ε Unit).wp clk P w := by
  rw [← bind_ret commitTx]
  exact wp_commit hbroken fun hb => wp_ret (h hb)

/-- A program that can only end normally does. -/
theorem wp.exec_ok {R : α → Session σ → Prop} {p : Prog σ κ τ ε α}
    (h : p.wp clk (fun r w' => ∃ a, r = .ok a ∧ R a w') w) :
    ∃ a w', p.exec clk w = (.ok a, w') ∧ R a w' := by
  obtain ⟨a, hok, ha⟩ := h.ends
  exact ⟨a, _, Prod.ext hok rfl, ha⟩

/-! ## Normal ends -/

section

variable {R R' : α → Session σ → Prop} {S : β → Session σ → Prop}

theorem wp.of_ok {p : Prog σ κ τ ε α} {w' : Session σ} {a : α} (h : p.wp clk (returned R) w)
    (hexec : p.exec clk w = (.ok a, w')) : R a w' := h.of_exec hexec

theorem wp.returned_mono {p : Prog σ κ τ ε α} (h : p.wp clk (returned R) w)
    (hR : ∀ a w', R a w' → R' a w') : p.wp clk (returned R') w := by
  refine h.mono fun r w' hr => ?_
  cases r with
  | ok a => exact hR a w' hr
  | error e => trivial

/-- Nothing is known of an end. -/
theorem wp_trivial (p : Prog σ κ τ ε α) : p.wp clk (returned fun _ _ => True) w := by
  rcases hp : p.exec clk w with ⟨e | a, w'⟩
  · exact wp_of_exec hp trivial
  · exact wp_of_exec hp trivial

/-- A normal end is the end of the run. -/
theorem wp.and_exec {p : Prog σ κ τ ε α} (h : p.wp clk (returned R) w) :
    p.wp clk (returned fun a w' => R a w' ∧ p.exec clk w = (.ok a, w')) w := by
  rcases hp : p.exec clk w with ⟨e | a, w'⟩
  · exact wp_of_exec hp trivial
  · exact wp_of_exec hp ⟨h.of_ok hp, rfl⟩

/-- What the first part ends in is what the second part starts from. -/
theorem wp_returned_bind {p : Prog σ κ τ ε α} {f : α → Prog σ κ τ ε β}
    (h : p.wp clk (returned R) w) (hf : ∀ a w', R a w' → (f a).wp clk (returned S) w') :
    (p.bind f).wp clk (returned S) w := by
  refine wp_bind (h.mono fun r w' hr => ?_)
  cases r with
  | ok a => exact hf a w' hr
  | error e => trivial

theorem wp_returned_select {f : σ → α} {k : α → Prog σ κ τ ε β}
    (h : (k (f w.view)).wp clk (returned S) w) : ((select f).bind k).wp clk (returned S) w :=
  wp_select (fun _ => trivial) fun _ => h

theorem wp_returned_flush {s : Statement σ κ τ} {k : Unit → Prog σ κ τ ε β}
    (h : s.check w.view = none →
      (k ()).wp clk (returned S) { w with view := s.apply w.view }) :
    ((flush s).bind k).wp clk (returned S) w :=
  wp_flush (fun _ => trivial) (fun _ _ _ => trivial) fun _ => h

theorem wp_returned_flush_last {s : Statement σ κ τ} {R : Unit → Session σ → Prop}
    (h : s.check w.view = none → R () { w with view := s.apply w.view }) :
    (flush s : Prog σ κ τ ε Unit).wp clk (returned R) w :=
  wp_flush_last (fun _ => trivial) (fun _ _ _ => trivial) fun _ => h

theorem wp_returned_commit {k : Unit → Prog σ κ τ ε β}
    (h : (k ()).wp clk (returned S) { w with committed := w.view }) :
    ((commitTx : Prog σ κ τ ε Unit).bind k).wp clk (returned S) w :=
  wp_commit (fun _ => trivial) fun _ => h

end

/-! ## Invariants

`held I R`: the invariant `I` at every end, and `R` at the normal ones. -/

/-- An invariant, and a postcondition of normal ends. -/
def held (I : Session σ → Prop) (R : α → Session σ → Prop) (r : Except (Exc ε) α)
    (w : Session σ) : Prop :=
  I w ∧ returned R r w

section

variable {I : Session σ → Prop} {R : α → Session σ → Prop} {S : β → Session σ → Prop}

theorem wp_held_ret {a : α} (hI : I w) (h : R a w) :
    (ret a : Prog σ κ τ ε α).wp clk (held I R) w := wp_ret ⟨hI, h⟩

theorem wp_held_raise {e : ε} (hI : I w) : (raise e : Prog σ κ τ ε α).wp clk (held I R) w :=
  wp_raise ⟨hI, trivial⟩

theorem wp_held_bind {p : Prog σ κ τ ε α} {f : α → Prog σ κ τ ε β}
    (h : p.wp clk (held I R) w) (hf : ∀ a w', I w' → R a w' → (f a).wp clk (held I S) w') :
    (p.bind f).wp clk (held I S) w := by
  refine wp_bind (h.mono fun r w' hr => ?_)
  cases r with
  | ok a => exact hf a w' hr.1 hr.2
  | error e => exact ⟨hr.1, trivial⟩

theorem wp_held_select {f : σ → α} {k : α → Prog σ κ τ ε β} (hI : I w)
    (h : (k (f w.view)).wp clk (held I S) w) : ((select f).bind k).wp clk (held I S) w :=
  wp_select (fun _ => ⟨hI, trivial⟩) fun _ => h

theorem wp_held_flush {s : Statement σ κ τ} {k : Unit → Prog σ κ τ ε β} (hI : I w)
    (hrejected : ∀ r, s.check w.view = some r → I { w with broken := true })
    (h : s.check w.view = none →
      (k ()).wp clk (held I S) { w with view := s.apply w.view }) :
    ((flush s).bind k).wp clk (held I S) w :=
  wp_flush (fun _ => ⟨hI, trivial⟩) (fun _ r hr => ⟨hrejected r hr, trivial⟩) fun _ => h

theorem wp_held_flush_last {s : Statement σ κ τ} {R : Unit → Session σ → Prop} (hI : I w)
    (hrejected : ∀ r, s.check w.view = some r → I { w with broken := true })
    (h : s.check w.view = none → I { w with view := s.apply w.view } ∧
      R () { w with view := s.apply w.view }) :
    (flush s : Prog σ κ τ ε Unit).wp clk (held I R) w :=
  wp_flush_last (fun _ => ⟨hI, trivial⟩) (fun _ r hr => ⟨hrejected r hr, trivial⟩) fun _ hc => h hc

theorem wp_held_commit {k : Unit → Prog σ κ τ ε β} (hI : I w)
    (h : (k ()).wp clk (held I S) { w with committed := w.view }) :
    ((commitTx : Prog σ κ τ ε Unit).bind k).wp clk (held I S) w :=
  wp_commit (fun _ => ⟨hI, trivial⟩) fun _ => h

theorem wp_held_commit_last {R : Unit → Session σ → Prop} (hI : I w)
    (h : I { w with committed := w.view } ∧ R () { w with committed := w.view }) :
    (commitTx : Prog σ κ τ ε Unit).wp clk (held I R) w := by
  rw [← bind_ret commitTx]
  exact wp_held_commit hI (wp_ret h)

end

/-! ## Invariants of the store

An invariant of the store and of the identifiers that were drawn: it holds of what is committed and
of what the session sees, so that a commit keeps it wherever it comes. -/

/-- The invariant holds of both sides of a session. -/
structure Stored (I : σ → ℕ → Prop) (w : Session σ) : Prop where
  committed : I w.committed w.nextId
  view : I w.view w.nextId

section

variable {I : σ → ℕ → Prop} {R : α → Session σ → Prop} {S : β → Session σ → Prop}

/-- A session opened on a store that has the invariant. -/
theorem stored_fresh {s : σ} {n tick : ℕ} (h : I s n) : Stored I (.fresh s n tick) := ⟨h, h⟩

theorem Stored.ticked (h : Stored I w) : Stored I { w with tick := w.tick + 1 } :=
  ⟨h.committed, h.view⟩

theorem Stored.drew (hmono : ∀ s n, I s n → I s (n + 1)) (h : Stored I w) :
    Stored I { w with nextId := w.nextId + 1 } :=
  ⟨hmono _ _ h.committed, hmono _ _ h.view⟩

theorem wp_stored_flush {s : Statement σ κ τ} {k : Unit → Prog σ κ τ ε β} (h : Stored I w)
    (hk : s.check w.view = none → (k ()).wp clk (held (Stored I) S)
      { w with view := s.apply w.view }) : ((flush s).bind k).wp clk (held (Stored I) S) w :=
  wp_held_flush h (fun _ _ => ⟨h.committed, h.view⟩) hk

theorem wp_stored_flush_last {s : Statement σ κ τ} {R : Unit → Session σ → Prop} (h : Stored I w)
    (hs : s.check w.view = none → I (s.apply w.view) w.nextId ∧
      R () { w with view := s.apply w.view }) :
    (flush s : Prog σ κ τ ε Unit).wp clk (held (Stored I) R) w :=
  wp_held_flush_last h (fun _ _ => ⟨h.committed, h.view⟩) fun hc =>
    ⟨⟨h.committed, (hs hc).1⟩, (hs hc).2⟩

theorem wp_stored_commit_last {R : Unit → Session σ → Prop} (h : Stored I w)
    (hR : R () { w with committed := w.view }) :
    (commitTx : Prog σ κ τ ε Unit).wp clk (held (Stored I) R) w :=
  wp_held_commit_last h ⟨⟨h.view, h.view⟩, hR⟩

/-- A part with the invariant, where nothing more is needed of its normal ends. -/
theorem wp.held_mono {R' : α → Session σ → Prop} {p : Prog σ κ τ ε α}
    (h : p.wp clk (held (Stored I) R) w) (hR : ∀ a w', Stored I w' → R a w' → R' a w') :
    p.wp clk (held (Stored I) R') w := by
  refine h.mono fun r w' hr => ⟨hr.1, ?_⟩
  cases r with
  | ok a => exact hR a w' hr.1 hr.2
  | error e => trivial

/-- What a program with the invariant leaves to the next one. -/
theorem wp.after_stored {p : Prog σ κ τ ε α}
    (h : p.wp clk (held (Stored I) R) (.fresh w.committed w.nextId w.tick)) :
    I (p.after clk w).committed (p.after clk w).nextId := h.ends.1.committed

end

end Prog

end Transaction
